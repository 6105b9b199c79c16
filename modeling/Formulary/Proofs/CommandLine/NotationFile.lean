import Formulary.Proofs.CommandLine.Run
import Formulary.Proofs.Notation.File
import Mathlib.Data.List.Permutation

namespace Formulary.CommandLine

section Given

variable (o : Options) (p : Path) (octets : List UInt8) (files : Files)
  (hgiven : o.table = .path p) (hpresent : files p = .file octets)

include hgiven hpresent

theorem Options.hasTable_of_holds (symbols : OrderedMap Value) (functions : OrderedMap Spec)
    (h : Notation.Holds octets symbols functions) :
    ∃ table, Notation.default.extend symbols functions = .ok table ∧ o.HasTable files table := by
  obtain ⟨table, hextend, hload⟩ := Notation.load_of_holds p.text octets none symbols functions h
  exact ⟨table, hextend, .loaded p octets _ hgiven hpresent hload⟩

-- A file that holds no notation is refused by its name, and that is all a run does with it
theorem run_of_not_holds (wording : Source.Wording) (arguments : List Text) (input : String)
    (hargs : Options.ofArguments arguments = .ok o)
    (h : ¬ ∃ symbols functions, Notation.Holds octets symbols functions) :
    ∃ fault, Notation.load p.text octets none = .error fault ∧
      run wording arguments input files =
        .stop ("invalid notation file " ++ p.text ++ ": " ++ fault.message) := by
  rw [← Notation.load_isOk_iff p.text octets none] at h
  cases hload : Notation.load p.text octets none with
  | ok loaded => exact absurd ⟨loaded, hload⟩ h
  | error fault =>
      have hrefused := o.loadTable_of_refused files _ (.invalid p octets fault hgiven hpresent hload)
      exact ⟨fault, rfl, run_of_loadTable_error wording arguments o input files hargs _ hrefused⟩

end Given

-- A file is a notation file exactly if it holds a notation written down, whatever it is laid over, and to
-- load it is to extend that by what is written. With any other file a run ends before it prints anything
theorem notation_file_extends_or_stops (octets : List UInt8) :
    (∀ path base, (∃ loaded, Notation.load path octets base = .ok loaded) ↔
      ∃ symbols functions, Notation.Holds octets symbols functions) ∧
    (∀ path base symbols functions, Notation.Holds octets symbols functions →
      ∃ table, (base.getD .default).extend symbols functions = .ok table ∧
        Notation.load path octets base = .ok ⟨table, symbols.size, functions.size⟩) ∧
    ∀ wording arguments o p input files, Options.ofArguments arguments = .ok o → o.table = .path p →
      files p = .file octets →
      (∀ symbols functions, Notation.Holds octets symbols functions →
        ∃ table, Notation.default.extend symbols functions = .ok table ∧ o.HasTable files table) ∧
      ((¬ ∃ symbols functions, Notation.Holds octets symbols functions) →
        ∃ fault, Notation.load p.text octets none = .error fault ∧
          run wording arguments input files =
            .stop ("invalid notation file " ++ p.text ++ ": " ++ fault.message)) := by
  refine ⟨fun path base => Notation.load_isOk_iff path octets base,
    fun path base symbols functions h => Notation.load_of_holds path octets base symbols functions h,
    fun wording arguments o p input files hargs hgiven hpresent => ⟨fun symbols functions h => ?_, fun h => ?_⟩⟩
  · exact o.hasTable_of_holds p octets files hgiven hpresent symbols functions h
  · exact run_of_not_holds o p octets files hgiven hpresent wording arguments input hargs h

-- Of two symbols of one name the last counts, and over no notation nothing but the file is known. A file
-- that is no object stops a run
theorem notation_file_extends_or_stops_of_repeated_name :
    let octets := Text.Utf8.encode
      ("\x7b\"symbols\": \x7b\"x\": \"a\", \"y\": \"b\", \"x\": \"c\"\x7d, " ++
        "\"functions\": \x7b\"f\": \x7b\"kind\": \"infix\", \"separator\": \"+\"\x7d\x7d\x7d").toList
    let symbols : List (Text × Value) := [("x", .text "a"), ("y", .text "b"), ("x", .text "c")]
    let spec : Spec := .ofList [("kind", .text "infix"), ("separator", .text "+")]
    let table : Notation :=
      ⟨.ofList [("x", ⟨"x", "c"⟩), ("y", ⟨"y", "b"⟩)], .ofList [("f", ⟨"f", .between "+"⟩)]⟩
    let list := Text.Utf8.encode ['[', ']']
    let wording : Source.Wording := fun _ => ⟨"invalid syntax", some 1⟩
    Notation.Holds octets (.ofList symbols) (.ofList [("f", spec)]) ∧
      Notation.load "n" octets (some .empty) = .ok ⟨table, 2, 1⟩ ∧
      (¬ ∃ symbols functions, Notation.Holds list symbols functions) ∧
      run wording ["x", "--notation", "n"] "" (Files.ofList [(⟨"", ["n"]⟩, list)]) =
        .stop "invalid notation file n: notation file n must contain a JSON object" := by
  intro octets symbols spec table list wording
  have htexts : ∀ e ∈ (OrderedMap.ofList symbols).entries, ∃ text, e.2 = .text text := by
    change ∀ e ∈ [(("x" : Text), Value.text "c"), ("y", .text "b")], ∃ text, e.2 = .text text
    simp
  have haccepted : ∀ e ∈ [(("f" : Text), spec)], ∃ f, FunctionBinding.ofSpec e.1 e.2 = .ok f :=
    List.forall_mem_singleton.mpr ⟨⟨"f", .between "+"⟩, rfl⟩
  have hholds : Notation.Holds octets (.ofList symbols) (.ofList [("f", spec)]) :=
    ⟨_, _, rfl, by cbv, .object
      [("symbols", Json.objectOf symbols),
       ("functions", Json.objectOf [("f", Json.objectOf spec.entries)])]
      symbols [("f", Json.objectOf spec.entries)] _ (.present _ rfl) htexts (.present _ rfl) rfl haccepted⟩
  have hlist : Notation.load "n" list none = .error (.notObject "n") := by
    have hread : Notation.read list = .ok (.list []) :=
      (Notation.read_eq_ok_iff _ _).mpr ⟨['[', ']'], rfl, by cbv⟩
    rw [Notation.load, hread]
    rfl
  obtain ⟨hiff, -, hrun⟩ := notation_file_extends_or_stops list
  have hnone : ¬ ∃ symbols functions, Notation.Holds list symbols functions := by
    rw [← hiff "n" none, hlist]
    rintro ⟨loaded, h⟩
    cases h
  refine ⟨hholds, ?_, hnone, ?_⟩
  · obtain ⟨-, hload, -⟩ := notation_file_extends_or_stops octets
    obtain ⟨_, hextend, hload⟩ := hload "n" (some .empty) _ _ hholds
    obtain rfl := Except.ok.inj hextend
    exact hload
  · obtain ⟨-, hstop⟩ := hrun wording ["x", "--notation", "n"] _ ⟨"", ["n"]⟩ ""
      (Files.ofList [(⟨"", ["n"]⟩, list)]) rfl rfl rfl
    obtain ⟨fault, hfault, hstop⟩ := hstop hnone
    have hname : (⟨"", ["n"]⟩ : Path).text = "n" := rfl
    rw [hname, hlist] at hfault
    cases hfault
    exact hstop

end Formulary.CommandLine
