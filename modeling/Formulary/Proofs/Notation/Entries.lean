import Formulary.Proofs.Binding
import Formulary.Proofs.Notation.Reachable

namespace Formulary

theorem OrderedMap.keys_prefix_put {α : Type} (key : Text) (value : α)
    (entries : List (Text × α)) :
    entries.map Prod.fst <+: (put key value entries).map Prod.fst := by
  induction entries with
  | nil => exact List.nil_prefix
  | cons e rest ih =>
      rw [put]
      split
      · rename_i hkey
        simp [hkey]
      · exact (List.prefix_cons_inj e.1).mpr ih

-- Whatever is laid over a table, its names keep their places in front
theorem OrderedMap.keys_prefix_overlay {α : Type} (map : OrderedMap α)
    (extra : List (Text × α)) : map.keys <+: (map.overlay extra).keys := by
  induction extra generalizing map with
  | nil => exact List.prefix_rfl
  | cons e rest ih =>
      exact (keys_prefix_put e.1 e.2 map.entries).trans (ih (map.insert e.1 e.2))

-- The argument that a slot asks for. No argument is numbered zero, and there is none past the last
def Piece.argument? (args : List Text) : Nat → Option Text
  | 0 => none
  | n + 1 => args[n]?

-- With as many arguments as it takes, a template finds one for each of its slots
theorem Template.argument?_of_slot (t : Template) (args : List Text)
    (h : args.length = t.arity) (number : Nat) (hslot : number ∈ Piece.slots t.pieces) :
    Piece.argument? args number = some (Piece.fill args (.slot number)) := by
  have hpos := t.slots_pos number hslot
  have hle := t.slots_le number hslot
  cases number with
  | zero => omega
  | succ n =>
      have hn : n < args.length := by omega
      simp [Piece.argument?, Piece.fill, hn]

theorem FunctionBinding.invoke_isOk_iff_arity (f : FunctionBinding) (args : List Text) :
    (∃ text, f.invoke args = .ok text) ↔
      f.rendering.arity = none ∨ f.rendering.arity = some args.length := by
  rw [f.invoke_isOk_iff args]
  cases f.rendering.arity with
  | none => simp
  | some n => simp [eq_comm]

namespace Notation

-- The names of a notation are names of another one, in the same order and before all others
structure Extends (table table' : Notation) : Prop where
  symbols : table.symbols.keys <+: table'.symbols.keys
  functions : table.functions.keys <+: table'.functions.keys

theorem extends_of_extend (table table' : Notation) (symbols : OrderedMap Value)
    (functions : OrderedMap Spec) (h : table.extend symbols functions = .ok table') :
    table.Extends table' := by
  obtain ⟨newSymbols, newFunctions, rfl, -⟩ := extend_eq_ok _ _ _ _ h
  exact ⟨table.symbols.keys_prefix_overlay newSymbols,
    table.functions.keys_prefix_overlay newFunctions⟩

theorem extends_of_load (path : Text) (octets : List UInt8) (base : Option Notation)
    (loaded : Loaded) (h : load path octets base = .ok loaded) :
    (base.getD .default).Extends loaded.table := by
  obtain ⟨symbols, functions, hextend⟩ := load_eq_ok path octets base loaded h
  exact extends_of_extend _ _ _ _ hextend

theorem Reachable.ofSpecs (table : Notation) (symbols : OrderedMap Value)
    (functions : OrderedMap Spec) (h : ofSpecs symbols functions = .ok table) :
    table.Reachable :=
  .extend .empty table symbols functions .empty h

-- The names of a notation that can be reached are right and are never lost, and each of its functions
-- sets any arguments in the right number. A wrong number is told with the right one, if that can be
-- written, and a template never looks for an argument that is not there
theorem Reachable.entries_hold (table : Notation) (h : table.Reachable) :
    (∀ key s, (key, s) ∈ table.symbols.entries → s.name = key) ∧
    (∀ symbols functions table', table.extend symbols functions = .ok table' →
      table.Extends table') ∧
    (∀ path octets base loaded, base.getD .default = table →
      Notation.load path octets base = .ok loaded → table.Extends loaded.table) ∧
    ∀ key f, (key, f) ∈ table.functions.entries →
      f.name = key ∧ ∀ args : List Text,
        ((∃ text, f.invoke args = .ok text) ↔
          f.rendering.arity = none ∨ f.rendering.arity = some args.length) ∧
        (∀ failure, f.invoke args = .error failure ↔
          ∃ n, f.rendering.arity = some n ∧ args.length ≠ n ∧
            failure = (Failure.arity key n args.length).told) ∧
        (∀ n, f.rendering.arity = some n → args.length ≠ n →
          (f.invoke args = .error (.arity key n args.length) ↔ hasDecimalText n = true)) ∧
        ∀ t, f.rendering = .template t → args.length = t.arity →
          ∀ number ∈ Piece.slots t.pieces,
            Piece.argument? args number = some (Piece.fill args (.slot number)) := by
  have hkeyed := h.keyed
  refine ⟨fun key s he => hkeyed.symbol (key, s) he, fun _ _ _ hextend =>
    extends_of_extend _ _ _ _ hextend, fun path octets base loaded hbase hload => ?_,
    fun key f he => ?_⟩
  · rw [← hbase]
    exact extends_of_load path octets base loaded hload
  · obtain rfl : f.name = key := hkeyed.function (key, f) he
    refine ⟨rfl, fun args => ⟨f.invoke_isOk_iff_arity args, f.invoke_eq_error_iff args,
      fun n hn hne => ?_, fun t _ hcount => t.argument?_of_slot args hcount⟩⟩
    have htold : f.invoke args = .error (Failure.arity f.name n args.length).told :=
      (f.invoke_eq_error_iff args _).mpr ⟨n, hn, hne, rfl⟩
    rw [htold, Except.error.injEq]
    exact (Failure.arity f.name n args.length).told_eq_self_iff

theorem mem_functions_default (e : String × Rendering) (h : e ∈ knownRenderings) :
    ((e.1 : Text), (⟨e.1, e.2⟩ : FunctionBinding)) ∈ default.functions.entries := by
  have hnodup : ((knownRenderings.map fun e =>
      ((e.1 : Text), (⟨e.1, e.2⟩ : FunctionBinding))).map Prod.fst).Nodup := by
    rw [List.map_map]
    decide +kernel
  change _ ∈ (OrderedMap.ofList _).entries
  rw [OrderedMap.entries_ofList _ hnodup]
  exact List.mem_map_of_mem h

-- A fraction has a numerator and a denominator, and no less
theorem entries_hold_of_fraction :
    let f : FunctionBinding := ⟨"frac", fraction⟩
    default.Reachable ∧ f.invoke ["x"] = .error (.arity "frac" 2 1) ∧
      ∃ text, f.invoke ["x", "y"] = .ok text := by
  intro f
  obtain ⟨-, -, -, hfunctions⟩ := Reachable.entries_hold .default .default
  have hknown : ("frac", fraction) ∈ knownRenderings := List.mem_of_getElem? (i := 20) rfl
  obtain ⟨-, hinvoke⟩ := hfunctions "frac" f (mem_functions_default ("frac", fraction) hknown)
  refine ⟨.default, ?_, ?_⟩
  · exact ((hinvoke ["x"]).2.2.1 2 rfl (by decide)).mpr (by decide +kernel)
  · exact (hinvoke ["x", "y"]).1.mpr (.inr rfl)

-- A template without slots may ask for any number of arguments
theorem ofSpecs_of_constant_template (n : Nat) :
    let spec : Spec :=
      .ofList [("kind", .text "template"), ("pattern", .text "x"), ("arity", .integer n)]
    ∃ t : Template, t.arity = n ∧ Notation.ofSpecs .empty (.ofList [("f", spec)]) =
      .ok ⟨.empty, .ofList [("f", ⟨"f", .template t⟩)]⟩ := by
  intro spec
  obtain ⟨t, ht, harity⟩ := Template.ofPattern_eq_ok "f" "x" n
    (fun number h => nomatch h) (Nat.zero_le n)
  have htemplate : spec.template "f" = .ok (.template t) := by
    refine (bind_eq_ok_iff _ _ _).mpr ⟨some n, rfl, (bind_eq_ok_iff _ _ _).mpr ⟨"x", rfl, ?_⟩⟩
    rw [ht]
    rfl
  have hspec : FunctionBinding.ofSpec "f" spec = .ok ⟨"f", .template t⟩ := by
    have hrendering : spec.rendering? "f" = some (.ok (.template t)) := by
      rw [← htemplate]
      rfl
    rw [FunctionBinding.ofSpec, hrendering]
  have hfunctions :
      Notation.functionEntries [("f", spec)] = .ok [("f", ⟨"f", .template t⟩)] := by
    simp only [Notation.functionEntries, List.mapM_cons, hspec]
    rfl
  exact ⟨t, harity,
    Notation.extend_of_entries .empty .empty (.ofList [("f", spec)]) [] _ rfl hfunctions⟩

-- A number of 4301 digits cannot be written, and the wrong number of arguments is not told
theorem invoke_hides_arity_of_long_number :
    let spec : Spec :=
      .ofList [("kind", .text "template"), ("pattern", .text "x"),
        ("arity", .integer (Nat.pow 10 4300))]
    ∃ (table : Notation) (f : FunctionBinding),
      Notation.ofSpecs .empty (.ofList [("f", spec)]) = .ok table ∧
      (("f" : Text), f) ∈ table.functions.entries ∧ f.rendering.arity = some (Nat.pow 10 4300) ∧
      f.invoke [] = .error .longInteger := by
  intro spec
  obtain ⟨t, harity, htable⟩ := ofSpecs_of_constant_template (Nat.pow 10 4300)
  refine ⟨_, ⟨"f", .template t⟩, htable, List.mem_singleton_self _, congrArg some harity, ?_⟩
  have hpos : 0 < Nat.pow 10 4300 := by decide +kernel
  refine (FunctionBinding.invoke_eq_error_iff _ _ _).mpr
    ⟨_, congrArg some harity, Nat.ne_of_lt hpos, ?_⟩
  have hlong : hasDecimalText (Nat.pow 10 4300) = false := by decide +kernel
  simp only [Failure.miscounted, hlong]
  rfl

end Notation

end Formulary
