import Formulary.Proofs.Json.Document
import Formulary.Proofs.Notation.Reachable
import Formulary.Proofs.Text.Utf8

namespace Formulary.Notation

open Json

-- The members of the object under a name, an absent one having no members. Of members of one name the
-- last counts
inductive Section (object : List (Text × Value)) (name : Text) : List (Text × Value) → Prop
  | absent (h : object.reverse.lookup name = none) : Section object name []
  | present (members : List (Text × Value))
      (h : object.reverse.lookup name = some (objectOf members)) : Section object name members

-- A value that is a notation written down: an object whose symbols are texts and whose functions are
-- descriptions that stand for functions. Whatever else it holds does not matter
inductive Describes : Value → OrderedMap Value → OrderedMap Spec → Prop
  | object (members symbols functions : List (Text × Value)) (specs : OrderedMap Spec)
      (hsymbols : Section members "symbols" symbols)
      (htexts : ∀ e ∈ (OrderedMap.ofList symbols).entries, ∃ text, e.2 = .text text)
      (hfunctions : Section members "functions" functions)
      (hspecs : (OrderedMap.ofList functions).entries =
        specs.entries.map fun e => (e.1, objectOf e.2.entries))
      (haccepted : ∀ e ∈ specs.entries, ∃ f, FunctionBinding.ofSpec e.1 e.2 = .ok f) :
      Describes (objectOf members) (.ofList symbols) specs

-- The content of a file that is a notation written down: the octets of a text that is a document
def Holds (octets : List UInt8) (symbols : OrderedMap Value) (functions : OrderedMap Spec) : Prop :=
  ∃ text v, octets = Text.Utf8.encode text ∧ Json.read (Text.unifyLineEnds text) = .ok v ∧
    Describes v symbols functions

theorem textOf_encode (text : List Char) :
    textOf (Text.Utf8.encode text) = .ok (Text.unifyLineEnds text) := by
  rw [textOf, (Text.Utf8.decode_eq_ok_iff _ text).mpr rfl]
  rfl

theorem read_eq_ok_iff (octets : List UInt8) (v : Value) :
    read octets = .ok v ↔
      ∃ text, octets = Text.Utf8.encode text ∧ Json.read (Text.unifyLineEnds text) = .ok v := by
  simp only [read, textOf, ← Text.Utf8.decode_eq_ok_iff]
  cases Text.Utf8.decode octets with
  | error refusal => simp [bind, Except.bind]
  | ok text =>
      simp only [bind, Except.bind, pure, Except.pure, Except.ok.injEq, exists_eq_left']
      cases Json.read (Text.unifyLineEnds text) <;> simp

theorem membersOf?_objectOf (members : List (Text × Value)) :
    membersOf? (objectOf members) = some (.ofList members) := by
  have hkept (entries : List (Text × Value)) : entries.filterMap (fun e => some (e.1, e.2)) = entries :=
    List.filterMap_some
  simp only [objectOf, membersOf?, List.filterMap_map, Function.comp_def, hkept,
    OrderedMap.ofList_entries]

-- Only the values that documents write as objects have members, and these are documents too
theorem eq_objectOf_of_membersOf? (v : Value) (hv : Document v) (object : OrderedMap Value)
    (h : membersOf? v = some object) :
    (∃ members, v = objectOf members ∧ object = .ofList members) ∧
      ∀ e ∈ object.entries, Document e.2 := by
  cases hv with
  | object members hmembers =>
      rw [membersOf?_objectOf] at h
      obtain rfl := Option.some.inj h
      refine ⟨⟨members, rfl, rfl⟩, fun e he => ?_⟩
      rcases OrderedMap.mem_of_mem_entries_overlay .empty members e he with he | he
      · cases he
      · exact hmembers e he
  | _ => cases h

section Object

variable (object : List (Text × Value))
  (hobject : ∀ e ∈ (OrderedMap.ofList object).entries, Document e.2)

include hobject

theorem document_of_lookup (name : Text) (v : Value) (h : object.reverse.lookup name = some v) :
    Document v :=
  hobject (name, v) (OrderedMap.mem_entries_of_get? _ name v ((OrderedMap.get?_ofList _ _).trans h))

theorem section?_eq_some_iff (name : String) (part : OrderedMap Value) :
    (section? (.ofList object) name = some part) ↔
      ∃ members, Section object name members ∧ part = .ofList members := by
  rw [section?, OrderedMap.get?_ofList]
  constructor
  · intro h
    cases hlookup : object.reverse.lookup (Text.ofString name) with
    | none =>
        rw [hlookup] at h
        cases h
        exact ⟨[], .absent hlookup, rfl⟩
    | some v =>
        rw [hlookup] at h
        have hv := document_of_lookup object hobject _ v hlookup
        obtain ⟨⟨members, rfl, rfl⟩, -⟩ := eq_objectOf_of_membersOf? v hv part h
        exact ⟨members, .present members hlookup, rfl⟩
  · rintro ⟨members, hsection, rfl⟩
    cases hsection with
    | absent h =>
        rw [h]
        rfl
    | present _ h =>
        rw [h]
        exact membersOf?_objectOf members

theorem Section.documents (name : Text) (members : List (Text × Value))
    (h : Section object name members) : ∀ e ∈ (OrderedMap.ofList members).entries, Document e.2 := by
  cases h with
  | absent _ => exact fun e he => nomatch he
  | present _ h =>
      have hv := document_of_lookup object hobject name _ h
      exact (eq_objectOf_of_membersOf? _ hv _ (membersOf?_objectOf members)).2

end Object

theorem objectOf_entries_ofList (members : List (Text × Value)) :
    objectOf (OrderedMap.ofList members).entries = objectOf members := by
  rw [objectOf, OrderedMap.ofList_entries, objectOf]

-- A description of a function is a member that is an object
theorem specOf_eq_ok_iff (path : Text) (e : Text × Value) (he : Document e.2) (spec : Text × Spec) :
    specOf path e = .ok spec ↔ e = (spec.1, objectOf spec.2.entries) := by
  constructor
  · intro h
    unfold specOf at h
    split at h
    · rename_i object hobject
      cases h
      obtain ⟨⟨members, hmembers, rfl⟩, -⟩ := eq_objectOf_of_membersOf? e.2 he object hobject
      rw [objectOf_entries_ofList, ← hmembers]
    · cases h
  · rintro rfl
    rw [specOf, membersOf?_objectOf, OrderedMap.ofList_entries]

theorem mapM_specOf_eq_ok_iff (path : Text) (entries : List (Text × Value))
    (hentries : ∀ e ∈ entries, Document e.2) (specs : List (Text × Spec)) :
    entries.mapM (specOf path) = .ok specs ↔
      entries = specs.map fun e => (e.1, objectOf e.2.entries) := by
  induction entries generalizing specs with
  | nil => cases specs <;> simp [pure, Except.pure]
  | cons e rest ih =>
      rw [List.forall_mem_cons] at hentries
      rw [List.mapM_cons, eq_comm (a := e :: rest), List.map_eq_cons_iff]
      constructor
      · intro h
        obtain ⟨spec, hspec, h⟩ := (bind_eq_ok_iff _ _ _).mp h
        obtain ⟨specs', hrest, h⟩ := (bind_eq_ok_iff _ _ _).mp h
        cases h
        exact ⟨spec, specs', rfl, ((specOf_eq_ok_iff path e hentries.1 spec).mp hspec).symm,
          ((ih hentries.2 specs').mp hrest).symm⟩
      · rintro ⟨spec, specs', rfl, hspec, hrest⟩
        refine (bind_eq_ok_iff _ _ _).mpr
          ⟨spec, (specOf_eq_ok_iff path e hentries.1 spec).mpr hspec.symm, ?_⟩
        exact (bind_eq_ok_iff _ _ _).mpr ⟨specs', (ih hentries.2 specs').mpr hrest.symm, rfl⟩

theorem symbolEntries_isOk_iff (symbols : List (Text × Value)) :
    (∃ entries, symbolEntries symbols = .ok entries) ↔ ∀ e ∈ symbols, ∃ text, e.2 = .text text := by
  rw [symbolEntries, mapM_isOk_iff]
  refine forall₂_congr fun e _ => ?_
  rcases e with ⟨name, v⟩
  cases v <;> simp [symbol, bind, Except.bind, pure, Except.pure]

theorem functionEntries_isOk_iff (functions : List (Text × Spec)) :
    (∃ entries, functionEntries functions = .ok entries) ↔
      ∀ e ∈ functions, ∃ f, FunctionBinding.ofSpec e.1 e.2 = .ok f := by
  rw [functionEntries, mapM_isOk_iff]
  refine forall₂_congr fun e _ => ?_
  cases FunctionBinding.ofSpec e.1 e.2 <;> simp

theorem extend_isOk_iff (table : Notation) (symbols : OrderedMap Value) (functions : OrderedMap Spec) :
    (∃ table', table.extend symbols functions = .ok table') ↔
      (∀ e ∈ symbols.entries, ∃ text, e.2 = .text text) ∧
        ∀ e ∈ functions.entries, ∃ f, FunctionBinding.ofSpec e.1 e.2 = .ok f := by
  rw [← symbolEntries_isOk_iff, ← functionEntries_isOk_iff]
  constructor
  · rintro ⟨table', h⟩
    obtain ⟨newSymbols, hsymbols, h⟩ := (bind_eq_ok_iff _ _ _).mp h
    obtain ⟨newFunctions, hfunctions, -⟩ := (bind_eq_ok_iff _ _ _).mp h
    exact ⟨⟨newSymbols, hsymbols⟩, newFunctions, hfunctions⟩
  · rintro ⟨⟨newSymbols, hsymbols⟩, newFunctions, hfunctions⟩
    exact ⟨_, extend_of_entries table symbols functions newSymbols newFunctions hsymbols hfunctions⟩

-- What is loaded has gone through every check: the file is read, it is an object with two objects in it,
-- and the members of the second are objects too
theorem load_eq_ok_iff_checks (path : Text) (octets : List UInt8) (base : Option Notation)
    (loaded : Loaded) :
    load path octets base = .ok loaded ↔
      ∃ v object symbols functions specs table, read octets = .ok v ∧ membersOf? v = some object ∧
        (section? object "symbols" = some symbols ∧ section? object "functions" = some functions) ∧
        functions.entries.mapM (specOf path) = .ok specs ∧
        (base.getD .default).extend symbols (.ofList specs) = .ok table ∧
        loaded = ⟨table, symbols.size, functions.size⟩ := by
  constructor
  · intro h
    obtain ⟨v, hread, h⟩ := (bind_eq_ok_iff _ _ _).mp h
    split at h
    · cases h
    rename_i object hobject
    split at h
    · cases h
    · cases h
    rename_i symbols functions hsymbols hfunctions
    obtain ⟨specs, hspecs, h⟩ := (bind_eq_ok_iff _ _ _).mp h
    split at h
    · cases h
    rename_i table hextend
    cases h
    exact ⟨v, object, symbols, functions, specs, table, hread, hobject, ⟨hsymbols, hfunctions⟩, hspecs,
      hextend, rfl⟩
  · rintro ⟨v, object, symbols, functions, specs, table, hread, hobject, ⟨hsymbols, hfunctions⟩, hspecs,
      hextend, rfl⟩
    refine (bind_eq_ok_iff _ _ _).mpr ⟨v, hread, ?_⟩
    simp only [hobject, hsymbols, hfunctions]
    refine (bind_eq_ok_iff _ _ _).mpr ⟨specs, hspecs, ?_⟩
    rw [hextend]
    rfl

-- A file is loaded exactly if it holds a notation written down, and what is written is laid over the base
theorem load_eq_ok_iff (path : Text) (octets : List UInt8) (base : Option Notation)
    (loaded : Loaded) :
    load path octets base = .ok loaded ↔
      ∃ symbols functions table, Holds octets symbols functions ∧
        (base.getD .default).extend symbols functions = .ok table ∧
        loaded = ⟨table, symbols.size, functions.size⟩ := by
  rw [load_eq_ok_iff_checks]
  constructor
  · rintro ⟨v, object, _, _, specs, table, hread, hobject, ⟨hpart, hpart'⟩, hspecs, hextend, rfl⟩
    obtain ⟨text, hoctets, hjson⟩ := (read_eq_ok_iff octets v).mp hread
    obtain ⟨⟨members, rfl, rfl⟩, hmembers⟩ :=
      eq_objectOf_of_membersOf? v (document_of_read _ v hjson) object hobject
    obtain ⟨symbols, hsymbols, rfl⟩ := (section?_eq_some_iff members hmembers _ _).mp hpart
    obtain ⟨functions, hfunctions, rfl⟩ := (section?_eq_some_iff members hmembers _ _).mp hpart'
    rw [mapM_specOf_eq_ok_iff path _ (hfunctions.documents _ hmembers)] at hspecs
    have hkeys : (specs.map Prod.fst).Nodup := by
      have h := (OrderedMap.ofList functions).nodup
      rwa [hspecs, List.map_map] at h
    have hentries := OrderedMap.entries_ofList specs hkeys
    obtain ⟨htexts, haccepted⟩ := (extend_isOk_iff _ _ _).mp ⟨table, hextend⟩
    have hsize : (OrderedMap.ofList functions).size = (OrderedMap.ofList specs).size := by
      rw [OrderedMap.size, OrderedMap.size, hspecs, hentries, List.length_map]
    have hdescribes : Describes (objectOf members) (.ofList symbols) (.ofList specs) :=
      .object members symbols functions _ hsymbols htexts hfunctions (by rw [hspecs, hentries]) haccepted
    exact ⟨_, _, table, ⟨text, _, hoctets, hjson, hdescribes⟩, hextend, by rw [hsize]⟩
  · rintro ⟨_, specs, table, ⟨text, v, hoctets, hjson, hdescribes⟩, hextend, rfl⟩
    obtain ⟨members, symbols, functions, _, hsymbols, -, hfunctions, hspecs, -⟩ := hdescribes
    have hmembers := (eq_objectOf_of_membersOf? _ (document_of_read _ _ hjson) _
      (membersOf?_objectOf members)).2
    have hsize : (OrderedMap.ofList functions).size = specs.size := by
      rw [OrderedMap.size, OrderedMap.size, hspecs, List.length_map]
    refine ⟨_, _, .ofList symbols, .ofList functions, specs.entries, table,
      (read_eq_ok_iff octets _).mpr ⟨text, hoctets, hjson⟩, membersOf?_objectOf members, ⟨?_, ?_⟩, ?_, ?_, ?_⟩
    · exact (section?_eq_some_iff members hmembers _ _).mpr ⟨symbols, hsymbols, rfl⟩
    · exact (section?_eq_some_iff members hmembers _ _).mpr ⟨functions, hfunctions, rfl⟩
    · exact (mapM_specOf_eq_ok_iff path _ (hfunctions.documents _ hmembers) specs.entries).mpr hspecs
    · rwa [OrderedMap.ofList_entries]
    · rw [hsize]

-- What is written lays itself over any notation
theorem extend_of_holds (octets : List UInt8) (base : Notation) (symbols : OrderedMap Value)
    (functions : OrderedMap Spec) (h : Holds octets symbols functions) :
    ∃ table, base.extend symbols functions = .ok table := by
  obtain ⟨_, _, -, -, _, _, _, _, -, htexts, -, -, haccepted⟩ := h
  exact (extend_isOk_iff base _ _).mpr ⟨htexts, haccepted⟩

theorem load_of_holds (path : Text) (octets : List UInt8) (base : Option Notation)
    (symbols : OrderedMap Value) (functions : OrderedMap Spec) (h : Holds octets symbols functions) :
    ∃ table, (base.getD .default).extend symbols functions = .ok table ∧
      load path octets base = .ok ⟨table, symbols.size, functions.size⟩ := by
  obtain ⟨table, hextend⟩ := extend_of_holds octets (base.getD .default) symbols functions h
  exact ⟨table, hextend, (load_eq_ok_iff path octets base _).mpr ⟨_, _, table, h, hextend, rfl⟩⟩

theorem load_isOk_iff (path : Text) (octets : List UInt8) (base : Option Notation) :
    (∃ loaded, load path octets base = .ok loaded) ↔
      ∃ symbols functions, Holds octets symbols functions := by
  constructor
  · rintro ⟨loaded, h⟩
    obtain ⟨symbols, functions, _, hholds, -, -⟩ := (load_eq_ok_iff path octets base loaded).mp h
    exact ⟨symbols, functions, hholds⟩
  · rintro ⟨symbols, functions, h⟩
    obtain ⟨table, -, hload⟩ := load_of_holds path octets base symbols functions h
    exact ⟨_, hload⟩

end Formulary.Notation
