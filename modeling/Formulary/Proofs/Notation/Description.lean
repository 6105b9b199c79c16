import Formulary.Proofs.Binding.Spec
import Formulary.Proofs.Notation.Layering
import Formulary.Proofs.Scope.Description

namespace Formulary

theorem hasDecimalText_of_le (m n : Nat) (hle : m ≤ n) (h : hasDecimalText n = true) :
    hasDecimalText m = true :=
  decide_eq_true (Nat.lt_of_le_of_lt hle (of_decide_eq_true h))

theorem Text.digitValue?_le (d : Char) (number : Nat) (h : digitValue? d = some number) :
    number ≤ 9 := by
  obtain ⟨first, hfirst, rfl⟩ := Option.map_eq_some_iff.mp h
  have hrow := List.find?_some hfirst
  simp only [Bool.and_eq_true, decide_eq_true_eq] at hrow
  omega

-- A slot has one digit, so a pattern without a declared arity asks for few arguments
theorem Piece.highest_ofPattern_le (pattern : Text) : highest (ofPattern pattern) ≤ 9 := by
  fun_induction ofPattern pattern with
  | case1 => decide
  | case2 d rest number hd ih => exact Nat.max_le.mpr ⟨Text.digitValue?_le d number hd, ih⟩
  | case3 d rest hd ih => exact ih
  | case4 c rest hc ih => exact ih

theorem Template.hasDecimalText_arity (name pattern : Text) (arity : Option Int) (t : Template)
    (h : ofPattern name pattern arity = .ok t)
    (harity : ∀ n, arity = some n → hasDecimalText n.natAbs = true) :
    hasDecimalText t.arity = true := by
  obtain ⟨-, hcount⟩ := ofPattern_eq_ok_imp name pattern arity t h
  cases arity with
  | none =>
      have hle : t.arity ≤ 9 := by
        rw [Int.ofNat.inj hcount]
        exact Piece.highest_ofPattern_le pattern
      exact hasDecimalText_of_le _ 9 hle (by decide +kernel)
  | some n =>
      have habs : t.arity = n.natAbs := by
        rw [← Int.natAbs_natCast t.arity, hcount]
        rfl
      rw [habs]
      exact harity n rfl

-- Whether the arity that a description declares can be written, if it declares one
def Spec.Writable (spec : Spec) : Prop :=
  ∀ n, spec.get? "arity" = some (.integer n) → hasDecimalText n.natAbs = true

theorem FunctionBinding.describable_ofSpec (name : Text) (spec : Spec) (f : FunctionBinding)
    (h : ofSpec name spec = .ok f) (hspec : spec.Writable) : (Binding.function f).Describable := by
  obtain ⟨kind, -, r, hr, rfl⟩ := (Spec.ofSpec_eq_ok_iff name spec f).mp h
  rw [Binding.Describable, Option.all_eq_true_iff_get]
  cases kind with
  | wrap =>
      obtain ⟨before, -, after, -, rfl⟩ := (Spec.wrap_eq_ok_iff spec r).mp hr
      exact fun _ => (by decide +kernel : hasDecimalText 1 = true)
  | between =>
      obtain ⟨separator, -, rfl⟩ := (Spec.between_eq_ok_iff spec r).mp hr
      exact fun _ => (by decide +kernel : hasDecimalText 2 = true)
  | template =>
      obtain ⟨arity, harity, pattern, -, t, ht, rfl⟩ := (Spec.template_eq_ok_iff name spec r).mp hr
      refine fun _ => Template.hasDecimalText_arity name pattern arity t ht ?_
      rintro n rfl
      exact hspec n harity
  | variadic =>
      obtain ⟨before, -, after, -, separator, -, rfl⟩ := (Spec.variadic_eq_ok_iff spec r).mp hr
      intro h
      cases h

-- A description that is read from a document declares nothing that cannot be written, as the document
-- would not have been read
theorem Spec.writable_of_document (spec : Spec) (h : Json.Document (Json.objectOf spec.entries)) :
    spec.Writable := by
  intro n hn
  have hmembers := Notation.membersOf?_objectOf spec.entries
  rw [OrderedMap.ofList_entries] at hmembers
  obtain ⟨-, hdocuments⟩ := Notation.eq_objectOf_of_membersOf? _ h spec hmembers
  cases hdocuments _ (spec.mem_entries_of_get? _ _ hn) with
  | integer _ hshort => exact hshort

namespace Notation

theorem Holds.writable (octets : List UInt8) (symbols : OrderedMap Value)
    (functions : OrderedMap Spec) (h : Holds octets symbols functions) (name : Text) (spec : Spec)
    (hspec : functions.get? name = some spec) : spec.Writable := by
  obtain ⟨_, _, -, hread, members, _, written, _, -, -, hsection, hspecs, -⟩ := h
  have hobject := (eq_objectOf_of_membersOf? _ (Json.document_of_read _ _ hread) _
    (membersOf?_objectOf members)).2
  have hwritten := hsection.documents members hobject "functions" written
  rw [hspecs, List.forall_mem_map] at hwritten
  exact spec.writable_of_document (hwritten _ (functions.mem_entries_of_get? name spec hspec))

theorem Describable.extend (table table' : Notation) (symbols : OrderedMap Value)
    (functions : OrderedMap Spec) (htable : table.Describable)
    (hspecs : ∀ name spec, functions.get? name = some spec → spec.Writable)
    (h : table.extend symbols functions = .ok table') : table'.Describable := by
  obtain ⟨-, hlaid⟩ := laidOver_of_extend table table' symbols functions h
  intro name f hf
  cases hspec : functions.get? name with
  | none =>
      rw [hlaid.kept name hspec] at hf
      exact htable name f hf
  | some spec =>
      obtain ⟨made, hmade, hget⟩ := hlaid.made name spec hspec
      obtain rfl := Option.some.inj (hf.symm.trans hget)
      exact FunctionBinding.describable_ofSpec name spec f hmade (hspecs name spec hspec)

-- Whatever a file says, the functions in it can be described, and those it is laid over stay as they are
theorem Describable.load (path : Text) (octets : List UInt8) (base : Option Notation)
    (loaded : Loaded) (hbase : (base.getD .default).Describable)
    (h : load path octets base = .ok loaded) :
    loaded.table.Describable := by
  obtain ⟨symbols, functions, table, hholds, hextend, rfl⟩ :=
    (load_eq_ok_iff path octets base loaded).mp h
  exact hbase.extend _ table symbols functions (hholds.writable octets symbols functions) hextend

end Notation

end Formulary
