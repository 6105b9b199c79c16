import Formulary.Json.Reading
import Formulary.Proofs.Failure
import Formulary.Proofs.OrderedMap
import Mathlib.Data.List.Induction

namespace Formulary

namespace OrderedMap

variable {α : Type}

theorem ofList_entries (map : OrderedMap α) : ofList map.entries = map := by
  have h := entries_ofList map.entries map.nodup
  generalize ofList map.entries = other at h
  cases other
  cases map
  cases h
  rfl

theorem get?_overlay (map : OrderedMap α) (extra : List (Text × α)) (key : Text) :
    (map.overlay extra).get? key = (extra.reverse.lookup key).or (map.get? key) := by
  induction extra generalizing map with
  | nil => rfl
  | cons e rest ih =>
      have hinsert : (map.insert e.1 e.2).get? key = if key = e.1 then some e.2 else map.get? key :=
        lookup_put e.1 key e.2 map.entries
      have hlast : ([e].lookup key).or (map.get? key) =
          if key = e.1 then some e.2 else map.get? key := by
        rw [List.lookup_cons]
        by_cases h : key = e.1
        · simp [h]
        · simp [h, beq_false_of_ne h]
      change ((map.insert e.1 e.2).overlay rest).get? key = _
      rw [ih, hinsert, List.reverse_cons, List.lookup_append, Option.or_assoc, hlast]

-- Of entries with one key the last counts
theorem get?_ofList (entries : List (Text × α)) (key : Text) :
    (ofList entries).get? key = entries.reverse.lookup key := by
  rw [ofList, get?_overlay]
  exact Option.or_none

end OrderedMap

namespace Json

-- The values that documents write. An object is written as a list of members, and an integer that is too
-- long to be written out is not read either
inductive Document : Value → Prop
  | none : Document .none
  | truth (b : Bool) : Document (.truth b)
  | integer (n : Int) (h : hasDecimalText n.natAbs = true) : Document (.integer n)
  | real (x : Binary64) : Document (.real x)
  | text (s : Text) : Document (.text s)
  | list (items : List Value) (h : ∀ v ∈ items, Document v) : Document (.list items)
  | object (members : List (Text × Value)) (h : ∀ m ∈ members, Document m.2) :
      Document (objectOf members)

theorem advanced_eq_ok {α : Type} (c after : Cursor)
    (go : after.rest.length < c.rest.length → Except Fault α) (a : α)
    (h : advanced c after go = .ok a) : ∃ hlt, go hlt = .ok a := by
  unfold advanced at h
  split at h
  · exact ⟨_, h⟩
  · cases h

-- A row of digits stays below the power of ten that has one digit more
theorem ofDigits_lt (digits : List Char) (h : ∀ c ∈ digits, isDigit c = true) :
    ofDigits digits < Nat.pow 10 digits.length := by
  induction digits using List.reverseRecOn with
  | nil => decide
  | append_singleton digits c ih =>
      rw [List.forall_mem_append, List.forall_mem_singleton] at h
      have hrest := ih h.1
      have hc : c.toNat - '0'.toNat ≤ 9 := by
        have hle : c ≤ '9' := by simpa using (Bool.and_eq_true_iff.mp h.2).2
        have hnine : c.toNat ≤ '9'.toNat := hle
        have hvalues : '9'.toNat = 57 ∧ '0'.toNat = 48 := ⟨rfl, rfl⟩
        omega
      have hlast : ofDigits (digits ++ [c]) = 10 * ofDigits digits + (c.toNat - '0'.toNat) := by
        rw [ofDigits, List.foldl_append]
        rfl
      have hpow : Nat.pow 10 (digits.length + 1) = Nat.pow 10 digits.length * 10 := rfl
      rw [hlast, List.length_append, List.length_singleton, hpow]
      omega

theorem hasDecimalText_ofDigits (digits : List Char) (h : ∀ c ∈ digits, isDigit c = true)
    (hlength : digits.length ≤ digitLimit) : hasDecimalText (ofDigits digits) = true := by
  -- for any limit, so that the power is not worked out
  have hlt (limit : Nat) (hle : digits.length ≤ limit) : ofDigits digits < Nat.pow 10 limit :=
    Nat.lt_of_lt_of_le (ofDigits_lt digits h) (Nat.pow_le_pow_right (by decide) hle)
  exact decide_eq_true (hlt digitLimit hlength)

theorem document_number (c after : Cursor) (v : Value) (h : number c = .ok (v, after)) : Document v := by
  unfold number at h
  extract_lets negative signs text whole at h
  have hwhole : ∀ c ∈ whole, isDigit c = true := by
    intro c hc
    by_cases hzero : text.head? = some '0'
    · simp only [whole, if_pos hzero, List.mem_singleton] at hc
      rw [hc]
      rfl
    · simp only [whole, if_neg hzero] at hc
      exact List.all_eq_true.mp List.all_takeWhile c hc
  split at h
  · cases h
  split at h
  split at h
  · split at h
    · cases h
    · rename_i hshort
      have habs : (if negative then -(ofDigits whole : Int) else ofDigits whole).natAbs =
          ofDigits whole := by
        split
        · rw [Int.natAbs_neg, Int.natAbs_natCast]
        · rw [Int.natAbs_natCast]
      obtain ⟨rfl, -⟩ := Prod.mk.inj (Except.ok.inj h)
      refine .integer _ ?_
      rw [habs]
      exact hasDecimalText_ofDigits whole hwhole (Nat.le_of_not_lt hshort)
  · obtain ⟨rfl, -⟩ := Prod.mk.inj (Except.ok.inj h)
    exact .real _

theorem document_scalar (c after : Cursor) (v : Value) (h : scalar c = .ok (v, after)) : Document v := by
  unfold scalar at h
  split at h
  · obtain ⟨⟨s, _⟩, -, h⟩ := (bind_eq_ok_iff _ _ _).mp h
    cases h
    exact .text s
  · split at h
    · rename_i word w hword
      cases h
      have hwords : ∀ w ∈ words, Document w.2 := by
        simp only [words, List.forall_mem_cons]
        exact ⟨.none, .truth _, .truth _, .real _, .real _, .real _, by simp⟩
      exact hwords _ (List.mem_of_find?_eq_some hword)
    · exact document_number c after v h

-- What is read is a document, and so are the values in it: first the parts, then what they make up
theorem document_value_members_elements :
    (∀ c v after, value c = .ok (v, after) → Document v) ∧
    (∀ c ms after, members c = .ok (ms, after) → ∀ m ∈ ms, Document m.2) ∧
    (∀ c vs after, elements c = .ok (vs, after) → ∀ v ∈ vs, Document v) := by
  refine value.mutual_induct _ _ _ ?array ?object ?scalar ?members ?elements
  case array =>
    intro c hc inner ih v after h
    rw [value, if_pos hc] at h
    obtain ⟨hlt, h⟩ := advanced_eq_ok _ _ _ _ h
    split at h
    · cases h
      exact .list [] (by simp)
    · obtain ⟨⟨items, _⟩, hitems, h⟩ := (bind_eq_ok_iff _ _ _).mp h
      cases h
      exact .list items (ih hlt items _ hitems)
  case object =>
    intro c hc hc' inner ih v after h
    rw [value, if_neg hc, if_pos hc'] at h
    obtain ⟨hlt, h⟩ := advanced_eq_ok _ _ _ _ h
    split at h
    · cases h
      exact .object [] (by simp)
    · obtain ⟨⟨entries, _⟩, hentries, h⟩ := (bind_eq_ok_iff _ _ _).mp h
      cases h
      exact .object entries (ih hlt entries _ hentries)
  case scalar =>
    intro c hc hc' v after h
    rw [value, if_neg hc, if_neg hc'] at h
    exact document_scalar c after v h
  case members =>
    intro c ihvalue ihmembers ms after h
    rw [members] at h
    obtain ⟨⟨key, start⟩, -, h⟩ := (bind_eq_ok_iff _ _ _).mp h
    obtain ⟨hlt, h⟩ := advanced_eq_ok _ _ _ _ h
    obtain ⟨⟨v, mid⟩, hv, h⟩ := (bind_eq_ok_iff _ _ _).mp h
    have hfirst := ihvalue start hlt v mid hv
    dsimp only at h
    split at h
    · cases h
      exact List.forall_mem_singleton.mpr hfirst
    split at h
    · obtain ⟨hlt, h⟩ := advanced_eq_ok _ _ _ _ h
      obtain ⟨⟨more, _⟩, hmore, h⟩ := (bind_eq_ok_iff _ _ _).mp h
      cases h
      exact List.forall_mem_cons.mpr ⟨hfirst, ihmembers mid hlt more _ hmore⟩
    · cases h
  case elements =>
    intro c ihvalue ihelements vs after h
    rw [elements] at h
    obtain ⟨⟨v, mid⟩, hv, h⟩ := (bind_eq_ok_iff _ _ _).mp h
    have hfirst := ihvalue v mid hv
    dsimp only at h
    split at h
    · cases h
      exact List.forall_mem_singleton.mpr hfirst
    split at h
    · obtain ⟨hlt, h⟩ := advanced_eq_ok _ _ _ _ h
      obtain ⟨⟨more, _⟩, hmore, h⟩ := (bind_eq_ok_iff _ _ _).mp h
      cases h
      exact List.forall_mem_cons.mpr ⟨hfirst, ihelements mid hlt more _ hmore⟩
    · cases h

theorem document_of_read (document : List Char) (v : Value) (h : read document = .ok v) : Document v := by
  unfold read at h
  split at h
  · cases h
  · obtain ⟨⟨w, _⟩, hw, h⟩ := (bind_eq_ok_iff _ _ _).mp h
    dsimp only at h
    split at h
    · cases h
      exact document_value_members_elements.1 _ _ _ hw
    · cases h

end Json

end Formulary
