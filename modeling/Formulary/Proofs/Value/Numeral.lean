import Formulary.Proofs.Binding.Enclosure
import Formulary.Proofs.Value.Written

namespace Formulary

open Markup

namespace Text

-- The characters that numbers are written with: digits, signs, the point, and the letters of exponents,
-- of the imaginary unit and of what is no number
def isNumeral (c : Char) : Bool := c.isDigit || "+-.aefijn".toList.contains c

-- Text that is written with these characters alone
def Numeral (s : String) : Prop := ∀ c ∈ s.toList, isNumeral c = true

-- By the characters of the text, not by all that there are
instance (s : String) : Decidable (Numeral s) := List.decidableBAll _ s.toList

theorem numeral_append (s t : String) (hs : Numeral s) (ht : Numeral t) : Numeral (s ++ t) := by
  intro c hc
  rw [String.toList_append, List.mem_append] at hc
  exact hc.elim (hs c) (ht c)

theorem numeral_ofList (characters : List Char) (h : ∀ c ∈ characters, isNumeral c = true) :
    Numeral (String.ofList characters) := by
  rwa [Numeral, String.toList_ofList]

theorem isNumeral_of_mem_toDigits (n : Nat) (c : Char) (h : c ∈ Nat.toDigits 10 n) :
    isNumeral c = true := by
  rw [isNumeral, Nat.isDigit_of_mem_toDigits (by decide) (by decide) h, Bool.true_or]

theorem numeral_nat (n : Nat) : Numeral (toString n) := by
  intro c hc
  rw [Nat.toString_eq_repr, Nat.toList_repr] at hc
  exact isNumeral_of_mem_toDigits n c hc

theorem numeral_int (n : Int) : Numeral (toString n) := by
  change Numeral n.repr
  rw [Int.repr_eq_if]
  split
  · exact numeral_nat n.toNat
  · exact numeral_append _ _ (by decide) (numeral_nat _)

end Text

namespace Layout

open Text

theorem numeral_zeros (n : Int) : Numeral (zeros n) :=
  numeral_ofList _ fun c hc => by
    rw [List.eq_of_mem_replicate hc]
    decide

theorem numeral_exponentText (e : Int) : Numeral (exponentText e) := by
  refine numeral_append _ _ (numeral_append _ _ ?_ ?_) (numeral_nat _)
  · split <;> decide
  · split <;> decide

theorem numeral_digitsText (l : Layout) (hl : Numeral l.wholeMark) (d : Decimal) :
    Numeral (l.digitsText d) := by
  have hdigits (part : List Char) (hpart : part ⊆ Nat.toDigits 10 d.digits) :
      Numeral (String.ofList part) :=
    numeral_ofList part fun c hc => isNumeral_of_mem_toDigits _ c (hpart hc)
  have htake (n : Nat) := hdigits _ (List.take_subset n _)
  have hdrop (n : Nat) := hdigits _ (List.drop_subset n _)
  have hall := hdigits _ (List.Subset.refl _)
  unfold digitsText
  dsimp only
  split
  · split
    · exact numeral_append _ _ (numeral_append _ _ (by decide) (numeral_zeros _)) hall
    · split
      · exact numeral_append _ _ (numeral_append _ _ hall (numeral_zeros _)) hl
      · exact numeral_append _ _ (numeral_append _ _ (htake _) (by decide)) (hdrop _)
  · refine numeral_append _ _ (numeral_append _ _ (numeral_append _ _ (numeral_append _ _
      (htake 1) ?_) (hdrop 1)) (by decide)) (numeral_exponentText _)
    split <;> decide

theorem numeral_sign (l : Layout) (negative : Bool) : Numeral (l.sign negative) := by
  unfold sign
  split
  · decide
  · split <;> decide

theorem numeral_text (l : Layout) (hl : Numeral l.wholeMark) (x : Binary64) :
    Numeral (l.text x) := by
  cases x with
  | nan => exact numeral_append _ _ (l.numeral_sign _) (by decide)
  | infinite negative => exact numeral_append _ _ (l.numeral_sign _) (by decide)
  | finite negative significand exponent =>
      exact numeral_append _ _ (l.numeral_sign _) (l.numeral_digitsText hl _)

end Layout

namespace Text

theorem ofString_append (s t : String) : ofString (s ++ t) = ofString s ++ ofString t := by
  simp [ofString, ofChars]

theorem notMem_brackets_of_numeral (s : String) (h : Numeral s) :
    ∀ c ∈ ofString s, c ∉ Whole.brackets := by
  intro c hc hbracket
  obtain ⟨d, hd, rfl⟩ := List.mem_map.mp hc
  have hnone : ['(', ')', '[', ']'].any isNumeral = false := by decide
  have hd' : d ∈ ['(', ')', '[', ']'] := by simpa [Whole.brackets] using hbracket
  exact List.any_eq_false.mp hnone d hd' (h d hd)

theorem whole_escape_of_numeral (s : String) (h : Numeral s) :
    Whole (escape (ofString s)).text :=
  (Whole.escape _ (notMem_brackets_of_numeral s h)).1

end Text

namespace Value

-- The values that come with no text of their own
def IsPlain : Value → Prop
  | .truth _ => True
  | .integer _ => True
  | .real _ => True
  | .complex _ _ => True
  | _ => False

-- The parentheses of a complex number stand around a number
theorem whole_escape_complexText (re im : Binary64) :
    Whole (Markup.escape (Text.ofString (complexText re im))).text := by
  have him : Text.Numeral (Layout.imaginaryPart.text im) :=
    Layout.imaginaryPart.numeral_text (by decide) im
  have hre (x : Binary64) : Text.Numeral (Layout.realPart.text x) :=
    Layout.realPart.numeral_text (by decide) x
  have hunit : Text.Numeral "j" := by decide
  unfold complexText
  split
  · exact Text.whole_escape_of_numeral _ (Text.numeral_append _ _ (hre im) hunit)
  · have hinner := Text.whole_escape_of_numeral _
      (Text.numeral_append _ _ (Text.numeral_append _ _ (hre re) him) hunit)
    have hround : (Rendering.wrap "(" ")").Steady := by decide
    have houter := (Rendering.wrap "(" ")").whole_apply hround (by simp) _
      (List.forall_mem_singleton.mpr hinner) _ rfl
    have hends : (Markup.escape "(").text = Text.ofString "(" ∧
        (Markup.escape ")").text = Text.ofString ")" := by decide
    have htext : Text.ofString
        ("(" ++ Layout.realPart.text re ++ Layout.imaginaryPart.text im ++ "j)") =
        "(" ++ Text.ofString (Layout.realPart.text re ++ Layout.imaginaryPart.text im ++ "j") ++
          ")" := by
      have hlast : Text.ofString "j)" = Text.ofString "j" ++ ")" := rfl
      simp only [Text.ofString_append, hlast, List.append_assoc]
    rw [htext, escape_append, escape_append, hends.1, hends.2]
    exact houter

theorem display_integer (n : Int) (shown : Text) (h : (Value.integer n).display = .ok shown) :
    shown = Text.ofString (toString n) := by
  obtain ⟨digits, hdigits, hshown⟩ := (bind_eq_ok_iff _ _ _).mp h
  have hinteger : digits = toString n := by
    rw [quoted, integerText] at hdigits
    split at hdigits
    · exact (Except.ok.inj hdigits).symm
    · cases hdigits
  rw [← Except.ok.inj hshown, hinteger]

theorem display_real (x : Binary64) :
    (Value.real x).display = .ok (Text.ofString (Layout.alone.text x)) := by
  simp only [display, quoted]
  rfl

theorem display_complex (re im : Binary64) :
    (Value.complex re im).display = .ok (Text.ofString (complexText re im)) := by
  simp only [display, quoted]
  rfl

-- The markup of a number or a truth value closes what it opens
theorem whole_render (v : Value) (h : v.IsPlain) (text : Text) (hrender : v.render = .ok text) :
    Whole text := by
  have hmarkup : ∀ m, v ≠ .markup m := by
    rintro m rfl
    exact h
  obtain ⟨shown, hshown, htext⟩ := v.render_eq_ok_of_ne_markup hmarkup text hrender
  rw [htext]
  cases v with
  | truth b =>
      have htruth : shown = Text.ofString (if b then "True" else "False") :=
        (Except.ok.inj hshown).symm
      rw [htruth]
      refine (Whole.escape _ ?_).1
      cases b <;> decide
  | integer n =>
      rw [display_integer n shown hshown]
      exact Text.whole_escape_of_numeral _ (Text.numeral_int n)
  | real x =>
      rw [display_real] at hshown
      rw [← Except.ok.inj hshown]
      exact Text.whole_escape_of_numeral _ (Layout.alone.numeral_text (by decide) x)
  | complex re im =>
      rw [display_complex] at hshown
      rw [← Except.ok.inj hshown]
      exact whole_escape_complexText re im
  | _ => cases h

end Value

end Formulary
