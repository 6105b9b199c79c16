import Formulary.Text.CodePoint

namespace Formulary

namespace Text

-- The characters of ASCII that leave a mark on paper, and the space
def isAscii (c : Char) : Bool := 0x20 ≤ c.toNat && c.toNat < 0x7f

-- Text that is written with these characters alone
def Ascii (s : String) : Prop := ∀ c ∈ s.toList, isAscii c = true

-- By the characters of the text, not by all that there are
instance (s : String) : Decidable (Ascii s) := List.decidableBAll _ s.toList

theorem ascii_append (s t : String) (hs : Ascii s) (ht : Ascii t) : Ascii (s ++ t) := by
  intro c hc
  rw [String.toList_append, List.mem_append] at hc
  exact hc.elim (hs c) (ht c)

theorem mem_ofString_iff (c : CodePoint) (s : String) :
    c ∈ ofString s ↔ ∃ d ∈ s.toList, c = .char d := by
  simp [ofString, ofChars, eq_comm]

theorem char_mem_ofString_iff (c : Char) (s : String) : .char c ∈ ofString s ↔ c ∈ s.toList := by
  simp [mem_ofString_iff]

end Text

namespace CodePoint

-- Control characters, halves of pairs and whatever is beyond ASCII
def IsForeign (c : CodePoint) : Prop := c.is Text.isAscii = false
  deriving Decidable

theorem isForeign_lineFeed : IsForeign (.char '\n') := by decide

theorem isForeign_half (n : Fin 0x800) : IsForeign (.half n) := rfl

namespace IsForeign

variable (c : CodePoint) (hc : c.IsForeign)

include hc

theorem ne_of_is (d : CodePoint) (hd : d.is Text.isAscii = true) : c ≠ d := by
  rintro rfl
  exact Bool.false_ne_true (hc.symm.trans hd)

theorem notMem_ofString (s : String) (hs : Text.Ascii s) : c ∉ Text.ofString s := by
  intro hmem
  obtain ⟨d, hd, rfl⟩ := (Text.mem_ofString_iff c s).mp hmem
  exact Bool.false_ne_true (hc.symm.trans (hs d hd))

end IsForeign

end CodePoint

end Formulary
