import Formulary.Markup

namespace Formulary

-- The letters that control words are made of
def CodePoint.isLetter : CodePoint → Bool
  | .char c => c.isAlpha
  | .half _ => false

namespace Markup

-- What a reader of markup tells apart. A backslash takes a run of letters, as long as it gets, or
-- else the one code point after it. What no backslash has taken stands for itself
inductive Lexeme
  | word (letters : Text)
  | control (c : CodePoint)
  | plain (c : CodePoint)
  deriving DecidableEq, Repr

-- What is read of a code point that no backslash has taken, and the letters of the word it opens
def readFresh (c : CodePoint) : List Lexeme × Option Text :=
  if c = .char '\\' then ([], some []) else ([.plain c], none)

-- The same after a backslash and the letters that it has taken so far
def readNext : Option Text → CodePoint → List Lexeme × Option Text
  | none, c => readFresh c
  | some letters, c =>
    if c.isLetter then ([], some (letters ++ [c]))
    else if letters = [] then ([.control c], none)
    else (.word letters :: (readFresh c).1, (readFresh c).2)

-- The end of a text ends its last word. A backslash with nothing after it is a word of no letters
def readEnd : Option Text → List Lexeme
  | none => []
  | some letters => [.word letters]

def readFrom (taken : Option Text) : Text → List Lexeme
  | [] => readEnd taken
  | c :: rest => (readNext taken c).1 ++ readFrom (readNext taken c).2 rest

def takenAfter (taken : Option Text) (text : Text) : Option Text :=
  text.foldl (fun taken c => (readNext taken c).2) taken

def lexemes (text : Text) : List Lexeme := readFrom none text

-- Nothing is left open for a letter that follows
def Closed (text : Text) : Prop := takenAfter none text = none

-- No letter comes first that an open word could take
def Apart (text : Text) : Prop := ∀ c ∈ text.head?, c.isLetter = false

instance (text : Text) : Decidable (Closed text) :=
  inferInstanceAs (Decidable (takenAfter none text = none))

instance (text : Text) : Decidable (Apart text) :=
  inferInstanceAs (Decidable (∀ c ∈ text.head?, c.isLetter = false))

theorem takenAfter_append (taken : Option Text) (u v : Text) :
    takenAfter taken (u ++ v) = takenAfter (takenAfter taken u) v := List.foldl_append

theorem closed_append (u v : Text) (hu : Closed u) (hv : Closed v) : Closed (u ++ v) := by
  rw [Closed, takenAfter_append, hu, hv]

-- Two texts are read one by one if the second is read after the first as it is read alone
theorem readFrom_append (taken : Option Text) (u v : Text)
    (h : readFrom (takenAfter taken u) v = readEnd (takenAfter taken u) ++ lexemes v) :
    readFrom taken (u ++ v) = readFrom taken u ++ lexemes v := by
  induction u generalizing taken with
  | nil => exact h
  | cons c u ih =>
      rw [List.cons_append, readFrom, readFrom, ih _ h, List.append_assoc]

theorem lexemes_append_of_closed (u v : Text) (h : Closed u) :
    lexemes (u ++ v) = lexemes u ++ lexemes v := by
  refine readFrom_append none u v ?_
  rw [h]
  rfl

theorem readFrom_of_apart (letters v : Text) (hletters : letters ≠ []) (h : Apart v) :
    readFrom (some letters) v = .word letters :: lexemes v := by
  cases v with
  | nil => rfl
  | cons c v =>
      have hc : c.isLetter = false := h c rfl
      simp [readFrom, lexemes, readNext, hc, hletters]

theorem readEnd_mem_readFrom (taken : Option Text) (u : Text) (x : Lexeme)
    (h : x ∈ readEnd (takenAfter taken u)) : x ∈ readFrom taken u := by
  induction u generalizing taken with
  | nil => exact h
  | cons c u ih => exact List.mem_append_right _ (ih _ h)

theorem lexemes_append_of_apart (u v : Text) (hu : .word [] ∉ lexemes u) (hv : Apart v) :
    lexemes (u ++ v) = lexemes u ++ lexemes v := by
  refine readFrom_append none u v ?_
  cases htaken : takenAfter none u with
  | none => rfl
  | some letters =>
      have hletters : letters ≠ [] := by
        rintro rfl
        exact hu (readEnd_mem_readFrom none u _ (by simp [htaken, readEnd]))
      rw [readFrom_of_apart letters v hletters hv]
      rfl

-- Braces and the fences that grow with what they hold share one stack
inductive Bracket
  | brace
  | fence
  deriving DecidableEq, Repr

def Lexeme.opens? : Lexeme → Option Bracket
  | .plain c => if c = .char '\x7b' then some .brace else none
  | .word letters => if letters = "left" then some .fence else none
  | .control _ => none

def Lexeme.closes? : Lexeme → Option Bracket
  | .plain c => if c = .char '\x7d' then some .brace else none
  | .word letters => if letters = "right" then some .fence else none
  | .control _ => none

-- The open brackets after one more lexeme, unless it closes what is not open
def turn (stack : List Bracket) (x : Lexeme) : Option (List Bracket) :=
  match x.opens?, x.closes? with
  | some b, _ => some (b :: stack)
  | none, none => some stack
  | none, some b => if stack.head? = some b then some stack.tail else none

def nest (stack : List Bracket) (xs : List Lexeme) : Option (List Bracket) := xs.foldlM turn stack

theorem nest_append (stack : List Bracket) (xs ys : List Lexeme) :
    nest stack (xs ++ ys) = (nest stack xs).bind fun stack => nest stack ys := List.foldlM_append

example : nest [] (lexemes (Text.ofString "\\left(\x7b\\\x7d\\right)\x7d")) = none := by decide

-- What is open below is not looked at by lexemes that never reach down to it
theorem turn_append (stack after below : List Bracket) (x : Lexeme) (h : turn stack x = some after) :
    turn (stack ++ below) x = some (after ++ below) := by
  unfold turn at h ⊢
  split at h
  · cases h
    rfl
  · cases h
    rfl
  · rename_i b _ _
    cases stack with
    | nil => simp at h
    | cons top stack =>
        simp only [List.head?_cons, List.tail_cons, Option.ite_none_right_eq_some,
          Option.some.injEq] at h
        simp [h.1, h.2]

theorem nest_append_stack (stack after below : List Bracket) (xs : List Lexeme)
    (h : nest stack xs = some after) : nest (stack ++ below) xs = some (after ++ below) := by
  induction xs generalizing stack with
  | nil =>
      cases h
      rfl
  | cons x xs ih =>
      obtain ⟨middle, hturn, hnest⟩ := Option.bind_eq_some_iff.mp h
      exact Option.bind_eq_some_iff.mpr
        ⟨middle ++ below, turn_append stack middle below x hturn, ih middle hnest⟩

theorem nest_of_balanced (stack : List Bracket) (xs : List Lexeme) (h : nest [] xs = some []) :
    nest stack xs = some stack := nest_append_stack [] [] stack xs h

-- What is balanced in itself may stand anywhere
theorem nest_insert (xs ys zs : List Lexeme) (stack : List Bracket) (h : nest [] ys = some []) :
    nest stack (xs ++ ys ++ zs) = nest stack (xs ++ zs) := by
  simp only [nest_append]
  cases nest stack xs with
  | none => rfl
  | some inner => simp [nest_of_balanced inner ys h]

end Markup

end Formulary
