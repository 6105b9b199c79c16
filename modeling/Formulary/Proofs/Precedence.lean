namespace Formulary.Precedence

-- A row of operands and operators, before it is grouped
inductive Token (α π ι : Type)
  | atom (a : α)
  | unary (op : π)
  | binary (op : ι)
  | opening
  | closing
  deriving DecidableEq, Repr

-- What a row stands for once it is grouped
inductive Formula (α π ι : Type)
  | atom (a : α)
  | unary (op : π) (operand : Formula α π ι)
  | binary (op : ι) (left right : Formula α π ι)
  deriving DecidableEq, Repr

-- How tightly the operators bind. Operators of equal strength group to the left if they chain, and
-- else do not stand side by side
structure Rules (π ι : Type) where
  unary : π → Nat
  binary : ι → Nat
  chains : ι → Bool
  apart : ∀ op op', unary op ≠ binary op'

variable {α π ι : Type}

-- The least strength of the left operand
def Rules.left (rules : Rules π ι) (op : ι) : Nat :=
  if rules.chains op then rules.binary op else rules.binary op + 1

theorem Rules.binary_le_left (rules : Rules π ι) (op : ι) : rules.binary op ≤ rules.left op := by
  unfold Rules.left
  split <;> omega

-- The row reads as the formula, in a place that asks for a strength
inductive Reads (rules : Rules π ι) : Nat → List (Token α π ι) → Formula α π ι → Prop
  | atom (k : Nat) (a : α) : Reads rules k [.atom a] (.atom a)
  | group (k : Nat) {row : List (Token α π ι)} {f : Formula α π ι} (h : Reads rules 0 row f) :
      Reads rules k (.opening :: (row ++ [.closing])) f
  | unary (k : Nat) (op : π) {row : List (Token α π ι)} {f : Formula α π ι}
      (hk : k ≤ rules.unary op) (h : Reads rules (rules.unary op) row f) :
      Reads rules k (.unary op :: row) (.unary op f)
  | binary (k : Nat) (op : ι) {row row' : List (Token α π ι)} {f g : Formula α π ι}
      (hk : k ≤ rules.binary op) (h : Reads rules (rules.left op) row f)
      (h' : Reads rules (rules.binary op + 1) row' g) :
      Reads rules k (row ++ .binary op :: row') (.binary op f g)

variable {rules : Rules π ι} {row row' : List (Token α π ι)} {f g : Formula α π ι}

theorem Reads.mono {k j : Nat} (h : Reads rules k row f) (hj : j ≤ k) : Reads rules j row f := by
  cases h with
  | atom _ a => exact .atom j a
  | group _ h => exact .group j h
  | unary _ op hk h => exact .unary j op (Nat.le_trans hj hk) h
  | binary _ op hk h h' => exact .binary j op (Nat.le_trans hj hk) h h'

-- What waits for the operand that is being read
inductive Pending (α π ι : Type)
  | unary (op : π)
  | binary (op : ι) (left : Formula α π ι)
  | group

-- The operators that wait and bind at least as tightly as `k` take what has been read
def reduce (rules : Rules π ι) (k : Nat) :
    List (Pending α π ι) → Formula α π ι → List (Pending α π ι) × Formula α π ι
  | .unary op :: stack, f =>
    if k ≤ rules.unary op then reduce rules k stack (.unary op f) else (.unary op :: stack, f)
  | .binary op l :: stack, f =>
    if k ≤ rules.binary op then reduce rules k stack (.binary op l f) else (.binary op l :: stack, f)
  | stack, f => (stack, f)

-- One token, read before an operand or after one
def step (rules : Rules π ι) :
    List (Pending α π ι) × Option (Formula α π ι) → Token α π ι →
      Option (List (Pending α π ι) × Option (Formula α π ι))
  | (stack, none), .atom a => some (stack, some (.atom a))
  | (stack, none), .unary op => some (.unary op :: stack, none)
  | (stack, none), .opening => some (.group :: stack, none)
  | (stack, some f), .binary op =>
    let (rest, g) := reduce rules (rules.binary op) stack f
    some (.binary op g :: rest, none)
  | (stack, some f), .closing =>
    match reduce rules 0 stack f with
    | (.group :: rest, g) => some (rest, some g)
    | _ => none
  | _, _ => none

def run (rules : Rules π ι) (state : List (Pending α π ι) × Option (Formula α π ι))
    (row : List (Token α π ι)) : Option (List (Pending α π ι) × Option (Formula α π ι)) :=
  row.foldlM (step rules) state

theorem run_append (state : List (Pending α π ι) × Option (Formula α π ι)) :
    run rules state (row ++ row') = (run rules state row).bind (run rules · row') :=
  List.foldlM_append

theorem run_cons (state : List (Pending α π ι) × Option (Formula α π ι)) (token : Token α π ι) :
    run rules state (token :: row) = (step rules state token).bind (run rules · row) :=
  List.foldlM_cons

-- The stack leaves alone what is read in a place that asks for the strength `k`
def Holds (rules : Rules π ι) (k : Nat) : List (Pending α π ι) → Prop
  | .unary op :: _ => rules.unary op ≤ k
  | .binary op _ :: _ => rules.binary op < k
  | _ => True

theorem Holds.mono {k j : Nat} {stack : List (Pending α π ι)} (h : Holds rules k stack)
    (hk : k ≤ j) : Holds rules j stack := by
  match stack, h with
  | .unary op :: _, h => exact Nat.le_trans h hk
  | .binary op _ :: _, h => exact Nat.lt_of_lt_of_le h hk
  | .group :: _, _ => trivial
  | [], _ => trivial

theorem reduce_of_holds {k : Nat} {stack : List (Pending α π ι)} (op : ι)
    (h : Holds rules k stack) (hk : k ≤ rules.binary op) :
    reduce rules (rules.binary op) stack f = (stack, f) := by
  match stack, h with
  | .unary op' :: _, h =>
      have hlt : ¬ rules.binary op ≤ rules.unary op' := by
        have hne := rules.apart op' op
        change rules.unary op' ≤ k at h
        omega
      simp [reduce, hlt]
  | .binary op' _ :: _, h =>
      have hlt : ¬ rules.binary op ≤ rules.binary op' := by
        change rules.binary op' < k at h
        omega
      simp [reduce, hlt]
  | .group :: _, _ => rfl
  | [], _ => rfl

-- After a row that reads as a formula the stack holds more than before, but as soon as it is reduced
-- it is as if the formula had been read at once
theorem Reads.run {k : Nat} (h : Reads rules k row f) (stack : List (Pending α π ι))
    (hs : Holds rules k stack) :
    ∃ stack' f', run rules (stack, none) row = some (stack', some f') ∧
      ∀ j ≤ k, reduce rules j stack' f' = reduce rules j stack f := by
  induction h generalizing stack with
  | atom k a => exact ⟨stack, .atom a, rfl, fun _ _ => rfl⟩
  | @group k row f h ih =>
      obtain ⟨stack', f', hrun, hreduce⟩ := ih (.group :: stack) trivial
      refine ⟨stack, f, ?_, fun _ _ => rfl⟩
      have hclose : step rules (stack', some f') .closing = some (stack, some f) := by
        simp only [step, hreduce 0 (Nat.le_refl 0), reduce]
      rw [run_cons]
      change (Precedence.run rules (.group :: stack, none) (row ++ [.closing])) = _
      rw [run_append, hrun]
      exact congrArg (Option.bind · _) hclose
  | @unary k op row f hk h ih =>
      obtain ⟨stack', f', hrun, hreduce⟩ := ih (.unary op :: stack) (Nat.le_refl _)
      refine ⟨stack', f', hrun, fun j hj => ?_⟩
      rw [hreduce j (Nat.le_trans hj hk), reduce, if_pos (Nat.le_trans hj hk)]
  | @binary k op row row' f g hk h h' ih ih' =>
      have hle := rules.binary_le_left op
      obtain ⟨stack', f', hrun, hreduce⟩ := ih stack (hs.mono (Nat.le_trans hk hle))
      obtain ⟨stack'', g', hrun', hreduce'⟩ := ih' (.binary op f :: stack) (Nat.lt_succ_self _)
      have hstep : step rules (stack', some f') (.binary op) = some (.binary op f :: stack, none) := by
        simp only [step, hreduce _ hle, reduce_of_holds op hs hk]
      refine ⟨stack'', g', ?_, fun j hj => ?_⟩
      · rw [run_append, hrun]
        change (Precedence.run rules (stack', some f') (.binary op :: row')) = _
        rw [run_cons, hstep]
        exact hrun'
      · rw [hreduce' j (by omega), reduce, if_pos (Nat.le_trans hj hk)]

-- No row reads as two formulas
theorem Reads.unique {k : Nat} (h : Reads rules k row f) (h' : Reads rules k row g) : f = g := by
  obtain ⟨stack, f', hrun, hreduce⟩ := (h.mono (Nat.zero_le k)).run [] trivial
  obtain ⟨stack', g', hrun', hreduce'⟩ := (h'.mono (Nat.zero_le k)).run [] trivial
  have hstate : (stack, some f') = (stack', some g') := Option.some.inj (hrun.symm.trans hrun')
  cases hstate
  have hpair := (hreduce 0 (Nat.le_refl 0)).symm.trans (hreduce' 0 (Nat.le_refl 0))
  exact congrArg Prod.snd hpair

end Formulary.Precedence
