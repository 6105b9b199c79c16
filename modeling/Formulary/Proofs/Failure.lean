import Formulary.Failure

namespace Formulary

instance decidableEqExcept {ε α : Type} [DecidableEq ε] [DecidableEq α] :
    DecidableEq (Except ε α)
  | .ok a, .ok b => decidable_of_iff (a = b) ⟨congrArg _, Except.ok.inj⟩
  | .error e, .error f => decidable_of_iff (e = f) ⟨congrArg _, Except.error.inj⟩
  | .ok _, .error _ => .isFalse nofun
  | .error _, .ok _ => .isFalse nofun

-- Two steps succeed when both do, and fail where the first of them fails
theorem bind_eq_ok_iff {ε α β : Type} (x : Except ε α) (f : α → Except ε β) (b : β) :
    (x >>= f) = .ok b ↔ ∃ a, x = .ok a ∧ f a = .ok b := by
  cases x with
  | error e => simp [bind, Except.bind]
  | ok a => simp [bind, Except.bind]

theorem bind_eq_error_iff {ε α β : Type} (x : Except ε α) (f : α → Except ε β) (e : ε) :
    (x >>= f) = .error e ↔ x = .error e ∨ ∃ a, x = .ok a ∧ f a = .error e := by
  cases x with
  | error e' => simp [bind, Except.bind]
  | ok a => simp [bind, Except.bind]

theorem pure_ne_error {ε α : Type} (a : α) (e : ε) : (pure a : Except ε α) ≠ .error e := by
  intro h
  cases h

-- A step fails with the first of what there is to report, and only with that
def Reports {ε α : Type} (x : Except ε α) (faults : List ε) : Prop :=
  ∀ e, x = .error e ↔ faults.head? = some e

namespace Reports

variable {ε α β : Type}

theorem ok (a : α) : Reports (.ok a : Except ε α) [] := by
  intro e
  simp

theorem error (e : ε) : Reports (.error e : Except ε α) [e] := by
  intro e'
  simp

theorem isOk_iff (x : Except ε α) (faults : List ε) (h : Reports x faults) :
    (∃ a, x = .ok a) ↔ faults = [] := by
  cases x with
  | ok a =>
      refine ⟨fun _ => ?_, fun _ => ⟨a, rfl⟩⟩
      cases faults with
      | nil => rfl
      | cons e rest => cases (h e).mpr rfl
  | error e =>
      constructor
      · rintro ⟨a, ha⟩
        cases ha
      · rintro rfl
        cases (h e).mp rfl

-- What comes second is only gone into if there is nothing to report on what comes first
theorem bind (x : Except ε α) (f : α → Except ε β) (faults faults' : List ε)
    (hx : Reports x faults) (hf : ∀ a, x = .ok a → Reports (f a) faults') :
    Reports (x >>= f) (faults ++ faults') := by
  intro e
  cases x with
  | ok a =>
      rw [(hx.isOk_iff _ _).mp ⟨a, rfl⟩]
      exact hf a rfl e
  | error first =>
      have hhead := (hx first).mp rfl
      rw [List.head?_append, hhead]
      simp [Bind.bind, Except.bind]

theorem map (x : Except ε α) (f : α → β) (faults : List ε) (hx : Reports x faults) :
    Reports (x >>= fun a => pure (f a)) faults := by
  rw [← List.append_nil faults]
  exact hx.bind _ _ _ _ fun a _ => ok (f a)

-- A step that fails where another does, and tells in its own way what that one reports
theorem retold {ε' : Type} (x : Except ε α) (y : Except ε' β) (tell : ε → ε')
    (faults : List ε) (hx : Reports x faults) (hok : ∀ a, x = .ok a → ∃ b, y = .ok b)
    (herror : ∀ e, x = .error e → y = .error (tell e)) : Reports y (faults.map tell) := by
  cases h : x with
  | ok a =>
      obtain ⟨b, rfl⟩ := hok a h
      rw [(hx.isOk_iff _ _).mp ⟨a, h⟩]
      exact ok b
  | error e =>
      intro e'
      rw [herror e h, List.head?_map, (hx e).mp h]
      simp

end Reports

-- Where each step gives one result for one item, what holds of every single result holds of all, and
-- what the results keep of their items they keep in order
theorem mapM_eq_ok {ε α β κ : Type} (f : α → Except ε β) (key : α → κ) (key' : β → κ)
    (P : β → Prop) (hf : ∀ a b, f a = .ok b → key' b = key a ∧ P b) (items : List α)
    (results : List β) (h : items.mapM f = .ok results) :
    results.map key' = items.map key ∧ ∀ b ∈ results, P b := by
  induction items generalizing results with
  | nil =>
      cases h
      exact ⟨rfl, by simp⟩
  | cons a rest ih =>
      rw [List.mapM_cons] at h
      obtain ⟨b, hb, h⟩ := (bind_eq_ok_iff _ _ _).mp h
      obtain ⟨results', hrest, h⟩ := (bind_eq_ok_iff _ _ _).mp h
      cases h
      obtain ⟨hkeys, hall⟩ := ih results' hrest
      obtain ⟨hkey, hP⟩ := hf a b hb
      rw [List.map_cons, List.map_cons, hkeys, hkey, List.forall_mem_cons]
      exact ⟨rfl, hP, hall⟩

-- All steps together succeed when each of them does
theorem mapM_isOk_iff {ε α β : Type} (f : α → Except ε β) (items : List α) :
    (∃ results, items.mapM f = .ok results) ↔ ∀ a ∈ items, ∃ b, f a = .ok b := by
  induction items with
  | nil => exact ⟨fun _ => by simp, fun _ => ⟨[], rfl⟩⟩
  | cons a rest ih =>
      rw [List.forall_mem_cons, ← ih, List.mapM_cons]
      constructor
      · rintro ⟨results, h⟩
        obtain ⟨b, hb, h⟩ := (bind_eq_ok_iff _ _ _).mp h
        obtain ⟨results', hrest, -⟩ := (bind_eq_ok_iff _ _ _).mp h
        exact ⟨⟨b, hb⟩, results', hrest⟩
      · rintro ⟨⟨b, hb⟩, results', hrest⟩
        refine ⟨b :: results', (bind_eq_ok_iff _ _ _).mpr ⟨b, hb, ?_⟩⟩
        exact (bind_eq_ok_iff _ _ _).mpr ⟨results', hrest, rfl⟩

theorem integerText_error (n : Int) (e : Failure) (h : integerText n = .error e) :
    e = .longInteger := by
  cases hd : hasDecimalText n.natAbs with
  | true => simp [integerText, hd] at h
  | false =>
      simp only [integerText, hd] at h
      exact (Except.error.inj h).symm

theorem Failure.miscounted_cases (name : Text) (expected actual : Nat) :
    miscounted name expected actual = .arity name expected actual ∨
      miscounted name expected actual = .longInteger := by
  unfold miscounted
  split
  · exact .inl rfl
  · exact .inr rfl

namespace Failure

-- What stands in a report of the failure. Whoever miscounts is told the right number of arguments,
-- if that can be written at all
def told : Failure → Failure
  | .arity name expected actual => miscounted name expected actual
  | failure => failure

def Tellable : Failure → Prop
  | .arity _ expected _ => hasDecimalText expected = true
  | _ => True

theorem told_eq_self_iff (failure : Failure) : failure.told = failure ↔ failure.Tellable := by
  cases failure with
  | arity name expected actual => simp [told, miscounted, Tellable]
  | _ => simp [told, Tellable]

theorem told_of_not_tellable (failure : Failure) (h : ¬ failure.Tellable) :
    failure.told = .longInteger := by
  cases failure with
  | arity name expected actual =>
      rw [Tellable] at h
      rw [told, miscounted, if_neg h]
  | _ => exact absurd trivial h

end Failure

end Formulary
