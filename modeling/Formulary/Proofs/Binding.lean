import Formulary.Binding
import Formulary.Proofs.Failure

namespace Formulary

namespace Rendering

theorem apply_wrap_eq_ok_iff (before after : Text) (args : List Text) (text : Text) :
    (wrap before after).apply args = .ok text ↔
      ∃ arg, args = [arg] ∧ text = before ++ arg ++ after := by
  match args with
  | [] => simp [apply]
  | [arg] => simp [apply, eq_comm]
  | _ :: _ :: _ => simp [apply]

theorem apply_between_eq_ok_iff (separator : Text) (args : List Text) (text : Text) :
    (between separator).apply args = .ok text ↔
      ∃ left right, args = [left, right] ∧ text = left ++ separator ++ right := by
  match args with
  | [] => simp [apply]
  | [_] => simp [apply]
  | [left, right] =>
      constructor
      · intro h
        exact ⟨left, right, rfl, (Except.ok.inj h).symm⟩
      · rintro ⟨_, _, hargs, rfl⟩
        cases hargs
        rfl
  | _ :: _ :: _ :: _ => simp [apply]

theorem apply_template_eq_ok_iff (t : Template) (args : List Text) (text : Text) :
    (template t).apply args = .ok text ↔ args.length = t.arity ∧ text = t.fill args := by
  by_cases h : args.length = t.arity <;> simp [apply, h, eq_comm]

-- Only a wrong number of arguments makes a rendering fail, and it tells the right one
theorem apply_eq_error_iff (r : Rendering) (args : List Text) (n : Nat) :
    r.apply args = .error n ↔ r.arity = some n ∧ args.length ≠ n := by
  cases r with
  | wrap before after =>
      match args with
      | [] => simp [apply, arity]; omega
      | [_] => simp [apply, arity]
      | _ :: _ :: _ => simp [apply, arity]; omega
  | between separator =>
      match args with
      | [] => simp [apply, arity]; omega
      | [_] => simp [apply, arity]; omega
      | [_, _] => simp [apply, arity]
      | _ :: _ :: _ :: _ => simp [apply, arity]; omega
  | template t => by_cases h : args.length = t.arity <;> simp [apply, arity, h]; omega
  | variadic before after separator => simp [apply, arity]
  | upright name => simp [apply, arity]

theorem apply_isOk_iff (r : Rendering) (args : List Text) :
    (∃ text, r.apply args = .ok text) ↔ ∀ n, r.arity = some n → args.length = n := by
  cases hr : r.apply args with
  | ok text =>
      refine ⟨fun _ n hn => Decidable.byContradiction fun hne => ?_, fun _ => ⟨text, rfl⟩⟩
      cases hr.symm.trans ((r.apply_eq_error_iff args n).mpr ⟨hn, hne⟩)
  | error n =>
      obtain ⟨hn, hne⟩ := (r.apply_eq_error_iff args n).mp hr
      simp only [reduceCtorEq, exists_false, false_iff]
      exact fun hcount => hne (hcount n hn)

end Rendering

namespace FunctionBinding

theorem invoke_eq_ok_iff (f : FunctionBinding) (args : List Text) (text : Text) :
    f.invoke args = .ok text ↔ f.rendering.apply args = .ok text := by
  cases h : f.rendering.apply args <;> simp [invoke, h]

theorem invoke_isOk_iff (f : FunctionBinding) (args : List Text) :
    (∃ text, f.invoke args = .ok text) ↔ ∀ n, f.rendering.arity = some n → args.length = n := by
  simp only [invoke_eq_ok_iff, Rendering.apply_isOk_iff]

theorem invoke_eq_error_iff (f : FunctionBinding) (args : List Text) (e : Failure) :
    f.invoke args = .error e ↔
      ∃ n, f.rendering.arity = some n ∧ args.length ≠ n ∧ e = .miscounted f.name n args.length := by
  unfold invoke
  cases hr : f.rendering.apply args with
  | ok text =>
      have hcount : ∀ n, f.rendering.arity = some n → args.length = n :=
        (Rendering.apply_isOk_iff _ _).mp ⟨text, hr⟩
      simp only [reduceCtorEq, false_iff, not_exists, not_and]
      exact fun n hn hne => absurd (hcount n hn) hne
  | error expected =>
      obtain ⟨hn, hne⟩ := (Rendering.apply_eq_error_iff _ _ _).mp hr
      simp [hn, hne, @eq_comm _ e]

end FunctionBinding

-- A pattern whose slots go from one to no more than the declared arity is a template
theorem Template.ofPattern_eq_ok (name pattern : Text) (n : Nat)
    (hpos : ∀ number ∈ Piece.slots (Piece.ofPattern pattern), 0 < number)
    (hle : Piece.highest (Piece.ofPattern pattern) ≤ n) :
    ∃ t, ofPattern name pattern (some n) = .ok t ∧ t.arity = n := by
  refine ⟨⟨n, Piece.ofPattern pattern, hpos, fun number h => ?_⟩, ?_, rfl⟩
  · exact Nat.le_trans (Piece.le_highest _ number h) hle
  · rw [ofPattern, dif_pos hpos]
    exact dif_pos (Int.ofNat_le.mpr hle)

end Formulary
