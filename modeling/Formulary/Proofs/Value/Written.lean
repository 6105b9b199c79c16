import Formulary.Value
import Formulary.Proofs.Failure

namespace Formulary.Value

mutual

-- Only an integer that is too long keeps a value from being written
theorem quoted_error (v : Value) (e : Failure) (h : v.quoted = .error e) : e = .longInteger := by
  cases v with
  | integer n =>
      rw [quoted] at h
      exact integerText_error n e h
  | list items =>
      rcases (bind_eq_error_iff _ _ _).mp h with h | ⟨parts, -, h⟩
      · exact quotedItems_error items e h
      · exact absurd h (pure_ne_error _ _)
  | tuple items =>
      rcases (bind_eq_error_iff _ _ _).mp h with h | ⟨parts, -, h⟩
      · exact quotedItems_error items e h
      · exact absurd h (pure_ne_error _ _)
  | dict entries =>
      rcases (bind_eq_error_iff _ _ _).mp h with h | ⟨parts, -, h⟩
      · exact quotedEntries_error entries e h
      · exact absurd h (pure_ne_error _ _)
  | _ => cases h

theorem quotedItems_error (items : List Value) (e : Failure) (h : quotedItems items = .error e) :
    e = .longInteger := by
  match items with
  | [] => cases h
  | v :: rest =>
      rcases (bind_eq_error_iff _ _ _).mp h with h | ⟨part, -, h⟩
      · exact quoted_error v e h
      rcases (bind_eq_error_iff _ _ _).mp h with h | ⟨parts, -, h⟩
      · exact quotedItems_error rest e h
      · exact absurd h (pure_ne_error _ _)

theorem quotedEntries_error (entries : List (Value × Value)) (e : Failure)
    (h : quotedEntries entries = .error e) : e = .longInteger := by
  match entries with
  | [] => cases h
  | (k, v) :: rest =>
      rcases (bind_eq_error_iff _ _ _).mp h with h | ⟨key, -, h⟩
      · exact quoted_error k e h
      rcases (bind_eq_error_iff _ _ _).mp h with h | ⟨value, -, h⟩
      · exact quoted_error v e h
      rcases (bind_eq_error_iff _ _ _).mp h with h | ⟨parts, -, h⟩
      · exact quotedEntries_error rest e h
      · exact absurd h (pure_ne_error _ _)

end

theorem display_error (v : Value) (e : Failure) (h : v.display = .error e) : e = .longInteger := by
  unfold display at h
  split at h
  · cases h
  · cases h
  · rcases (bind_eq_error_iff _ _ _).mp h with h | ⟨part, -, h⟩
    · exact quoted_error v e h
    · exact absurd h (pure_ne_error _ _)

-- Markup passes through, and the text of any other value gets escaped
theorem render_of_ne_markup (v : Value) (h : ∀ m, v ≠ .markup m) :
    v.render = v.display.map fun text => (Markup.escape text).text := by
  unfold render
  split
  · exact absurd rfl (h _)
  · cases v.display <;> rfl

theorem render_eq_ok_of_ne_markup (v : Value) (hv : ∀ m, v ≠ .markup m) (text : Text)
    (h : v.render = .ok text) :
    ∃ shown, v.display = .ok shown ∧ text = (Markup.escape shown).text := by
  rw [render_of_ne_markup v hv] at h
  cases hd : v.display with
  | error e => simp [hd, Except.map] at h
  | ok shown =>
      rw [hd, Except.map, Except.ok.injEq] at h
      exact ⟨shown, rfl, h.symm⟩

theorem render_error (v : Value) (e : Failure) (h : v.render = .error e) : e = .longInteger := by
  unfold render at h
  split at h
  · cases h
  · rcases (bind_eq_error_iff _ _ _).mp h with h | ⟨text, -, h⟩
    · exact display_error v e h
    · exact absurd h (pure_ne_error _ _)

-- A literal can be set exactly when its value can be shown
theorem render_isOk_iff (v : Value) :
    (∃ text, v.render = .ok text) ↔ ∃ text, v.display = .ok text := by
  by_cases h : ∃ m, v = .markup m
  · obtain ⟨m, rfl⟩ := h
    exact ⟨fun _ => ⟨m.text, rfl⟩, fun _ => ⟨m.text, rfl⟩⟩
  · rw [render_of_ne_markup v fun m hm => h ⟨m, hm⟩]
    cases v.display <;> simp [Except.map]

end Formulary.Value
