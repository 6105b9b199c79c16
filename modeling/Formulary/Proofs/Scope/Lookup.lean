import Formulary.Proofs.Scope.Resolution

namespace Formulary

-- The layer has the binding under the name. A void entry is no binding
def Layer.Binds (layer : Layer) (name : Text) (b : Binding) : Prop :=
  (name, some b) ∈ layer.bindings.entries

theorem Layer.find?_eq_some_iff (layer : Layer) (name : Text) (b : Binding) :
    layer.find? name = some b ↔ layer.Binds name b := by
  rw [Layer.find?, Option.join_eq_some_iff, OrderedMap.get?_eq_some_iff, Binds]

namespace Scope

-- Some layer has the binding under the name
def Binds (scope : Scope) (name : Text) (b : Binding) : Prop := ∃ layer ∈ scope, layer.Binds name b

-- From the inside out, the binding is the first one of the name that is asked for. The layers before its
-- own may bind the name otherwise
def Innermost (scope : Scope) (name : Text) (asked : Binding → Prop) (b : Binding) : Prop :=
  ∃ inner layer outer, scope = inner ++ layer :: outer ∧ layer.Binds name b ∧ asked b ∧
    ∀ passed ∈ inner, ∀ other, passed.Binds name other → ¬ asked other

-- The binding of a name in the role asked for
def lookupRole (role : Role) (scope : Scope) (name : Text) : Except Failure Binding :=
  match role with
  | .symbol => (scope.resolveSymbol name).map .symbol
  | .function => (scope.resolveFunction name).map .function

theorem mem_candidates_iff (scope : Scope) (name : Text) (b : Binding) :
    b ∈ scope.candidates name ↔ scope.Binds name b := by
  simp only [candidates, List.mem_filterMap, Layer.find?_eq_some_iff, Binds]

theorem innermost_cons (layer : Layer) (rest : Scope) (name : Text) (asked : Binding → Prop)
    (b : Binding) :
    Innermost (layer :: rest) name asked b ↔ (layer.Binds name b ∧ asked b) ∨
      (∀ other, layer.Binds name other → ¬ asked other) ∧ Innermost rest name asked b := by
  constructor
  · rintro ⟨_ | ⟨first, inner⟩, own, outer, hscope, hbinds, hasked, hpassed⟩
    · cases hscope
      exact .inl ⟨hbinds, hasked⟩
    · cases hscope
      rw [List.forall_mem_cons] at hpassed
      exact .inr ⟨hpassed.1, inner, own, outer, rfl, hbinds, hasked, hpassed.2⟩
  · rintro (⟨hbinds, hasked⟩ | ⟨hfirst, inner, own, outer, rfl, hbinds, hasked, hpassed⟩)
    · exact ⟨[], layer, rest, rfl, hbinds, hasked, fun passed h => nomatch h⟩
    · exact ⟨layer :: inner, own, outer, rfl, hbinds, hasked, List.forall_mem_cons.mpr ⟨hfirst, hpassed⟩⟩

theorem innermost_iff_find? (scope : Scope) (name : Text) (asked : Binding → Prop)
    [DecidablePred asked] (b : Binding) :
    scope.Innermost name asked b ↔ (scope.candidates name).find? asked = some b := by
  induction scope with
  | nil => simp [Innermost]
  | cons layer rest ih =>
      rw [innermost_cons, candidates_cons, ih]
      simp only [← Layer.find?_eq_some_iff]
      cases layer.find? name with
      | none => simp
      | some found =>
          by_cases hasked : asked found
          · have hfound : found = b → asked b := fun h => h ▸ hasked
            simpa [hasked] using hfound
          · have hnot : ¬ (found = b ∧ asked b) := fun h => hasked (h.1 ▸ h.2)
            simp [hasked, hnot]

section Select

variable {α : Type} (select : Binding → Option α) (ofEntry : α → Binding) (role : Role)
  (hselect : ∀ b, (select b).map ofEntry = if b.role = role then some b else none)

include hselect

theorem map_findSome?_select (bindings : List Binding) :
    (bindings.findSome? select).map ofEntry = bindings.find? (·.role = role) := by
  induction bindings with
  | nil => rfl
  | cons b rest ih =>
      have hb := hselect b
      rw [List.findSome?_cons, List.find?_cons]
      by_cases hrole : b.role = role
      · rw [if_pos hrole, Option.map_eq_some_iff] at hb
        obtain ⟨entry, hentry, rfl⟩ := hb
        simp [hentry, hrole]
      · rw [if_neg hrole, Option.map_eq_none_iff] at hb
        simpa only [hb, hrole, decide_false] using ih

-- The walk comes out with the first binding of the role, and otherwise with what it remembers of the others
theorem map_resolveFrom (scope : Scope) (name : Text) :
    (resolveFrom select role name false scope).map ofEntry =
      match (scope.candidates name).find? (·.role = role) with
      | some b => .ok b
      | none => .error (if (scope.lookup name).isSome then .misbound name role else .unbound name role) := by
  rw [resolveFrom_eq, ← map_findSome?_select select ofEntry role hselect, lookup_eq_head?_candidates]
  cases (scope.candidates name).findSome? select with
  | some entry => rfl
  | none => cases scope.candidates name <;> rfl

end Select

theorem lookupRole_eq (role : Role) (scope : Scope) (name : Text) :
    scope.lookupRole role name =
      match (scope.candidates name).find? (·.role = role) with
      | some b => .ok b
      | none => .error (if (scope.lookup name).isSome then .misbound name role else .unbound name role) := by
  cases role with
  | symbol => exact map_resolveFrom asSymbol? .symbol .symbol (fun b => by cases b <;> rfl) scope name
  | function => exact map_resolveFrom asFunction? .function .function (fun b => by cases b <;> rfl) scope name

theorem lookupRole_eq_ok_iff (role : Role) (scope : Scope) (name : Text) (b : Binding) :
    scope.lookupRole role name = .ok b ↔ scope.Innermost name (·.role = role) b := by
  rw [lookupRole_eq, innermost_iff_find?]
  cases (scope.candidates name).find? (·.role = role) <;> simp

theorem lookup_eq_some_iff (scope : Scope) (name : Text) (b : Binding) :
    scope.lookup name = some b ↔ scope.Innermost name (fun _ => True) b := by
  rw [innermost_iff_find?, lookup_eq_head?_candidates]
  cases scope.candidates name <;> simp

theorem lookup_eq_none_iff (scope : Scope) (name : Text) :
    scope.lookup name = none ↔ ∀ b, ¬ scope.Binds name b := by
  simp only [lookup_eq_head?_candidates, List.head?_eq_none_iff, ← mem_candidates_iff,
    List.eq_nil_iff_forall_not_mem]

theorem lookupRole_eq_error_iff (role : Role) (scope : Scope) (name : Text) (e : Failure) :
    scope.lookupRole role name = .error e ↔
      (∀ b, scope.Binds name b → b.role ≠ role) ∧
        (e = .misbound name role ∧ (∃ b, scope.Binds name b) ∨
          e = .unbound name role ∧ scope.lookup name = none) := by
  have hnone : (∀ b, scope.Binds name b → b.role ≠ role) ↔
      (scope.candidates name).find? (·.role = role) = none := by
    simp [← mem_candidates_iff]
  have hbound : (∃ b, scope.Binds name b) ↔ scope.lookup name ≠ none := by
    rw [Ne, lookup_eq_none_iff, Classical.not_forall_not]
  rw [lookupRole_eq, hnone, hbound]
  cases (scope.candidates name).find? (·.role = role) with
  | some b => simp
  | none => cases scope.lookup name <;> simp [@eq_comm _ e]

theorem innermost_insert (inner : Scope) (layer : Layer) (outer : Scope) (name : Text)
    (asked : Binding → Prop) [DecidablePred asked] (b : Binding)
    (h : ∀ other, layer.Binds name other → ¬ asked other) :
    Innermost (inner ++ layer :: outer) name asked b ↔ Innermost (inner ++ outer) name asked b := by
  have hlayer : (layer.find? name).toList.find? asked = none := by
    simpa [Layer.find?_eq_some_iff] using h
  simp only [innermost_iff_find?, candidates, List.filterMap_append]
  have hcandidates := candidates_cons layer outer name
  simp only [candidates] at hcandidates
  rw [hcandidates, List.find?_append, List.find?_append, hlayer, List.find?_append, Option.none_or]

-- Whatever the layers of a chain hold, looking a name up gives the innermost of its bindings, and looking
-- it up in a role the innermost of those in the role, whatever stands before it. Where that fails, a name
-- with a binding has the other role only, and a name without any is not bound. So the two ways agree
-- wherever the first binding has the role, and a layer without a binding in the role hides none
theorem lookup_and_lookupRole_innermost (scope : Scope) (name : Text) :
    (∀ b, scope.lookup name = some b ↔ scope.Innermost name (fun _ => True) b) ∧
    (scope.lookup name = none ↔ ∀ b, ¬ scope.Binds name b) ∧
    ∀ role,
      (∀ b, scope.lookupRole role name = .ok b ↔ scope.Innermost name (·.role = role) b) ∧
      (scope.lookupRole role name = .error (.misbound name role) ↔
        (∃ b, scope.Binds name b) ∧ ∀ b, scope.Binds name b → b.role ≠ role) ∧
      (scope.lookupRole role name = .error (.unbound name role) ↔ scope.lookup name = none) ∧
      (∀ e, scope.lookupRole role name = .error e → e = .misbound name role ∨ e = .unbound name role) ∧
      (∀ b, scope.lookup name = some b → b.role = role → scope.lookupRole role name = .ok b) ∧
      ∀ inner layer outer, scope = inner ++ outer →
        (∀ other, layer.Binds name other → other.role ≠ role) →
        ∀ b, lookupRole role (inner ++ layer :: outer) name = .ok b ↔ scope.lookupRole role name = .ok b := by
  refine ⟨scope.lookup_eq_some_iff name, scope.lookup_eq_none_iff name, fun role =>
    ⟨fun b => scope.lookupRole_eq_ok_iff role name b, ?_, ?_, fun e he => ?_, fun b hb hrole => ?_, ?_⟩⟩
  · simp [lookupRole_eq_error_iff, and_comm]
  · have hother : scope.lookup name = none → ∀ b, scope.Binds name b → b.role ≠ role :=
      fun h b hb => absurd hb ((lookup_eq_none_iff scope name).mp h b)
    simpa [lookupRole_eq_error_iff] using hother
  · rcases (lookupRole_eq_error_iff role scope name e).mp he with ⟨-, ⟨h, -⟩ | ⟨h, -⟩⟩
    · exact .inl h
    · exact .inr h
  · obtain ⟨inner, layer, outer, hscope, hbinds, -, hpassed⟩ := (lookup_eq_some_iff scope name b).mp hb
    refine (lookupRole_eq_ok_iff role scope name b).mpr ⟨inner, layer, outer, hscope, hbinds, hrole, ?_⟩
    exact fun passed hp other hother => absurd trivial (hpassed passed hp other hother)
  · rintro inner layer outer rfl h b
    rw [lookupRole_eq_ok_iff, lookupRole_eq_ok_iff, innermost_insert _ _ _ _ _ _ h]

-- A void entry, then a function, then a symbol of another name than its key: each role is found behind
-- what stands before it
theorem lookup_and_lookupRole_innermost_of_void_entry :
    let void : Layer := ⟨"inner", .ofList [("f", none)]⟩
    let function : Layer := ⟨"middle", .ofList [("f", some (.function (.unknown "f")))]⟩
    let symbol : Layer := ⟨"outer", .ofList [("f", some (.symbol ⟨"g", "x"⟩))]⟩
    lookup [void, function, symbol] "f" = some (.function (.unknown "f")) ∧
    lookupRole .function [void, function, symbol] "f" = .ok (.function (.unknown "f")) ∧
    lookupRole .symbol [void, function, symbol] "f" = .ok (.symbol ⟨"g", "x"⟩) ∧
    lookupRole .symbol [void, function] "f" = .error (.misbound "f" .symbol) ∧
    lookupRole .symbol [void, function, symbol] "g" = .error (.unbound "g" .symbol) := by
  intro void function symbol
  have hvoid : ∀ b, ¬ void.Binds "f" b := fun b h => nomatch (void.find?_eq_some_iff "f" b).mpr h
  have hfunction : ∀ b, function.Binds "f" b → b.role ≠ .symbol := by
    intro b h
    cases (function.find?_eq_some_iff "f" b).mpr h
    nofun
  obtain ⟨-, -, hroles⟩ := lookup_and_lookupRole_innermost [void, function, symbol] "f"
  obtain ⟨-, -, hinner⟩ := lookup_and_lookupRole_innermost [void, function] "f"
  obtain ⟨-, -, hother⟩ := lookup_and_lookupRole_innermost [void, function, symbol] "g"
  refine ⟨rfl, (hroles .function).2.2.2.2.1 _ rfl rfl, ?_, ?_, (hother .symbol).2.2.1.mpr rfl⟩
  · refine ((hroles .symbol).1 _).mpr
      ⟨[void, function], symbol, [], rfl, List.mem_singleton.mpr rfl, rfl, ?_⟩
    exact List.forall_mem_cons.mpr ⟨fun b h => absurd h (hvoid b), List.forall_mem_singleton.mpr hfunction⟩
  · refine (hinner .symbol).2.1.mpr ⟨⟨_, function, by simp, List.mem_singleton.mpr rfl⟩, ?_⟩
    rintro b ⟨layer, hlayer, h⟩
    rcases List.mem_cons.mp hlayer with rfl | hlayer
    · exact absurd h (hvoid b)
    · exact hfunction b (List.mem_singleton.mp hlayer ▸ h)

end Scope

end Formulary
