import Formulary.OrderedMap

namespace Formulary.OrderedMap

variable {α β : Type}

theorem put_of_notMem (key : Text) (value : α) (entries : List (Text × α))
    (h : key ∉ entries.map Prod.fst) : put key value entries = entries ++ [(key, value)] := by
  induction entries with
  | nil => rfl
  | cons e rest ih =>
      simp only [List.map_cons, List.mem_cons, not_or] at h
      rw [put, if_neg (Ne.symm h.1), ih h.2, List.cons_append]

theorem keys_put_of_mem (key : Text) (value : α) (entries : List (Text × α))
    (h : key ∈ entries.map Prod.fst) : (put key value entries).map Prod.fst = entries.map Prod.fst := by
  induction entries with
  | nil => cases h
  | cons e rest ih =>
      by_cases he : e.1 = key
      · simp [put, he]
      · have hrest : key ∈ rest.map Prod.fst := (List.mem_cons.mp h).resolve_left (Ne.symm he)
        simp [put, he, ih hrest]

theorem mem_of_mem_put (key : Text) (value : α) (entries : List (Text × α)) (e : Text × α)
    (h : e ∈ put key value entries) : e = (key, value) ∨ e ∈ entries := by
  induction entries with
  | nil => simpa [put] using h
  | cons e' rest ih =>
      simp only [put] at h
      split at h
      · exact (List.mem_cons.mp h).imp id (List.mem_cons_of_mem e')
      · rcases List.mem_cons.mp h with rfl | h
        · exact .inr List.mem_cons_self
        · exact (ih h).imp id (List.mem_cons_of_mem e')

-- Entries with new keys that are all different go to the end as they stand
theorem entries_overlay_of_nodup (map : OrderedMap α) (extra : List (Text × α))
    (h : ((map.entries ++ extra).map Prod.fst).Nodup) :
    (map.overlay extra).entries = map.entries ++ extra := by
  induction extra generalizing map with
  | nil => exact (List.append_nil _).symm
  | cons e rest ih =>
      have hkey : e.1 ∉ map.entries.map Prod.fst := by
        rw [List.map_append, List.map_cons, List.nodup_append] at h
        intro hm
        exact h.2.2 _ hm _ List.mem_cons_self rfl
      have hput : (map.insert e.1 e.2).entries = map.entries ++ [e] :=
        put_of_notMem e.1 e.2 map.entries hkey
      change ((map.insert e.1 e.2).overlay rest).entries = _
      rw [ih, hput, List.append_assoc, List.singleton_append]
      rwa [hput, List.append_assoc, List.singleton_append]

theorem entries_ofList (entries : List (Text × α)) (h : (entries.map Prod.fst).Nodup) :
    (ofList entries).entries = entries :=
  entries_overlay_of_nodup empty entries h

theorem mem_of_mem_entries_overlay (map : OrderedMap α) (extra : List (Text × α)) (e : Text × α)
    (h : e ∈ (map.overlay extra).entries) : e ∈ map.entries ∨ e ∈ extra := by
  induction extra generalizing map with
  | nil => exact .inl h
  | cons e' rest ih =>
      rcases ih (map.insert e'.1 e'.2) h with h | h
      · rcases mem_of_mem_put e'.1 e'.2 map.entries e h with rfl | h
        · exact .inr List.mem_cons_self
        · exact .inl h
      · exact .inr (List.mem_cons_of_mem e' h)

theorem lookup_put (key k : Text) (value : α) (entries : List (Text × α)) :
    (put key value entries).lookup k = if k = key then some value else entries.lookup k := by
  induction entries with
  | nil =>
      rw [put, List.lookup_cons]
      by_cases h : k = key
      · simp [h]
      · simp [h, beq_false_of_ne h]
  | cons e rest ih =>
      rw [put]
      by_cases he : e.1 = key
      · rw [if_pos he, List.lookup_cons, List.lookup_cons, he]
        by_cases h : k = key
        · simp [h]
        · simp [h, beq_false_of_ne h]
      · rw [if_neg he, List.lookup_cons, List.lookup_cons, ih]
        by_cases h : k = e.1
        · simp [h, he]
        · simp [beq_false_of_ne h]

theorem get?_overlay_of_notMem (map : OrderedMap α) (extra : List (Text × α)) (key : Text)
    (h : key ∉ extra.map Prod.fst) : (map.overlay extra).get? key = map.get? key := by
  induction extra generalizing map with
  | nil => rfl
  | cons e rest ih =>
      rw [List.map_cons, List.mem_cons, not_or] at h
      have hinsert : (map.insert e.1 e.2).get? key = map.get? key := by
        rw [get?, insert, lookup_put, if_neg h.1]
        rfl
      change ((map.insert e.1 e.2).overlay rest).get? key = _
      rw [ih _ h.2, hinsert]

theorem mem_entries_of_get? (map : OrderedMap α) (key : Text) (value : α)
    (h : map.get? key = some value) : (key, value) ∈ map.entries := by
  obtain ⟨before, after, he, -⟩ := List.lookup_eq_some_iff.mp h
  simp [he]

theorem get?_eq_some_iff (map : OrderedMap α) (key : Text) (value : α) :
    map.get? key = some value ↔ (key, value) ∈ map.entries := by
  refine ⟨mem_entries_of_get? map key value, fun h => ?_⟩
  obtain ⟨before, after, hentries⟩ := List.append_of_mem h
  have hkeys := map.nodup
  rw [hentries, List.map_append, List.map_cons, List.nodup_append] at hkeys
  refine List.lookup_eq_some_iff.mpr ⟨before, after, hentries, fun e he => ?_⟩
  exact bne_iff_ne.mpr fun heq => hkeys.2.2 e.1 (List.mem_map_of_mem he) key List.mem_cons_self heq.symm

theorem get?_eq_none_iff (map : OrderedMap α) (key : Text) : map.get? key = none ↔ key ∉ map.keys := by
  rw [Option.eq_none_iff_forall_ne_some]
  simp [get?_eq_some_iff, keys]

theorem nodup_keys (map : OrderedMap α) : map.keys.Nodup := map.nodup

theorem nodup_entries (map : OrderedMap α) : map.entries.Nodup :=
  List.Pairwise.of_map Prod.fst (fun _ _ hne heq => hne (congrArg Prod.fst heq)) map.nodup

theorem perm_entries_of_get? (map map' : OrderedMap α) (h : ∀ key, map.get? key = map'.get? key) :
    map.entries.Perm map'.entries := by
  refine (List.perm_ext_iff_of_nodup map.nodup_entries map'.nodup_entries).mpr fun e => ?_
  rw [← get?_eq_some_iff map e.1 e.2, h, get?_eq_some_iff map' e.1 e.2]

theorem map_some_entries (map : OrderedMap α) :
    map.entries.map some = map.keys.map fun key => (map.get? key).map fun value => (key, value) := by
  rw [keys, List.map_map]
  refine List.map_congr_left fun e he => ?_
  rw [Function.comp_apply, (map.get?_eq_some_iff e.1 e.2).mpr he]
  rfl

-- A map is its keys in order and what it has for each of them
theorem ext_keys_get? (map map' : OrderedMap α) (hkeys : map.keys = map'.keys)
    (hget : ∀ key, map.get? key = map'.get? key) : map = map' := by
  have hsome : map.entries.map some = map'.entries.map some := by
    rw [map_some_entries, map_some_entries, hkeys]
    simp only [hget]
  have hentries := (List.map_inj_right fun _ _ => Option.some.inj).mp hsome
  cases map
  cases map'
  cases hentries
  rfl

theorem mem_of_get?_ofList (entries : List (Text × α)) (key : Text) (value : α)
    (h : (ofList entries).get? key = some value) : (key, value) ∈ entries := by
  rcases mem_of_mem_entries_overlay empty entries _ (mem_entries_of_get? _ _ _ h) with hm | hm
  · cases hm
  · exact hm

theorem lookup_map_values (f : α → β) (key : Text) (entries : List (Text × α)) :
    (entries.map fun e => (e.1, f e.2)).lookup key = (entries.lookup key).map f := by
  induction entries with
  | nil => rfl
  | cons e rest ih =>
      rw [List.map_cons, List.lookup_cons, List.lookup_cons, ih]
      cases key == e.1 <;> rfl

-- A table made from keys alone answers for these keys
theorem lookup_map_keys (f : Text → α) (key : Text) (keys : List Text) :
    (keys.map fun k => (k, f k)).lookup key = if key ∈ keys then some (f key) else none := by
  induction keys with
  | nil => rfl
  | cons k rest ih =>
      by_cases h : key = k
      · subst h
        simp
      · have hb : (key == k) = false := beq_false_of_ne h
        simp [List.lookup_cons, ih, h, hb]

end Formulary.OrderedMap
