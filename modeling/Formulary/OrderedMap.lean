import Formulary.Text.CodePoint

namespace Formulary

-- A finite map that keeps its keys in the order in which they first came
structure OrderedMap (α : Type) where
  entries : List (Text × α)
  nodup : (entries.map Prod.fst).Nodup

namespace OrderedMap

variable {α : Type}

-- A key that is there keeps its place and takes the new value, a new key goes to the end
def put (key : Text) (value : α) : List (Text × α) → List (Text × α)
  | [] => [(key, value)]
  | (k, v) :: rest => if k = key then (key, value) :: rest else (k, v) :: put key value rest

theorem mem_keys_put (key k : Text) (value : α) (entries : List (Text × α)) :
    k ∈ (put key value entries).map Prod.fst ↔ k = key ∨ k ∈ entries.map Prod.fst := by
  induction entries with
  | nil => simp [put]
  | cons e rest ih =>
    by_cases h : e.1 = key
    · simp [put, h]
    · simp only [put, h, if_false, List.map_cons, List.mem_cons, ih]
      grind

theorem nodup_keys_put (key : Text) (value : α) (entries : List (Text × α))
    (h : (entries.map Prod.fst).Nodup) : ((put key value entries).map Prod.fst).Nodup := by
  induction entries with
  | nil => simp [put]
  | cons e rest ih =>
    have hrest := List.nodup_cons.mp h
    by_cases he : e.1 = key
    · simpa [put, he] using h
    · simp only [put, he, if_false, List.map_cons, List.nodup_cons]
      refine ⟨?_, ih hrest.2⟩
      rw [mem_keys_put]
      grind

def empty : OrderedMap α := ⟨[], .nil⟩

def insert (map : OrderedMap α) (key : Text) (value : α) : OrderedMap α :=
  ⟨put key value map.entries, nodup_keys_put key value map.entries map.nodup⟩

def get? (map : OrderedMap α) (key : Text) : Option α := map.entries.lookup key

def contains (map : OrderedMap α) (key : Text) : Bool := (map.get? key).isSome

def keys (map : OrderedMap α) : List Text := map.entries.map Prod.fst

def values (map : OrderedMap α) : List α := map.entries.map Prod.snd

def size (map : OrderedMap α) : Nat := map.entries.length

-- `map` with the entries of `extra` laid over it, one after the other
def overlay (map : OrderedMap α) (extra : List (Text × α)) : OrderedMap α :=
  extra.foldl (fun map e => map.insert e.1 e.2) map

def ofList (entries : List (Text × α)) : OrderedMap α := empty.overlay entries

instance : Inhabited (OrderedMap α) := ⟨empty⟩

end OrderedMap

end Formulary
