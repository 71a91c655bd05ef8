import Phrasebook.Text.Basic

/-!
# Phrasebook.Dictionary

Finite maps from texts, with their keys in the order of their first insertion. A new value for a key
that is there keeps the key's place.

`get?_insert` and `keys_insert` say all about an insertion: what is found afterwards, and in which
order the keys stand. `same` compares two dictionaries as maps, whatever their order.
-/

namespace Phrasebook

/-- Entries with `key` mapped to `value`: in its place if the key is there, else at the end. -/
def putEntry {α : Type} (key : Text) (value : α) : List (Text × α) → List (Text × α)
  | [] => [(key, value)]
  | (k, v) :: rest => if k = key then (key, value) :: rest else (k, v) :: putEntry key value rest

theorem keys_putEntry {α : Type} (key : Text) (value : α) (entries : List (Text × α)) :
    (putEntry key value entries).map Prod.fst =
      if key ∈ entries.map Prod.fst then entries.map Prod.fst
      else entries.map Prod.fst ++ [key] := by
  induction entries with
  | nil => simp [putEntry]
  | cons entry rest ih =>
    obtain ⟨k, v⟩ := entry
    by_cases h : k = key
    · simp [putEntry, h]
    · simp only [putEntry, h, if_false, List.map_cons, ih, List.mem_cons, Ne.symm h, false_or]
      split <;> simp

theorem lookup_putEntry {α : Type} (key query : Text) (value : α) (entries : List (Text × α)) :
    (putEntry key value entries).lookup query =
      if query = key then some value else entries.lookup query := by
  have hne {a b : Text} (h : a ≠ b) : (a == b) = false := beq_eq_false_iff_ne.mpr h
  induction entries with
  | nil => by_cases h : query = key <;> simp [putEntry, List.lookup_cons, h, hne]
  | cons entry rest ih =>
    obtain ⟨k, v⟩ := entry
    by_cases h : k = key
    · by_cases hq : query = key <;> simp [putEntry, List.lookup_cons, h, hq, hne]
    · by_cases hq : query = k
      · simp [putEntry, hq, h]
      · simp [putEntry, List.lookup_cons, hq, h, ih, hne]

/-- A finite map from texts that keeps the order of insertion. -/
structure Dictionary (α : Type) where
  entries : List (Text × α)
  nodup : (entries.map Prod.fst).Nodup

namespace Dictionary

variable {α : Type}

def empty : Dictionary α :=
  ⟨[], List.nodup_nil⟩

/-- The value of a key, if the key is there. -/
def get? (d : Dictionary α) (key : Text) : Option α :=
  d.entries.lookup key

def contains (d : Dictionary α) (key : Text) : Bool :=
  (d.get? key).isSome

/-- The keys in the order of their first insertion. -/
def keys (d : Dictionary α) : List Text :=
  d.entries.map Prod.fst

def size (d : Dictionary α) : Nat :=
  d.entries.length

/-- The dictionary with `key` mapped to `value`. -/
def insert (d : Dictionary α) (key : Text) (value : α) : Dictionary α where
  entries := putEntry key value d.entries
  nodup := by
    rw [keys_putEntry]
    split
    · exact d.nodup
    · rename_i h
      exact List.nodup_append.mpr ⟨d.nodup, by simp, by
        intro a ha b hb
        simp only [List.mem_singleton] at hb
        exact fun hab => h (hb ▸ hab ▸ ha)⟩

/-- The dictionary with all the given entries inserted, one after another. -/
def insertAll (d : Dictionary α) (entries : List (Text × α)) : Dictionary α :=
  entries.foldl (fun d entry => d.insert entry.1 entry.2) d

def ofList (entries : List (Text × α)) : Dictionary α :=
  empty.insertAll entries

/-- The entries of both dictionaries; where both have a key the second one's value counts. -/
def merge (d other : Dictionary α) : Dictionary α :=
  d.insertAll other.entries

/-- Whether two dictionaries map the same keys to the same values. -/
def same [BEq α] (d other : Dictionary α) : Bool :=
  d.size == other.size && d.entries.all fun entry => other.get? entry.1 == some entry.2

theorem keys_insert (d : Dictionary α) (key : Text) (value : α) :
    (d.insert key value).keys = if key ∈ d.keys then d.keys else d.keys ++ [key] :=
  keys_putEntry key value d.entries

@[simp]
theorem get?_insert (d : Dictionary α) (key query : Text) (value : α) :
    (d.insert key value).get? query = if query = key then some value else d.get? query :=
  lookup_putEntry key query value d.entries

theorem insertAll_append (d : Dictionary α) (first second : List (Text × α)) :
    d.insertAll (first ++ second) = (d.insertAll first).insertAll second :=
  List.foldl_append

end Dictionary
end Phrasebook
