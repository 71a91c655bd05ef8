import Phrasebook.Catalog.Basic

/-!
# Phrasebook.Proofs.Merge

What is found after a merge, and in which order the keys stand after an insertion.

* `get?_insertAll`, `get?_ofList_eq_some_iff`: of several entries with one key the last one counts.
* `get?_merge`, `keys_merge`: the entries of the second dictionary win, the others stay; keys that are
  new come last.
* `insert_keys_eq_eraseDups`: the keys of a dictionary that is only inserted into are the inserted
  ones in the order of their first insertion.
* `merge_ofList`: to merge a dictionary that was made of entries is to insert these entries, one after
  another; the order of the keys comes out the same.
* `insert_insertAll_of_mem`, `entries_insertAll`: a value that is put again later is not seen, and
  entries with new keys are added as they are.
* `size_ofList_eq_iff`: a dictionary has as many entries as it was made of just when no key comes
  twice.
-/

namespace Phrasebook

/-- Where the keys of the entries differ it does not matter from which end a key is looked up. -/
theorem lookup_reverse {α : Type} {entries : List (Text × α)}
    (h : (entries.map Prod.fst).Nodup) (key : Text) :
    entries.reverse.lookup key = entries.lookup key := by
  induction entries with
  | nil => rfl
  | cons entry rest ih =>
    obtain ⟨k, v⟩ := entry
    rw [List.map_cons, List.nodup_cons] at h
    obtain ⟨hk, hrest⟩ := h
    rw [List.reverse_cons, List.lookup_append, ih hrest]
    by_cases hq : key = k
    · subst hq
      have hnone : rest.lookup key = none := by
        rw [List.lookup_eq_none_iff]
        intro p hp
        exact bne_iff_ne.mpr fun e => hk (List.mem_map.mpr ⟨p, hp, e.symm⟩)
      rw [hnone]
      simp
    · have hne : (key == k) = false := beq_eq_false_iff_ne.mpr hq
      simp [List.lookup_cons, hne]

namespace Dictionary

variable {α : Type}

theorem get?_insertAll (entries : List (Text × α)) (d : Dictionary α) (key : Text) :
    (d.insertAll entries).get? key = (entries.reverse.lookup key).or (d.get? key) := by
  induction entries generalizing d with
  | nil => rfl
  | cons entry rest ih =>
    obtain ⟨k, v⟩ := entry
    have hstep : d.insertAll ((k, v) :: rest) = (d.insert k v).insertAll rest := rfl
    rw [hstep, ih, List.reverse_cons, List.lookup_append, get?_insert, Option.or_assoc]
    congr 1
    by_cases h : key = k
    · simp [h]
    · have hne : (key == k) = false := beq_eq_false_iff_ne.mpr h
      simp [List.lookup_cons, h, hne]

theorem get?_ofList_eq_some_iff {entries : List (Text × α)} {key : Text} {value : α} :
    (ofList entries).get? key = some value ↔
      ∃ before after, entries = before ++ (key, value) :: after ∧
        ∀ later ∈ after, later.1 ≠ key := by
  have hnone : (empty : Dictionary α).get? key = none := rfl
  rw [ofList, get?_insertAll, hnone, Option.or_none, List.lookup_eq_some_iff]
  constructor
  · rintro ⟨after, before, hreverse, hafter⟩
    refine ⟨before.reverse, after.reverse, ?_, ?_⟩
    · rw [← List.reverse_reverse entries, hreverse]
      simp
    · intro later hlater
      exact Ne.symm (bne_iff_ne.mp (hafter later (List.mem_reverse.mp hlater)))
  · rintro ⟨before, after, rfl, hafter⟩
    refine ⟨after.reverse, before.reverse, by simp, ?_⟩
    intro later hlater
    exact bne_iff_ne.mpr (Ne.symm (hafter later (List.mem_reverse.mp hlater)))

@[simp]
theorem get?_merge (d other : Dictionary α) (key : Text) :
    (d.merge other).get? key = (other.get? key).or (d.get? key) := by
  rw [merge, get?_insertAll, lookup_reverse other.nodup]
  rfl

theorem insert_keys_eq_eraseDups {d : Dictionary α} {codes : List Text}
    (h : d.keys = codes.eraseDups) (code : Text) (value : α) :
    (d.insert code value).keys = (codes ++ [code]).eraseDups := by
  rw [keys_insert, List.eraseDups_append, h]
  by_cases hc : code ∈ codes
  · simp [hc, List.removeAll]
  · simp [hc, List.removeAll, List.eraseDups_cons]

end Dictionary

/-! ## The order of insertions -/

theorem mem_keys_putEntry {α : Type} (key : Text) (value : α) (entries : List (Text × α)) :
    key ∈ (putEntry key value entries).map Prod.fst := by
  rw [keys_putEntry]
  split
  · assumption
  · simp

theorem putEntry_same {α : Type} (key : Text) (value earlier : α) (entries : List (Text × α)) :
    putEntry key value (putEntry key earlier entries) = putEntry key value entries := by
  induction entries with
  | nil => simp [putEntry]
  | cons entry rest ih =>
    obtain ⟨k, v⟩ := entry
    by_cases h : k = key
    · simp [putEntry, h]
    · simp [putEntry, h, ih]

/-- A key that is there keeps its place, so that its value may also be put later. -/
theorem putEntry_comm {α : Type} {key other : Text} {value w : α} {entries : List (Text × α)}
    (hmem : key ∈ entries.map Prod.fst) (hne : other ≠ key) :
    putEntry key value (putEntry other w entries) =
      putEntry other w (putEntry key value entries) := by
  induction entries with
  | nil => cases hmem
  | cons entry rest ih =>
    obtain ⟨k, v⟩ := entry
    by_cases hk : k = key
    · subst hk
      simp [putEntry, Ne.symm hne]
    · have hrest : key ∈ rest.map Prod.fst := by simpa [Ne.symm hk] using hmem
      by_cases ho : k = other
      · subst ho
        simp [putEntry, hk]
      · simp [putEntry, hk, ho, ih hrest]

namespace Dictionary

variable {α : Type}

theorem eq_of_entries {d other : Dictionary α} (h : d.entries = other.entries) : d = other := by
  cases d
  cases other
  cases h
  rfl

@[simp]
theorem insert_insert (d : Dictionary α) (key : Text) (value earlier : α) :
    (d.insert key earlier).insert key value = d.insert key value :=
  eq_of_entries (putEntry_same key value earlier d.entries)

theorem mem_keys_insert (d : Dictionary α) (key query : Text) (value : α) :
    query ∈ (d.insert key value).keys ↔ query = key ∨ query ∈ d.keys := by
  rw [keys_insert]
  split
  · rename_i h
    constructor
    · exact Or.inr
    · rintro (rfl | hq)
      · exact h
      · exact hq
  · rw [List.mem_append, List.mem_singleton, or_comm]

theorem insert_insertAll {d : Dictionary α} {key : Text} {value : α}
    {entries : List (Text × α)} (hmem : key ∈ d.keys) (hnot : key ∉ entries.map Prod.fst) :
    (d.insertAll entries).insert key value = (d.insert key value).insertAll entries := by
  induction entries generalizing d with
  | nil => rfl
  | cons entry rest ih =>
    obtain ⟨k, v⟩ := entry
    rw [List.map_cons, List.mem_cons, not_or] at hnot
    have hcomm : (d.insert k v).insert key value = (d.insert key value).insert k v :=
      eq_of_entries (putEntry_comm hmem (Ne.symm hnot.1))
    have hthere : key ∈ (d.insert k v).keys := (mem_keys_insert d k key v).mpr (Or.inr hmem)
    show ((d.insert k v).insertAll rest).insert key value =
      ((d.insert key value).insert k v).insertAll rest
    rw [ih hthere hnot.2, hcomm]

/-- A value that is put again later is not seen. -/
theorem insert_insertAll_of_mem {d : Dictionary α} {key : Text} {value : α}
    {entries : List (Text × α)} (hmem : key ∈ d.keys) (hagain : key ∈ entries.map Prod.fst) :
    (d.insert key value).insertAll entries = d.insertAll entries := by
  induction entries generalizing d with
  | nil => cases hagain
  | cons entry rest ih =>
    obtain ⟨k, v⟩ := entry
    show ((d.insert key value).insert k v).insertAll rest = (d.insert k v).insertAll rest
    by_cases hk : k = key
    · subst hk
      rw [insert_insert]
    · have hrest : key ∈ rest.map Prod.fst := by simpa [Ne.symm hk] using hagain
      have hthere : key ∈ (d.insert k v).keys := (mem_keys_insert d k key v).mpr (Or.inr hmem)
      have hcomm : (d.insert key value).insert k v = (d.insert k v).insert key value :=
        eq_of_entries (putEntry_comm hmem hk).symm
      rw [hcomm, ih hthere hrest]

theorem insertAll_putEntry {entries : List (Text × α)} (h : (entries.map Prod.fst).Nodup)
    (d : Dictionary α) (key : Text) (value : α) :
    d.insertAll (putEntry key value entries) = (d.insertAll entries).insert key value := by
  induction entries generalizing d with
  | nil => rfl
  | cons entry rest ih =>
    obtain ⟨k, v⟩ := entry
    rw [List.map_cons, List.nodup_cons] at h
    by_cases hk : k = key
    · subst hk
      have hthere : k ∈ (d.insert k v).keys := mem_keys_putEntry k v d.entries
      show d.insertAll (putEntry k value ((k, v) :: rest)) =
        ((d.insert k v).insertAll rest).insert k value
      rw [insert_insertAll hthere h.1, insert_insert, putEntry, if_pos rfl]
      rfl
    · rw [putEntry, if_neg hk]
      exact ih h.2 (d.insert k v)

theorem merge_insertAll (d other : Dictionary α) (entries : List (Text × α)) :
    d.merge (other.insertAll entries) = (d.merge other).insertAll entries := by
  induction entries generalizing other with
  | nil => rfl
  | cons entry rest ih =>
    obtain ⟨k, v⟩ := entry
    have hstep : d.merge (other.insert k v) = (d.merge other).insert k v :=
      insertAll_putEntry other.nodup d k v
    show d.merge ((other.insert k v).insertAll rest) = ((d.merge other).insert k v).insertAll rest
    rw [ih, hstep]

theorem merge_ofList (d : Dictionary α) (entries : List (Text × α)) :
    d.merge (ofList entries) = d.insertAll entries :=
  merge_insertAll d empty entries

theorem putEntry_of_not_mem {key : Text} {entries : List (Text × α)}
    (h : key ∉ entries.map Prod.fst) (value : α) :
    putEntry key value entries = entries ++ [(key, value)] := by
  induction entries with
  | nil => rfl
  | cons entry rest ih =>
    obtain ⟨k, v⟩ := entry
    rw [List.map_cons, List.mem_cons, not_or] at h
    rw [putEntry, if_neg (Ne.symm h.1), ih h.2]
    rfl

/-- Entries with new keys are added as they are. -/
theorem entries_insertAll {entries : List (Text × α)} (h : (entries.map Prod.fst).Nodup)
    {d : Dictionary α} (hnew : ∀ key ∈ entries.map Prod.fst, key ∉ d.keys) :
    (d.insertAll entries).entries = d.entries ++ entries := by
  induction entries generalizing d with
  | nil => exact (List.append_nil d.entries).symm
  | cons entry rest ih =>
    obtain ⟨k, v⟩ := entry
    rw [List.map_cons, List.nodup_cons] at h
    have hk : k ∉ d.keys := hnew k List.mem_cons_self
    have hstep : (d.insert k v).entries = d.entries ++ [(k, v)] := putEntry_of_not_mem hk v
    have hrest : ∀ key ∈ rest.map Prod.fst, key ∉ (d.insert k v).keys := by
      intro key hkey hthere
      rcases (mem_keys_insert d k key v).mp hthere with rfl | hold
      · exact h.1 hkey
      · exact hnew key (List.mem_cons_of_mem k hkey) hold
    show ((d.insert k v).insertAll rest).entries = d.entries ++ (k, v) :: rest
    rw [ih h.2 hrest, hstep, List.append_assoc]
    rfl

theorem keys_insertAll {entries : List (Text × α)} (h : (entries.map Prod.fst).Nodup)
    (d : Dictionary α) :
    (d.insertAll entries).keys =
      d.keys ++ (entries.map Prod.fst).filter fun key => key ∉ d.keys := by
  induction entries generalizing d with
  | nil => simp [insertAll]
  | cons entry rest ih =>
    obtain ⟨k, v⟩ := entry
    rw [List.map_cons, List.nodup_cons] at h
    obtain ⟨hk, hrest⟩ := h
    have hstep : d.insertAll ((k, v) :: rest) = (d.insert k v).insertAll rest := rfl
    rw [hstep, ih hrest, keys_insert, List.map_cons]
    by_cases hthere : k ∈ d.keys
    · simp [hthere]
    · -- the new key stands behind the old ones now, and is none of the keys that follow
      have hsame : (rest.map Prod.fst).filter (fun key => key ∉ d.keys ++ [k]) =
          (rest.map Prod.fst).filter fun key => key ∉ d.keys := by
        apply List.filter_congr
        intro key hkey
        have hne : key ≠ k := fun e => hk (e ▸ hkey)
        simp [hne]
      rw [if_neg hthere, hsame, List.filter_cons_of_pos (by simpa using hthere)]
      simp

theorem keys_merge (d other : Dictionary α) :
    (d.merge other).keys = d.keys ++ other.keys.filter fun key => key ∉ d.keys :=
  keys_insertAll other.nodup d

/-! ## Sizes -/

theorem size_insert (d : Dictionary α) (key : Text) (value : α) :
    (d.insert key value).size = if key ∈ d.keys then d.size else d.size + 1 := by
  have hlength := congrArg List.length (keys_insert d key value)
  rw [size, size, ← List.length_map (f := Prod.fst), ← List.length_map (f := Prod.fst)]
  show (d.insert key value).keys.length = if key ∈ d.keys then d.keys.length else d.keys.length + 1
  rw [hlength]
  split
  · rfl
  · rw [List.length_append, List.length_singleton]

/-- Every insertion adds an entry just when all the keys are new. -/
theorem size_insertAll (entries : List (Text × α)) (d : Dictionary α) :
    (d.insertAll entries).size ≤ d.size + entries.length ∧
      ((d.insertAll entries).size = d.size + entries.length ↔
        (entries.map Prod.fst).Nodup ∧ ∀ key ∈ entries.map Prod.fst, key ∉ d.keys) := by
  induction entries generalizing d with
  | nil => simp [insertAll]
  | cons entry rest ih =>
    obtain ⟨k, v⟩ := entry
    obtain ⟨hle, hiff⟩ := ih (d.insert k v)
    have hstep : d.insertAll ((k, v) :: rest) = (d.insert k v).insertAll rest := rfl
    rw [hstep, List.length_cons, List.map_cons, List.nodup_cons]
    rw [size_insert] at hle hiff
    by_cases hk : k ∈ d.keys
    · rw [if_pos hk] at hle
      refine ⟨by omega, ?_⟩
      constructor
      · intro h
        omega
      · rintro ⟨_, hnew⟩
        exact absurd hk (hnew k List.mem_cons_self)
    · rw [if_neg hk] at hle hiff
      refine ⟨by omega, ?_⟩
      rw [show d.size + (rest.length + 1) = d.size + 1 + rest.length by omega, hiff]
      constructor
      · rintro ⟨hnodup, hnew⟩
        have hfirst : k ∉ rest.map Prod.fst := by
          intro hmem
          exact hnew k hmem ((mem_keys_insert d k k v).mpr (Or.inl rfl))
        refine ⟨⟨hfirst, hnodup⟩, ?_⟩
        intro key hkey hold
        rcases List.mem_cons.mp hkey with rfl | hkey
        · exact hk hold
        · exact hnew key hkey ((mem_keys_insert d k key v).mpr (Or.inr hold))
      · rintro ⟨⟨hfirst, hnodup⟩, hnew⟩
        refine ⟨hnodup, ?_⟩
        intro key hkey hthere
        rcases (mem_keys_insert d k key v).mp hthere with rfl | hold
        · exact hfirst hkey
        · exact hnew key (List.mem_cons_of_mem k hkey) hold

theorem size_ofList_le (entries : List (Text × α)) : (ofList entries).size ≤ entries.length := by
  have h := (size_insertAll entries empty).1
  rwa [show (empty : Dictionary α).size = 0 from rfl, Nat.zero_add] at h

theorem size_ofList_eq_iff (entries : List (Text × α)) :
    (ofList entries).size = entries.length ↔ (entries.map Prod.fst).Nodup := by
  have h := (size_insertAll entries empty).2
  rw [show (empty : Dictionary α).size = 0 from rfl, Nat.zero_add] at h
  rw [ofList, h]
  constructor
  · exact And.left
  · intro hnodup
    exact ⟨hnodup, fun key _ hkey => by cases hkey⟩

end Dictionary

theorem Catalog.get?_merge (catalog other : Catalog) (key : Text) :
    (catalog.merge other).get? key = (other.get? key).or (catalog.get? key) :=
  Dictionary.get?_merge catalog.messages other.messages key

end Phrasebook
