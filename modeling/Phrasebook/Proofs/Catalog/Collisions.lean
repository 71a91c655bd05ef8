import Mathlib.Data.List.Nodup
import Phrasebook.Proofs.Catalog.Places
import Phrasebook.Proofs.Merge

/-!
# Phrasebook.Proofs.Catalog.Collisions

When flattening loses messages, for keys without points.

* `nodup_keys_places`: in mappings whose keys differ, no two things have the same keys.
* `pathTo_nil_eq_iff`: two messages get the same path just when their keys differ in empty keys in
  front only.
* `size_flatten_eq_iff`: so messages are lost just where there are two such; there are none below keys
  that have a text.
* `flatten_hides_message`: one message hides another one that stands below an empty key.
-/

namespace Phrasebook
namespace Catalog

mutual

def DistinctIn : Value → Prop
  | .mapping entries => Distinct entries
  | _ => True

/-- In a mapping and in all the mappings inside it, the keys have different texts. -/
def Distinct : List (MapKey × Value) → Prop
  | [] => True
  | (key, value) :: rest =>
    (∀ entry ∈ rest, entry.1.toText ≠ key.toText) ∧ DistinctIn value ∧ Distinct rest

end

theorem map_keys_below (key : Text) (found : List Place) :
    (found.map (Place.below key)).map Place.keys = (found.map Place.keys).map (key :: ·) := by
  rw [List.map_map, List.map_map]
  rfl

mutual

theorem nodup_keys_placesIn {value : Value} (h : DistinctIn value) :
    ((placesIn value).map Place.keys).Nodup := by
  cases value with
  | mapping entries =>
    rw [placesIn]
    exact nodup_keys_places h
  | _ => exact List.nodup_singleton _

theorem nodup_keys_places {entries : List (MapKey × Value)} (h : Distinct entries) :
    ((places entries).map Place.keys).Nodup := by
  match entries with
  | [] => exact List.nodup_nil
  | (key, value) :: rest =>
    obtain ⟨hkey, hvalue, hrest⟩ := h
    rw [places, List.map_append, map_keys_below, List.nodup_append]
    refine ⟨?_, nodup_keys_places hrest, ?_⟩
    · exact (nodup_keys_placesIn hvalue).map (List.cons_injective (a := key.toText))
    · intro keys hinner later hlater
      obtain ⟨inner, _, rfl⟩ := List.mem_map.mp hinner
      obtain ⟨place, hplace, rfl⟩ := List.mem_map.mp hlater
      obtain ⟨entry, hentry, others, hkeys⟩ := exists_entry_of_mem_places hplace
      rw [hkeys]
      intro hsame
      exact hkey entry hentry (List.cons.inj hsame).1.symm

end

/-! ## Equal paths -/

theorem joinWith_eq_nil {first : Text} {rest : List Text}
    (h : Text.joinWith ['.'] (first :: rest) = []) : first = [] := by
  cases rest with
  | nil => exact h
  | cons next rest => simp [Text.joinWith] at h

theorem head_shed_ne_nil {keys rest : List Text} {first : Text} (h : shed keys = first :: rest) :
    first ≠ [] := by
  have hhead := List.head?_dropWhile_not List.isEmpty keys
  rw [show keys.dropWhile List.isEmpty = first :: rest from h] at hhead
  simpa using hhead

theorem point_not_mem_shed {keys : List Text} (h : ∀ key ∈ keys, '.' ∉ key) :
    ∀ key ∈ shed keys, '.' ∉ key :=
  fun key hkey => h key ((List.dropWhile_sublist _).subset hkey)

theorem pathTo_nil_eq_iff {a b : List Text} (ha : ∀ key ∈ a, '.' ∉ key)
    (hb : ∀ key ∈ b, '.' ∉ key) : pathTo [] a = pathTo [] b ↔ shed a = shed b := by
  rw [pathTo_nil, pathTo_nil]
  constructor
  · -- what is joined can be taken apart again, except that no keys and one empty key join to the
    -- same text; but an empty key does not come first among the keys that are left
    intro h
    have hpointsA := point_not_mem_shed ha
    have hpointsB := point_not_mem_shed hb
    cases hsa : shed a with
    | nil =>
      cases hsb : shed b with
      | nil => rfl
      | cons first rest =>
        rw [hsa, hsb] at h
        exact absurd (joinWith_eq_nil h.symm) (head_shed_ne_nil hsb)
    | cons first rest =>
      cases hsb : shed b with
      | nil =>
        rw [hsa, hsb] at h
        exact absurd (joinWith_eq_nil h) (head_shed_ne_nil hsa)
      | cons other others =>
        rw [hsa] at h hpointsA
        rw [hsb] at h hpointsB
        rw [← Text.fields_joinWith hpointsA, h, Text.fields_joinWith hpointsB]
  · exact congrArg (Text.joinWith ['.'])

/-! ## Lost messages -/

theorem size_ofList_places_eq_iff {entries : List (MapKey × Value)} (hdistinct : Distinct entries)
    (hpoints : ∀ place ∈ places entries, ∀ key ∈ place.keys, '.' ∉ key) :
    (Dictionary.ofList ((places entries).map (Place.entry []))).size = (places entries).length ↔
      ∀ a ∈ places entries, ∀ b ∈ places entries, shed a.keys = shed b.keys → a.keys = b.keys := by
  have hpaths : ((places entries).map (Place.entry [])).map Prod.fst =
      ((places entries).map Place.keys).map (pathTo []) := by
    rw [List.map_map, List.map_map]
    rfl
  rw [← List.length_map (f := Place.entry []), Dictionary.size_ofList_eq_iff, hpaths,
    List.nodup_map_iff_inj_on (nodup_keys_places hdistinct)]
  constructor
  · intro h a ha b hb hshed
    apply h _ (List.mem_map_of_mem ha) _ (List.mem_map_of_mem hb)
    exact (pathTo_nil_eq_iff (hpoints a ha) (hpoints b hb)).mpr hshed
  · intro h keys hkeys others hothers hpath
    obtain ⟨a, ha, rfl⟩ := List.mem_map.mp hkeys
    obtain ⟨b, hb, rfl⟩ := List.mem_map.mp hothers
    exact h a ha b hb ((pathTo_nil_eq_iff (hpoints a ha) (hpoints b hb)).mp hpath)

/-- **Messages are lost below empty keys only.** Let the keys of every mapping differ and have no
points, and let there be messages only. Then there are as many flat messages as messages just when no
two messages stand at keys that differ in nothing but empty keys in front. This is so in particular
when the keys at the top have a text, whatever the keys below them. -/
theorem size_flatten_eq_iff {entries : List (MapKey × Value)} (hdistinct : Distinct entries)
    (hmessages : ∀ place ∈ places entries, place.IsMessage)
    (hpoints : ∀ place ∈ places entries, ∀ key ∈ place.keys, '.' ∉ key) :
    ∃ flat, flatten [] entries = .ok flat ∧ flat.size ≤ (places entries).length ∧
      (flat.size = (places entries).length ↔
        ∀ a ∈ places entries, ∀ b ∈ places entries, shed a.keys = shed b.keys → a.keys = b.keys) ∧
      ((∀ entry ∈ entries, entry.1.toText ≠ []) → flat.size = (places entries).length) := by
  have hsize := size_ofList_places_eq_iff hdistinct hpoints
  refine ⟨_, flatten_of_messages hmessages [], ?_, hsize, ?_⟩
  · rw [← List.length_map (f := Place.entry [])]
    exact Dictionary.size_ofList_le _
  · intro htop
    apply hsize.mpr
    intro a ha b hb h
    rwa [shed_keys_of_mem_places htop ha, shed_keys_of_mem_places htop hb] at h

/-- The empty key stands below one that has a text. -/
def nestedEmptyKey : List (MapKey × Value) :=
  [(.text "cart".toList,
    .mapping [(.text [], .mapping [(.text "n".toList, .text "items".toList)]),
      (.text "n".toList, .text "articles".toList)])]

/-- The empty key stands at the top. -/
def topEmptyKey : List (MapKey × Value) :=
  [(.text [], .mapping [(.text "n".toList, .text "items".toList)]),
    (.text "n".toList, .text "articles".toList)]

theorem size_flatten_nestedEmptyKey :
    Distinct nestedEmptyKey ∧ (∀ place ∈ places nestedEmptyKey, place.IsMessage) ∧
      (∀ place ∈ places nestedEmptyKey, ∀ key ∈ place.keys, '.' ∉ key) ∧
      ∃ flat, flatten [] nestedEmptyKey = .ok flat ∧ flat.size = 2 := by
  have hdistinct : Distinct nestedEmptyKey := by
    simp [nestedEmptyKey, Distinct, DistinctIn, MapKey.toText]
  have hmessages : ∀ place ∈ places nestedEmptyKey, place.IsMessage := by decide
  have hpoints : ∀ place ∈ places nestedEmptyKey, ∀ key ∈ place.keys, '.' ∉ key := by decide
  obtain ⟨flat, hflat, _, _, htop⟩ := size_flatten_eq_iff hdistinct hmessages hpoints
  exact ⟨hdistinct, hmessages, hpoints, flat, hflat, htop (by decide)⟩

/-- The message below the empty key is hidden by the other one. -/
theorem flatten_hides_message :
    Distinct topEmptyKey ∧ (∀ place ∈ places topEmptyKey, place.IsMessage) ∧
      (∀ place ∈ places topEmptyKey, ∀ key ∈ place.keys, '.' ∉ key) ∧
      (places topEmptyKey).length = 2 ∧
      ∃ flat, flatten [] topEmptyKey = .ok flat ∧
        flat.entries = [("n".toList, "articles".toList)] := by
  refine ⟨?_, by decide, by decide, rfl, _, rfl, rfl⟩
  simp [topEmptyKey, Distinct, DistinctIn, MapKey.toText]

end Catalog
end Phrasebook
