import Phrasebook.Proofs.Catalog.Places
import Phrasebook.Proofs.Merge

/-!
# Phrasebook.Proofs.Catalog.Messages

What becomes of nested messages.

* `flattenByLevel_eq_flatten`: flattening level by level gives the same dictionary as flattening at
  once, the order of its keys included.
* `flatten_joined`: every message is found at the keys that lead to it, joined by points. Of several
  messages with one path the last one is found, and the first thing that is no message is the fault.
-/

namespace Phrasebook
namespace Catalog

/-! ## Level by level -/

mutual

theorem addValue_eq (path : Text) (flat : Dictionary Text) (value : Value) :
    addValue path flat value = (leavesAt path value).map flat.insertAll := by
  cases value with
  | mapping entries =>
    rw [addValue, leavesAt, addEntries_eq path .empty entries]
    cases leaves path entries with
    | error leaf => rfl
    | ok inner => exact congrArg Except.ok (Dictionary.merge_ofList flat inner)
  | _ => rfl

theorem addEntries_eq (path : Text) (flat : Dictionary Text) (entries : List (MapKey × Value)) :
    addEntries path flat entries = (leaves path entries).map flat.insertAll := by
  match entries with
  | [] => rfl
  | (key, value) :: rest =>
    rw [addEntries, leaves, addValue_eq (childPath path key) flat value]
    cases leavesAt (childPath path key) value with
    | error leaf => rfl
    | ok inner =>
      -- the rest starts from what the value has left, which is why `flat` is not fixed
      show addEntries path (flat.insertAll inner) rest = _
      rw [addEntries_eq path (flat.insertAll inner) rest]
      cases leaves path rest with
      | error leaf => rfl
      | ok later => exact congrArg Except.ok (Dictionary.insertAll_append flat inner later).symm

end

theorem flattenByLevel_eq_flatten (path : Text) (entries : List (MapKey × Value)) :
    flattenByLevel path entries = flatten path entries :=
  addEntries_eq path .empty entries

/-! ## Joined paths -/

/-- The keys of a place, behind the path of the whole if there is one, joined by points. -/
def Place.joined (path : Option Text) (place : Place) : Text :=
  Text.joinWith ['.'] (path.toList ++ place.keys)

theorem pathTo_eq_joined {path : Option Text} (hpath : path ≠ some [])
    {entries : List (MapKey × Value)} (hkeys : ∀ entry ∈ entries, entry.1.toText ≠ [])
    {place : Place} (hplace : place ∈ places entries) :
    pathTo (path.getD []) place.keys = place.joined path := by
  cases path with
  | some path =>
    have hne : path ≠ [] := fun h => hpath (congrArg some h)
    exact pathTo_of_ne_nil hne place.keys
  | none =>
    show pathTo [] place.keys = Text.joinWith ['.'] place.keys
    rw [pathTo_nil, shed_keys_of_mem_places hkeys hplace]

/-- Of several messages with the same joined keys the last one is found. -/
theorem get?_ofList_places_iff {path : Option Text} {found : List Place}
    (hmessages : ∀ place ∈ found, place.IsMessage)
    (hjoined : ∀ place ∈ found, pathTo (path.getD []) place.keys = place.joined path)
    {query message : Text} :
    (Dictionary.ofList (found.map (Place.entry (path.getD [])))).get? query = some message ↔
      ∃ before place after, found = before ++ place :: after ∧
        place.joined path = query ∧ place.value = .text message ∧
        ∀ later ∈ after, later.joined path ≠ query := by
  rw [Dictionary.get?_ofList_eq_some_iff]
  constructor
  · rintro ⟨before, after, hsplit, hafter⟩
    obtain ⟨placesBefore, rest, rfl, rfl, hrest⟩ := List.map_eq_append_iff.mp hsplit
    obtain ⟨place, placesAfter, rfl, hentry, rfl⟩ := List.map_eq_cons_iff.mp hrest
    have hplace : place ∈ placesBefore ++ place :: placesAfter := by simp
    obtain ⟨shown, hvalue⟩ := hmessages place hplace
    rw [Place.entry, Prod.mk.injEq, hjoined place hplace, hvalue] at hentry
    refine ⟨placesBefore, place, placesAfter, rfl, hentry.1, ?_, ?_⟩
    · rw [hvalue]
      exact congrArg Value.text hentry.2
    · intro later hlater
      rw [← hjoined later (by simp [hlater])]
      exact hafter _ (List.mem_map_of_mem hlater)
  · rintro ⟨before, place, after, rfl, hquery, hvalue, hafter⟩
    refine ⟨before.map (Place.entry (path.getD [])), after.map (Place.entry (path.getD [])), ?_, ?_⟩
    · have hentry : place.entry (path.getD []) = (query, message) := by
        rw [Place.entry, hjoined place (by simp), hquery, hvalue]
        rfl
      rw [List.map_append, List.map_cons, hentry]
    · intro entry hentry
      obtain ⟨later, hlater, rfl⟩ := List.mem_map.mp hentry
      show pathTo (path.getD []) later.keys ≠ query
      rw [hjoined later (by simp [hlater])]
      exact hafter later hlater

theorem exists_first_bad {found : List Place} (h : ∃ place ∈ found, ¬ place.IsMessage) :
    ∃ before bad after, found = before ++ bad :: after ∧
      (∀ place ∈ before, place.IsMessage) ∧ ¬ bad.IsMessage := by
  cases hfind : found.find? (fun place => ¬ place.IsMessage) with
  | none =>
    obtain ⟨place, hplace, hbad⟩ := h
    have hmessage := List.find?_eq_none.mp hfind place hplace
    exact absurd (decide_eq_true hbad) hmessage
  | some bad =>
    obtain ⟨hbad, before, after, hsplit, hbefore⟩ := List.find?_eq_some_iff_append.mp hfind
    refine ⟨before, bad, after, hsplit, ?_, of_decide_eq_true hbad⟩
    intro place hplace
    simpa using hbefore place hplace

/-- **Messages are found at their joined keys.** Let the keys at the top of nested messages have a
text, and also the path of the whole, if there is one. If there are only messages, then each of them is
found at its keys joined by points, unless a later one has the same joined keys, and nothing else is
found. Otherwise the fault is the first thing that is no message, at its joined keys. It makes no
difference whether the mappings inside are flattened by themselves and then merged. -/
theorem flatten_joined {path : Option Text} (hpath : path ≠ some [])
    {entries : List (MapKey × Value)} (hkeys : ∀ entry ∈ entries, entry.1.toText ≠ []) :
    flattenByLevel (path.getD []) entries = flatten (path.getD []) entries ∧
    ((∀ place ∈ places entries, place.IsMessage) →
      ∃ flat, flatten (path.getD []) entries = .ok flat ∧
        ∀ query message, flat.get? query = some message ↔
          ∃ before place after, places entries = before ++ place :: after ∧
            place.joined path = query ∧ place.value = .text message ∧
            ∀ later ∈ after, later.joined path ≠ query) ∧
    ((∃ place ∈ places entries, ¬ place.IsMessage) →
      ∃ before bad after, places entries = before ++ bad :: after ∧
        (∀ place ∈ before, place.IsMessage) ∧ ¬ bad.IsMessage ∧
        flatten (path.getD []) entries = .error ⟨bad.joined path, bad.value.kindWord⟩) := by
  have hjoined : ∀ place ∈ places entries,
      pathTo (path.getD []) place.keys = place.joined path :=
    fun place hplace => pathTo_eq_joined hpath hkeys hplace
  refine ⟨flattenByLevel_eq_flatten _ _, ?_, ?_⟩
  · intro hmessages
    refine ⟨_, flatten_of_messages hmessages _, ?_⟩
    intro query message
    exact get?_ofList_places_iff hmessages hjoined
  · intro hfault
    obtain ⟨before, bad, after, hplaces, hbefore, hbad⟩ := exists_first_bad hfault
    refine ⟨before, bad, after, hplaces, hbefore, hbad, ?_⟩
    have hmem : bad ∈ places entries := by simp [hplaces]
    rw [flatten_of_bad hplaces hbefore hbad, hjoined bad hmem]

/-- A key with a point in it leads to where a mapping has led before. -/
def shopMessages : List (MapKey × Value) :=
  [(.text "cart".toList,
      .mapping [(.text "n".toList, .text "items".toList),
        (.integer 1 (by decide), .text "one".toList)]),
    (.text "cart.n".toList, .text "articles".toList)]

def faultyMessages : List (MapKey × Value) :=
  [(.text "cart".toList,
      .mapping [(.text "n".toList, .text "items".toList), (.text "count".toList, .integer 3)]),
    (.text "title".toList, .null)]

theorem flatten_joined_shop :
    (∃ flat, flatten "shop".toList shopMessages = .ok flat ∧
        flat.get? "shop.cart.n".toList = some "articles".toList) ∧
      flatten [] faultyMessages = .error ⟨"cart.count".toList, "int".toList⟩ := by
  have hshopPath : some "shop".toList ≠ some [] := by decide
  have hshopKeys : ∀ entry ∈ shopMessages, entry.1.toText ≠ [] := by decide
  have hnoPath : (none : Option Text) ≠ some [] := by decide
  have hfaultyKeys : ∀ entry ∈ faultyMessages, entry.1.toText ≠ [] := by decide
  have hshop := flatten_joined hshopPath hshopKeys
  have hfaulty := flatten_joined hnoPath hfaultyKeys
  constructor
  · obtain ⟨flat, hflat, hget⟩ := hshop.2.1 (by decide)
    exact ⟨flat, hflat, (hget _ _).mpr ⟨_, _, [], rfl, by decide, rfl, by simp⟩⟩
  · obtain ⟨before, bad, after, hplaces, hbefore, hbad, hfault⟩ := hfaulty.2.2 (by decide)
    match before, hplaces, hbefore with
    | [], hplaces, _ =>
      cases hplaces
      exact absurd (by decide) hbad
    | [_], hplaces, _ =>
      cases hplaces
      exact hfault
    | _ :: second :: _, hplaces, hbefore =>
      have hsecond := (List.cons.inj (List.cons.inj hplaces).2).1
      have hmessage := hbefore second (by simp)
      rw [← hsecond] at hmessage
      exact absurd hmessage (by decide)

end Catalog
end Phrasebook
