import Phrasebook.Catalog.Flatten
import Phrasebook.Proofs.Text.Fields
import Phrasebook.Proofs.Value

/-!
# Phrasebook.Proofs.Catalog.Places

Where things stand in nested messages: the keys that lead to them from the top.

* `places`: everything that is no mapping, from front to back.
* `pathTo`: the path that keys give, one after another.
* `leaves_eq_mapM`: the messages of a mapping are read off its places, up to the first one at which
  no message stands.
* `pathTo_of_ne_nil`, `pathTo_nil`: below a path with a text, keys are joined by points. At the top,
  the empty keys in front leave no trace.
-/

namespace Phrasebook
namespace Catalog

/-- What the keys from the top lead to. -/
structure Place where
  keys : List Text
  value : Value

namespace Place

def below (key : Text) (place : Place) : Place :=
  ⟨key :: place.keys, place.value⟩

def IsMessage (place : Place) : Prop :=
  ∃ message, place.value = .text message

instance (place : Place) : Decidable place.IsMessage :=
  match place with
  | ⟨_, .text message⟩ => isTrue ⟨message, rfl⟩
  | ⟨_, .integer _⟩ | ⟨_, .boolean _⟩ | ⟨_, .null⟩ | ⟨_, .real _⟩ | ⟨_, .list _⟩
  | ⟨_, .mapping _⟩ => isFalse nofun

end Place

mutual

def placesIn : Value → List Place
  | .mapping entries => places entries
  | value => [⟨[], value⟩]

/-- Everything in a mapping that is no mapping itself, in the order in which it stands. -/
def places : List (MapKey × Value) → List Place
  | [] => []
  | (key, value) :: rest => (placesIn value).map (Place.below key.toText) ++ places rest

end

/-! ## Paths -/

def extend (path key : Text) : Text :=
  if path = [] then key else path ++ '.' :: key

def pathTo (path : Text) (keys : List Text) : Text :=
  keys.foldl extend path

theorem joinWith_extend {path : Text} (hpath : path ≠ []) (key : Text) (rest : List Text) :
    Text.joinWith ['.'] (extend path key :: rest) = Text.joinWith ['.'] (path :: key :: rest) := by
  rw [extend, if_neg hpath]
  cases rest with
  | nil => simp [Text.joinWith]
  | cons next rest => simp [Text.joinWith]

theorem pathTo_of_ne_nil {path : Text} (hpath : path ≠ []) (keys : List Text) :
    pathTo path keys = Text.joinWith ['.'] (path :: keys) := by
  induction keys generalizing path with
  | nil => rfl
  | cons key rest ih =>
    have hnext : extend path key ≠ [] := by simp [extend, hpath]
    rw [← joinWith_extend hpath]
    exact ih hnext

/-- The keys without the empty ones in front. -/
def shed (keys : List Text) : List Text :=
  keys.dropWhile List.isEmpty

theorem shed_of_ne_nil {key : Text} (hkey : key ≠ []) (rest : List Text) :
    shed (key :: rest) = key :: rest := by
  have hsolid : ¬ key.isEmpty = true := by rwa [List.isEmpty_iff]
  exact List.dropWhile_cons_of_neg hsolid

theorem pathTo_nil (keys : List Text) :
    pathTo [] keys = Text.joinWith ['.'] (shed keys) := by
  induction keys with
  | nil => rfl
  | cons key rest ih =>
    show pathTo key rest = _
    cases key with
    | nil => exact ih
    | cons c key => exact pathTo_of_ne_nil (by simp) rest

/-! ## Reading places -/

/-- The message at a place, with its path. -/
def Place.entry (path : Text) (place : Place) : Text × Text :=
  (pathTo path place.keys, place.value.shown)

/-- What reading a place below a path gives. -/
def Place.read (path : Text) (place : Place) : Except BadLeaf (Text × Text) :=
  match place.value with
  | .text message => .ok (pathTo path place.keys, message)
  | value => .error ⟨pathTo path place.keys, value.kindWord⟩

theorem Place.read_of_isMessage {place : Place} (h : place.IsMessage) (path : Text) :
    place.read path = .ok (place.entry path) := by
  obtain ⟨message, hvalue⟩ := h
  rw [read, entry, hvalue]
  rfl

theorem Place.read_of_not_isMessage {place : Place} (h : ¬ place.IsMessage) (path : Text) :
    place.read path = .error ⟨pathTo path place.keys, place.value.kindWord⟩ := by
  rw [read]
  split
  · rename_i message hvalue
    exact absurd ⟨message, hvalue⟩ h
  · rfl

theorem read_below (path : Text) (key : MapKey) :
    Place.read path ∘ Place.below key.toText = Place.read (childPath path key) :=
  rfl

mutual

theorem leavesAt_eq_mapM (path : Text) (value : Value) :
    leavesAt path value = (placesIn value).mapM (Place.read path) := by
  cases value with
  | mapping entries =>
    rw [leavesAt, placesIn]
    exact leaves_eq_mapM path entries
  | _ => rfl

theorem leaves_eq_mapM (path : Text) (entries : List (MapKey × Value)) :
    leaves path entries = (places entries).mapM (Place.read path) := by
  match entries with
  | [] => rfl
  | (key, value) :: rest =>
    rw [leaves, places, List.mapM_append, List.mapM_map, read_below,
      leavesAt_eq_mapM (childPath path key) value, leaves_eq_mapM path rest]
    cases (placesIn value).mapM (Place.read (childPath path key)) with
    | error leaf => rfl
    | ok inner =>
      cases (places rest).mapM (Place.read path) with
      | error leaf => rfl
      | ok later => rfl

end

theorem mapM_read {found : List Place} (h : ∀ place ∈ found, place.IsMessage) (path : Text) :
    found.mapM (Place.read path) = .ok (found.map (Place.entry path)) := by
  induction found with
  | nil => rfl
  | cons place rest ih =>
    have hplace := Place.read_of_isMessage (h place List.mem_cons_self) path
    have hrest := ih fun later hlater => h later (List.mem_cons_of_mem place hlater)
    rw [List.mapM_cons, hplace, hrest]
    rfl

theorem flatten_of_messages {entries : List (MapKey × Value)}
    (h : ∀ place ∈ places entries, place.IsMessage) (path : Text) :
    flatten path entries = .ok (.ofList ((places entries).map (Place.entry path))) := by
  rw [flatten, leaves_eq_mapM, mapM_read h]
  rfl

theorem flatten_of_bad {entries : List (MapKey × Value)} {before after : List Place} {bad : Place}
    (hplaces : places entries = before ++ bad :: after)
    (hbefore : ∀ place ∈ before, place.IsMessage) (hbad : ¬ bad.IsMessage) (path : Text) :
    flatten path entries = .error ⟨pathTo path bad.keys, bad.value.kindWord⟩ := by
  rw [flatten, leaves_eq_mapM, hplaces, List.mapM_append, mapM_read hbefore, List.mapM_cons,
    Place.read_of_not_isMessage hbad]
  rfl

/-! ## The first key -/

theorem exists_entry_of_mem_places {entries : List (MapKey × Value)} {place : Place}
    (h : place ∈ places entries) :
    ∃ entry ∈ entries, ∃ keys, place.keys = entry.1.toText :: keys := by
  induction entries with
  | nil =>
    rw [places] at h
    cases h
  | cons entry rest ih =>
    obtain ⟨key, value⟩ := entry
    rw [places] at h
    rcases List.mem_append.mp h with hinner | hrest
    · obtain ⟨inner, _, rfl⟩ := List.mem_map.mp hinner
      exact ⟨(key, value), List.mem_cons_self, inner.keys, rfl⟩
    · obtain ⟨entry, hentry, hkeys⟩ := ih hrest
      exact ⟨entry, List.mem_cons_of_mem _ hentry, hkeys⟩

theorem shed_keys_of_mem_places {entries : List (MapKey × Value)}
    (hkeys : ∀ entry ∈ entries, entry.1.toText ≠ []) {place : Place}
    (hplace : place ∈ places entries) : shed place.keys = place.keys := by
  obtain ⟨entry, hentry, rest, hplaceKeys⟩ := exists_entry_of_mem_places hplace
  rw [hplaceKeys]
  exact shed_of_ne_nil (hkeys entry hentry) rest

end Catalog
end Phrasebook
