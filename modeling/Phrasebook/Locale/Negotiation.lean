import Phrasebook.Locale.Tag

/-!
# Phrasebook.Locale.Negotiation

Which of the available languages suits a client best. The tags asked for are tried one after
another; for each of them an equal tag is better than one of the same language only.
-/

namespace Phrasebook
namespace Locale

/-- The available tag that suits a requested one. -/
def suited? (available : List Text) (requested : Text) : Option Text :=
  (available.find? (sameTag requested)).or (available.find? (sameLanguage requested))

/-- The available tag that suits the first requested one that any suits. -/
def bestMatch? (requested available : List Text) : Option Text :=
  requested.findSome? (suited? available)

/-- The available tag that suits best, or another one if none suits. -/
def bestMatch (requested available : List Text) (default : Option Text) : Option Text :=
  (bestMatch? requested available).or default

theorem mem_of_suited? {available : List Text} {requested tag : Text}
    (h : suited? available requested = some tag) :
    tag ∈ available ∧ sameLanguage requested tag = true := by
  simp only [suited?, Option.or_eq_some_iff] at h
  rcases h with h | ⟨_, h⟩
  · exact ⟨List.mem_of_find?_eq_some h, sameLanguage_of_sameTag (List.find?_some h)⟩
  · exact ⟨List.mem_of_find?_eq_some h, List.find?_some h⟩

theorem suited?_eq_none {available : List Text} {requested : Text} :
    suited? available requested = none ↔ ∀ tag ∈ available, sameLanguage requested tag = false := by
  simp only [suited?, Option.or_eq_none_iff, List.find?_eq_none, Bool.not_eq_true]
  constructor
  · exact And.right
  · intro h
    refine ⟨fun tag htag => ?_, h⟩
    cases hsame : sameTag requested tag with
    | false => rfl
    | true => exact absurd (sameLanguage_of_sameTag hsame) (by simp [h tag htag])

end Locale
end Phrasebook
