import Phrasebook.Plural.Locales

/-!
# Phrasebook.Proofs.Plural.Reach

The plural forms that the counts take. `sampleCounts` has a count for every form of a rule, so that
with `Rule.position_lt` the forms of a rule are exactly those that counts take.
-/

namespace Phrasebook
namespace Plural

namespace Rule

/-- For each form of a rule, in their order, the least count that takes it. -/
def sampleCounts : Rule → List Nat
  | single => [0]
  | oneOther => [1, 0]
  | zeroOneOther => [0, 2]
  | eastSlavic => [1, 2, 0]
  | czech => [1, 2, 0]
  | irish => [1, 2, 0]
  | lithuanian => [1, 2, 0]
  | slovenian => [1, 2, 3, 0]
  | macedonian => [1, 0]
  | maltese => [1, 0, 11, 20]
  | latvian => [0, 1, 2]
  | polish => [1, 2, 0]
  | welsh => [1, 2, 8, 0]
  | romanian => [1, 0, 20]
  | arabic => [0, 1, 2, 3, 11, 100]

theorem map_select_sampleCounts (rule : Rule) :
    rule.sampleCounts.map rule.select = List.range rule.forms := by
  cases rule <;> decide

theorem exists_select_eq (rule : Rule) {form : Nat} (h : form < rule.forms) :
    ∃ n, rule.select n = form := by
  have hmem : form ∈ rule.sampleCounts.map rule.select := by
    rw [map_select_sampleCounts]
    exact List.mem_range.mpr h
  obtain ⟨n, _, hn⟩ := List.mem_map.mp hmem
  exact ⟨n, hn⟩

end Rule

/-- **Every plural form of a locale is taken, and nothing else.** The sign of a count does not
matter. -/
theorem position_takes_every_form (locale : Text) :
    (∀ form, (∃ count : Int, position count locale = form) ↔ form < formCount locale) ∧
      ∀ count, position (-count) locale = position count locale := by
  refine ⟨fun form => ⟨?_, ?_⟩, Rule.position_neg (ruleOf locale)⟩
  · rintro ⟨count, rfl⟩
    exact position_lt_formCount count locale
  · intro h
    obtain ⟨n, hn⟩ := Rule.exists_select_eq (ruleOf locale) h
    exact ⟨n, hn⟩

end Plural
end Phrasebook
