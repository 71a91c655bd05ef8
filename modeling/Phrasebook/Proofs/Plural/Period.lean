import Phrasebook.Plural.Locales

/-!
# Phrasebook.Proofs.Plural.Period

The plural forms of large counts. From 12 on, a rule looks at no more of a number than its last two
digits (`select_congr`), so every number has a `representative` up to 111 that takes the same form
(`select_representative`).

`position_determined_below` says what this means for the locales.
-/

namespace Phrasebook
namespace Plural

namespace Rule

theorem select_congr (rule : Rule) {m n : Nat} (hm : 12 ≤ m) (hn : 12 ≤ n)
    (h : m % 100 = n % 100) : rule.select m = rule.select n := by
  have hdigit : m % 10 = n % 10 := by omega
  -- no rule tells apart numbers above 11 by themselves
  have hexact : ∀ k, k < 12 → m ≠ k ∧ n ≠ k := by omega
  have hfew : ¬ m ≤ 4 ∧ ¬ n ≤ 4 := by omega
  cases rule <;> simp [select, h, hdigit, hexact, hfew]

/-- The bound is sharp: 11 and 111 take different forms. -/
example : select welsh 11 ≠ select welsh 111 := by decide

/-- The number up to 111 that stands for the given one. -/
def representative (n : Nat) : Nat :=
  if n < 12 then n else 12 + (n - 12) % 100

theorem representative_le (n : Nat) : representative n ≤ 111 := by
  unfold representative
  split <;> omega

theorem select_representative (rule : Rule) (n : Nat) :
    rule.select (representative n) = rule.select n := by
  unfold representative
  split
  · rfl
  · rename_i h
    have hmod : (12 + (n - 12) % 100) % 100 = n % 100 := by omega
    exact select_congr rule (by omega) (by omega) hmod

end Rule

theorem position_representative (count : Int) (locale : Text) :
    position (Rule.representative count.natAbs : Nat) locale = position count locale :=
  Rule.select_representative (ruleOf locale) count.natAbs

/-- **The counts up to 111 determine the rest.** In every locale, counts that are at least 12 without
their signs and agree in their last two digits take the same plural form. For every count there is a
number up to 111 that takes the same form as the count in all locales. -/
theorem position_determined_below :
    (∀ (locale : Text) (a b : Int), 12 ≤ a.natAbs → 12 ≤ b.natAbs →
        a.natAbs % 100 = b.natAbs % 100 → position a locale = position b locale) ∧
      ∀ count : Int, ∃ n : Nat, n ≤ 111 ∧
        ∀ locale, position count locale = position n locale := by
  constructor
  · intro locale a b ha hb h
    exact Rule.select_congr (ruleOf locale) ha hb h
  · intro count
    refine ⟨Rule.representative count.natAbs, Rule.representative_le _, fun locale => ?_⟩
    exact (position_representative count locale).symm

/-- Neither the sign nor the hundreds matter. -/
theorem position_determined_arabic :
    (12 ≤ (-1203 : Int).natAbs ∧ 12 ≤ (103 : Int).natAbs ∧
        (-1203 : Int).natAbs % 100 = (103 : Int).natAbs % 100) ∧
      position (-1203) "ar".toList = position 103 "ar".toList ∧
      position 103 "ar".toList = 3 := by
  refine ⟨by decide, ?_, by decide⟩
  exact position_determined_below.1 "ar".toList (-1203) 103 (by decide) (by decide) (by decide)

end Plural
end Phrasebook
