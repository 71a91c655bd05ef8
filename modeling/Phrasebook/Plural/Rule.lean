/-!
# Phrasebook.Plural.Rule

Plural rules. A rule belongs to a family of languages and picks one of the family's plural forms for
a count; the forms are numbered in the order in which a message lists them. Counts are taken by
their absolute value, so `-1` is a singular where `1` is.

`position_lt` says that the form a rule picks is one of its forms, `position_neg` that the sign of a
count does not matter.
-/

namespace Phrasebook
namespace Plural

inductive Rule where
  | single
  | oneOther
  | zeroOneOther
  | eastSlavic
  | czech
  | irish
  | lithuanian
  | slovenian
  | macedonian
  | maltese
  | latvian
  | polish
  | welsh
  | romanian
  | arabic
deriving DecidableEq, Repr

namespace Rule

def name : Rule → String
  | single => "single"
  | oneOther => "one_other"
  | zeroOneOther => "zero_one_other"
  | eastSlavic => "east_slavic"
  | czech => "czech"
  | irish => "irish"
  | lithuanian => "lithuanian"
  | slovenian => "slovenian"
  | macedonian => "macedonian"
  | maltese => "maltese"
  | latvian => "latvian"
  | polish => "polish"
  | welsh => "welsh"
  | romanian => "romanian"
  | arabic => "arabic"

/-- The number of plural forms that a rule distinguishes. -/
def forms : Rule → Nat
  | single => 1
  | oneOther => 2
  | zeroOneOther => 2
  | eastSlavic => 3
  | czech => 3
  | irish => 3
  | lithuanian => 3
  | slovenian => 4
  | macedonian => 2
  | maltese => 4
  | latvian => 3
  | polish => 3
  | welsh => 4
  | romanian => 3
  | arabic => 6

/-- The plural form for a count without sign. -/
def select : Rule → Nat → Nat
  | single, _ => 0
  | oneOther, n => if n = 1 then 0 else 1
  | zeroOneOther, n => if n = 0 ∨ n = 1 then 0 else 1
  | eastSlavic, n =>
    if n % 10 = 1 ∧ n % 100 ≠ 11 then 0
    else if 2 ≤ n % 10 ∧ n % 10 ≤ 4 ∧ (n % 100 < 10 ∨ 20 ≤ n % 100) then 1
    else 2
  | czech, n =>
    if n = 1 then 0
    else if 2 ≤ n ∧ n ≤ 4 then 1
    else 2
  | irish, n =>
    if n = 1 then 0
    else if n = 2 then 1
    else 2
  | lithuanian, n =>
    if n % 10 = 1 ∧ n % 100 ≠ 11 then 0
    else if 2 ≤ n % 10 ∧ (n % 100 < 10 ∨ 20 ≤ n % 100) then 1
    else 2
  | slovenian, n =>
    if n % 100 = 1 then 0
    else if n % 100 = 2 then 1
    else if n % 100 = 3 ∨ n % 100 = 4 then 2
    else 3
  | macedonian, n => if n % 10 = 1 then 0 else 1
  | maltese, n =>
    if n = 1 then 0
    else if n = 0 ∨ (1 < n % 100 ∧ n % 100 < 11) then 1
    else if 10 < n % 100 ∧ n % 100 < 20 then 2
    else 3
  | latvian, n =>
    if n = 0 then 0
    else if n % 10 = 1 ∧ n % 100 ≠ 11 then 1
    else 2
  | polish, n =>
    if n = 1 then 0
    else if 2 ≤ n % 10 ∧ n % 10 ≤ 4 ∧ (n % 100 < 12 ∨ 14 < n % 100) then 1
    else 2
  | welsh, n =>
    if n = 1 then 0
    else if n = 2 then 1
    else if n = 8 ∨ n = 11 then 2
    else 3
  | romanian, n =>
    if n = 1 then 0
    else if n = 0 ∨ (0 < n % 100 ∧ n % 100 < 20) then 1
    else 2
  | arabic, n =>
    if n = 0 then 0
    else if n = 1 then 1
    else if n = 2 then 2
    else if 3 ≤ n % 100 ∧ n % 100 ≤ 10 then 3
    else if 11 ≤ n % 100 ∧ n % 100 ≤ 99 then 4
    else 5

/-- The plural form for a count. -/
def position (rule : Rule) (count : Int) : Nat :=
  rule.select count.natAbs

theorem select_lt (rule : Rule) (n : Nat) : rule.select n < rule.forms := by
  cases rule <;> simp only [select, forms] <;> repeat (first | omega | split)

theorem position_lt (rule : Rule) (count : Int) : rule.position count < rule.forms :=
  select_lt rule count.natAbs

@[simp]
theorem position_neg (rule : Rule) (count : Int) :
    rule.position (-count) = rule.position count := by
  rw [position, position, Int.natAbs_neg]

end Rule
end Plural
end Phrasebook
