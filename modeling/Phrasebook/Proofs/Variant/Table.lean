import Phrasebook.Proofs.Interval.Prefix
import Phrasebook.Proofs.Variant.Writing
import Phrasebook.Variant.Selection

/-!
# Phrasebook.Proofs.Variant.Table

Tables of ranges: messages such as `[*,0[ ice|[0,100[ water|[100,*] steam`, in which each range starts
where the one before it ends.

* `Row`, `Table`: a range with its text, and the rows between rising cuts.
* `parsePrefix?_written`: a row is read as its range and its text.
* `exists_covering`, `pairwise_rowsFrom`: some row covers a count, and no other row does.

`choose_table` says that the variant for a count is the text of this row.
-/

namespace Phrasebook
namespace Variant

open Phrasebook.Interval Text

/-! ## Rows -/

/-- The counts from `low` on and below `high`, with their text. A bound that is left out is
infinite. -/
structure Row where
  low : Option Int
  high : Option Int
  text : Text

namespace Row

def Covers (row : Row) (count : Int) : Prop :=
  (∀ low, row.low = some low → low ≤ count) ∧ ∀ high, row.high = some high → count < high

def boundText : Option Int → Text
  | none => ['*']
  | some n => Numeral.decimal n

/-- A bracket that opens to the right leaves its bound out. -/
def closing (row : Row) : Char :=
  if row.high.isSome then '[' else ']'

/-- The row as a segment: `[low,high[ text`, or `[low,*] text`. -/
def written (row : Row) : Text :=
  '[' :: (boundText row.low ++ ',' :: (boundText row.high ++ row.closing :: ' ' :: row.text))

/-- The bounds of the row have not too many digits. -/
def Short (row : Row) : Prop :=
  ∀ n, row.low = some n ∨ row.high = some n →
    (Nat.toDigits 10 n.natAbs).length ≤ Numeral.digitLimit

def interval (row : Row) : Interval :=
  .range ((row.low.map .int).getD .negInf) ((row.high.map .int).getD .posInf) true row.high.isNone

theorem contains_interval (row : Row) (count : Int) :
    row.interval.contains count = true ↔ row.Covers count := by
  obtain ⟨low, high, text⟩ := row
  cases low <;> cases high <;>
    simp [interval, Covers, Interval.contains, Bound.isBelow, Bound.isAbove]

/-! ### Reading a row -/

def guardWords (row : Row) : List Text :=
  [['['], boundText row.low, [','], boundText row.high, [row.closing]]

theorem written_eq (row : Row) : row.written = row.guardWords.flatten ++ ' ' :: row.text := by
  simp [written, guardWords]

theorem closing_eq (row : Row) : row.closing = '[' ∨ row.closing = ']' := by
  rw [closing]
  split
  · exact .inl rfl
  · exact .inr rfl

theorem words_guardWords (row : Row) : Words row.guardWords row.interval := by
  have hlow : LowBound (boundText row.low) ((row.low.map .int).getD .negInf) := by
    cases row.low with
    | none => exact .infinity .star
    | some n => exact .number (number_decimal n)
  have hhigh : HighBound (boundText row.high) ((row.high.map .int).getD .posInf) := by
    cases row.high with
    | none => exact .posInf .star (by decide)
    | some n => exact .number (number_decimal n)
  have hwords := Words.range (.inl rfl) hlow hhigh row.closing_eq
  have hclosing : (row.closing = ']') = (row.high.isNone = true) := by
    rw [closing]
    cases row.high <;> simp
  simp only [hclosing, decide_true, Bool.decide_eq_true] at hwords
  exact hwords

theorem legible_boundText {bound : Option Int}
    (h : ∀ n, bound = some n → (Nat.toDigits 10 n.natAbs).length ≤ Numeral.digitLimit) :
    Legible (boundText bound) := by
  cases bound with
  | none => exact Lexeme.legible (.symbol rfl) (by decide : TokenKind.star ≠ .number)
  | some n => exact legible_decimal (h n rfl)

theorem parse_guard {row : Row} (h : row.Short) :
    parse row.guardWords.flatten = .ok row.interval := by
  apply parse_of_spells (spells_flatten _) row.words_guardWords
  intro w hw
  simp only [guardWords, List.mem_cons, List.not_mem_nil, or_false] at hw
  rcases hw with rfl | rfl | rfl | rfl | rfl
  · exact legible_symbol rfl
  · exact legible_boundText fun n hn => h n (.inl hn)
  · exact legible_symbol rfl
  · exact legible_boundText fun n hn => h n (.inr hn)
  · exact legible_bracket row.closing_eq

/-- A row is read as its range, with its text behind it. -/
theorem parsePrefix?_written {row : Row} (h : row.Short) :
    parsePrefix? row.written = .ok (some (row.interval, ' ' :: row.text)) := by
  have hsolid : StartsSolid row.written := ⟨'[', _, rfl, by decide⟩
  have hclosed : EndsClosed row.guardWords.flatten := by
    have hguard : row.guardWords.flatten =
        '[' :: (boundText row.low ++ ',' :: boundText row.high) ++ [row.closing] := by
      simp [guardWords]
    refine ⟨row.closing, List.getLast?_eq_some_iff.mpr ⟨_, hguard⟩, ?_⟩
    rcases row.closing_eq with hc | hc <;> rw [hc] <;> rfl
  have hstarts : StartsWith row.written row.guardWords.flatten (' ' :: row.text) row.interval :=
    ⟨by rw [trimLeft_of_startsSolid hsolid, written_eq], hclosed, parse_guard h⟩
  exact hstarts.reads

theorem separator_not_mem_boundText (bound : Option Int) : separator ∉ boundText bound := by
  cases bound with
  | none => decide
  | some n =>
    have hdigits : ∀ k : Nat, separator ∉ Nat.toDigits 10 k := fun k hmem =>
      absurd ((digits_toDigits k).2 _ hmem) (by decide)
    cases n with
    | ofNat k => exact hdigits k
    | negSucc k =>
      intro hmem
      rcases List.mem_cons.mp hmem with hsign | hmem
      · exact absurd hsign (by decide)
      · exact hdigits (k + 1) hmem

theorem separator_not_mem_written {row : Row} (h : separator ∉ row.text) :
    separator ∉ row.written := by
  have hlow := separator_not_mem_boundText row.low
  have hhigh := separator_not_mem_boundText row.high
  have hclosing : separator ≠ row.closing := by
    rcases row.closing_eq with hc | hc <;> rw [hc] <;> decide
  have hbracket : separator ≠ '[' := by decide
  have hcomma : separator ≠ ',' := by decide
  have hspace : separator ≠ ' ' := by decide
  simp [written, h, hlow, hhigh, hclosing, hbracket, hcomma, hspace]

theorem written_ne_nil (row : Row) : row.written ≠ [] := by
  simp [written]

/-- The row ends where the other one starts, or before. -/
def EndsBefore (row other : Row) : Prop :=
  ∃ high low, row.high = some high ∧ other.low = some low ∧ high ≤ low

theorem EndsBefore.not_covers {row other : Row} {count : Int} (h : row.EndsBefore other)
    (hrow : row.Covers count) : ¬ other.Covers count := by
  obtain ⟨high, low, hhigh, hlow, hle⟩ := h
  intro hother
  have habove := hrow.2 high hhigh
  have hbelow := hother.1 low hlow
  omega

end Row

/-! ## Tables -/

/-- The rows from a bound on: `text` up to the first cut, and from each cut on the text that comes
with it. -/
def rowsFrom (low : Option Int) (text : Text) : List (Int × Text) → List Row
  | [] => [⟨low, none, text⟩]
  | (cut, next) :: rest => ⟨low, some cut, text⟩ :: rowsFrom (some cut) next rest

/-- A text for the counts below the first cut, and for each cut the text for the counts from it on,
up to the next one. -/
structure Table where
  first : Text
  later : List (Int × Text)
  rising : later.Pairwise fun entry next => entry.1 < next.1

namespace Table

def rows (table : Table) : List Row :=
  rowsFrom none table.first table.later

/-- The message `[*,c[ first|[c,d[ next|…|[e,*] last`. -/
def message (table : Table) : Text :=
  joinWith [separator] (table.rows.map Row.written)

end Table

theorem exists_covering {low : Option Int} {count : Int} (text : Text) (later : List (Int × Text))
    (hlow : ∀ c, low = some c → c ≤ count) : ∃ row ∈ rowsFrom low text later, row.Covers count := by
  induction later generalizing low text with
  | nil => exact ⟨⟨low, none, text⟩, by simp [rowsFrom], hlow, by simp⟩
  | cons entry rest ih =>
    obtain ⟨cut, next⟩ := entry
    by_cases hcut : count < cut
    · refine ⟨⟨low, some cut, text⟩, by simp [rowsFrom], hlow, ?_⟩
      intro high hhigh
      cases hhigh
      exact hcut
    · have hnext : ∀ c, some cut = some c → c ≤ count := by
        intro c hc
        cases hc
        omega
      obtain ⟨row, hrow, hcovers⟩ := ih next hnext
      exact ⟨row, List.mem_cons_of_mem _ hrow, hcovers⟩

/-- A row starts at the bound in front or at a cut, with the text that goes with it, and ends at a
cut or not at all. -/
theorem mem_rowsFrom {low : Option Int} {text : Text} {later : List (Int × Text)} {row : Row}
    (h : row ∈ rowsFrom low text later) :
    (row.low = low ∧ row.text = text ∨
        ∃ entry ∈ later, row.low = some entry.1 ∧ row.text = entry.2) ∧
      (row.high = none ∨ ∃ entry ∈ later, row.high = some entry.1) := by
  induction later generalizing low text with
  | nil =>
    simp only [rowsFrom, List.mem_singleton] at h
    subst h
    exact ⟨.inl ⟨rfl, rfl⟩, .inl rfl⟩
  | cons entry rest ih =>
    rcases List.mem_cons.mp h with rfl | h
    · exact ⟨.inl ⟨rfl, rfl⟩, .inr ⟨entry, by simp, rfl⟩⟩
    · obtain ⟨hstart, hend⟩ := ih h
      refine ⟨.inr ?_, ?_⟩
      · rcases hstart with hstart | ⟨other, hother, hstart⟩
        · exact ⟨entry, by simp, hstart⟩
        · exact ⟨other, List.mem_cons_of_mem _ hother, hstart⟩
      · rcases hend with hend | ⟨other, hother, hend⟩
        · exact .inl hend
        · exact .inr ⟨other, List.mem_cons_of_mem _ hother, hend⟩

theorem pairwise_rowsFrom {low : Option Int} {text : Text} {later : List (Int × Text)}
    (h : later.Pairwise fun entry next => entry.1 < next.1) :
    (rowsFrom low text later).Pairwise Row.EndsBefore := by
  induction later generalizing low text with
  | nil => simp [rowsFrom]
  | cons entry rest ih =>
    obtain ⟨hcut, hrest⟩ := List.pairwise_cons.mp h
    refine List.pairwise_cons.mpr ⟨?_, ih hrest⟩
    intro row hrow
    rcases (mem_rowsFrom hrow).1 with ⟨hlow, _⟩ | ⟨other, hother, hlow, _⟩
    · exact ⟨entry.1, entry.1, rfl, hlow, Int.le_refl _⟩
    · exact ⟨entry.1, other.1, rfl, hlow, Int.le_of_lt (hcut other hother)⟩

/-- Rows of a table that cover the same count are the same row. -/
theorem Table.eq_of_covers (table : Table) {i j : Nat} {row other : Row} {count : Int}
    (hi : table.rows[i]? = some row) (hj : table.rows[j]? = some other) (hrow : row.Covers count)
    (hother : other.Covers count) : j = i := by
  obtain ⟨hilt, rfl⟩ := List.getElem?_eq_some_iff.mp hi
  obtain ⟨hjlt, rfl⟩ := List.getElem?_eq_some_iff.mp hj
  have hends : table.rows.Pairwise Row.EndsBefore := pairwise_rowsFrom table.rising
  have hpairwise := List.pairwise_iff_getElem.mp hends
  rcases Nat.lt_trichotomy i j with hlt | heq | hgt
  · exact absurd hother ((hpairwise i j hilt hjlt hlt).not_covers hrow)
  · exact heq.symm
  · exact absurd hrow ((hpairwise j i hjlt hilt hgt).not_covers hother)

/-! ## Choosing from a table -/

theorem Table.short_of_mem {table : Table}
    (hshort : ∀ entry ∈ table.later,
      (Nat.toDigits 10 entry.1.natAbs).length ≤ Numeral.digitLimit)
    {row : Row} (hrow : row ∈ table.rows) : row.Short := by
  obtain ⟨hstart, hend⟩ := mem_rowsFrom hrow
  have hcut : ∀ n, row.low = some n ∨ row.high = some n → ∃ entry ∈ table.later, entry.1 = n := by
    rintro n (hn | hn)
    · rcases hstart with ⟨hlow, _⟩ | ⟨entry, hentry, hlow, _⟩
      · rw [hlow] at hn; cases hn
      · exact ⟨entry, hentry, Option.some.inj (hlow.symm.trans hn)⟩
    · rcases hend with hhigh | ⟨entry, hentry, hhigh⟩
      · rw [hhigh] at hn; cases hn
      · exact ⟨entry, hentry, Option.some.inj (hhigh.symm.trans hn)⟩
  intro n hn
  obtain ⟨entry, hentry, rfl⟩ := hcut n hn
  exact hshort entry hentry

/-- The message of a table is cut into its rows again. -/
theorem Table.segments_message {table : Table}
    (hplain : separator ∉ table.first ∧ ∀ entry ∈ table.later, separator ∉ entry.2) :
    segments table.message = table.rows.map Row.written := by
  have hwritten : ∀ t ∈ table.rows.map Row.written, t ≠ [] ∧ separator ∉ t := by
    intro t ht
    obtain ⟨row, hrow, rfl⟩ := List.mem_map.mp ht
    refine ⟨row.written_ne_nil, Row.separator_not_mem_written ?_⟩
    rcases (mem_rowsFrom hrow).1 with ⟨_, htext⟩ | ⟨entry, hentry, _, htext⟩
    · rw [htext]
      exact hplain.1
    · rw [htext]
      exact hplain.2 entry hentry
  obtain ⟨first, rest, hrows⟩ : ∃ first rest, table.rows.map Row.written = first :: rest := by
    rw [Table.rows]
    cases table.later <;> exact ⟨_, _, rfl⟩
  rw [hrows] at hwritten
  rw [Table.message, hrows]
  exact segments_joinWith (fun t ht => (hwritten t ht).1) fun t ht => (hwritten t ht).2

theorem trim_cons_blank {c : Char} (hc : Unicode.isBlank c = true) (t : Text) :
    trim (c :: t) = trim t := by
  simp [trim, trimLeft, hc]

/-- The decision on rows, by induction on them: the first row that contains the count holds. -/
theorem guarding_rows (count : Int) {rows : List Row} (h : ∀ row ∈ rows, row.Short) :
    guarding count (rows.map Row.written) =
      .ok (match rows.find? (·.interval.contains count) with
        | some row => .held (trim row.text)
        | none => .standard []) := by
  induction rows with
  | nil => rfl
  | cons row rest ih =>
    have hspace : Unicode.isBlank ' ' = true := by decide
    have hrest := ih fun other hother => h other (List.mem_cons_of_mem _ hother)
    have hread := Row.parsePrefix?_written (h row (by simp))
    simp only [List.map_cons, guarding, ofSegment, hread, List.find?_cons]
    by_cases hcount : row.interval.contains count = true
    · simp [hcount, trim_cons_blank hspace]
    · simp [hcount, hrest]

/-- **A table is a case split on the count.** Exactly one row of a table covers the count, and the
variant that the table's message shows is the text of this row, whatever the locale and whatever the
texts of the rows look like. -/
theorem choose_table (table : Table)
    (hplain : separator ∉ table.first ∧ ∀ entry ∈ table.later, separator ∉ entry.2)
    (hshort : ∀ entry ∈ table.later,
      (Nat.toDigits 10 entry.1.natAbs).length ≤ Numeral.digitLimit)
    (count : Int) (locale : Text) :
    ∃ (i : Nat) (row : Row), table.rows[i]? = some row ∧ row.Covers count ∧
      (∀ (j : Nat) (other : Row), table.rows[j]? = some other → other.Covers count → j = i) ∧
      choose table.message count locale = .ok (.guarded (trim row.text)) := by
  have hcover : ∃ row ∈ table.rows, row.Covers count :=
    exists_covering table.first table.later (by simp)
  have hdecision := guarding_rows count fun row hrow => Table.short_of_mem hshort hrow
  cases hfound : table.rows.find? (·.interval.contains count) with
  | none =>
    obtain ⟨row, hrow, hcovers⟩ := hcover
    exact absurd (row.contains_interval count |>.mpr hcovers)
      (by simpa using List.find?_eq_none.mp hfound row hrow)
  | some row =>
    obtain ⟨i, hi⟩ := List.getElem?_of_mem (List.mem_of_find?_eq_some hfound)
    have hcontains : row.interval.contains count = true := by simpa using List.find?_some hfound
    have hcovers := (row.contains_interval count).mp hcontains
    refine ⟨i, row, hi, hcovers, ?_, ?_⟩
    · intro j other hj hother
      exact table.eq_of_covers hi hj hcovers hother
    · rw [choose, Table.segments_message hplain, hdecision, hfound]

/-- The text of the first row looks like an interval and that of the second has a label. -/
def waterTable : Table where
  first := "[5] ice".toList
  later := [(0, "one: water".toList), (100, " steam ".toList)]
  rising := by decide

example : waterTable.message = "[*,0[ [5] ice|[0,100[ one: water|[100,*]  steam ".toList := by decide

theorem choose_waterTable :
    (separator ∉ waterTable.first ∧ ∀ entry ∈ waterTable.later, separator ∉ entry.2) ∧
      (∀ entry ∈ waterTable.later,
        (Nat.toDigits 10 entry.1.natAbs).length ≤ Numeral.digitLimit) ∧
      choose waterTable.message 99 "pl".toList = .ok (.guarded "one: water".toList) := by
  have hplain : separator ∉ waterTable.first ∧ ∀ entry ∈ waterTable.later, separator ∉ entry.2 := by
    decide
  have hshort : ∀ entry ∈ waterTable.later,
      (Nat.toDigits 10 entry.1.natAbs).length ≤ Numeral.digitLimit := by
    decide
  obtain ⟨i, row, hi, _, honly, hchoose⟩ := choose_table waterTable hplain hshort 99 "pl".toList
  have hcovers : Row.Covers ⟨some 0, some 100, "one: water".toList⟩ 99 := by
    simp [Row.Covers]
  obtain rfl := honly 1 _ rfl hcovers
  cases hi
  exact ⟨hplain, hshort, hchoose⟩

end Variant
end Phrasebook
