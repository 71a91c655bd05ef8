import Phrasebook.Proofs.Text.Fields
import Phrasebook.Variant.Segment

/-!
# Phrasebook.Proofs.Variant.Writing

Writing texts as the segments of a message: the separators inside a text are doubled, and a single
one stands between neighbours.

* `separable_segments`: no segment of a message, however it is written, brings a separator next to
  the one that cuts it off.
* `segments_written`: texts of this kind are read back as they were.
* `isInfix_of_mem_segments`: whatever the message, a run of other characters in a segment stands in
  the message.

`segments_written_iff` puts both together.
-/

namespace Phrasebook
namespace Variant

/-- The text with every separator doubled. -/
def double (t : Text) : Text :=
  t.flatMap fun c => if c = separator then [separator, separator] else [c]

/-- The message that has the texts for its segments. -/
def written (texts : List Text) : Text :=
  Text.joinWith [separator] (texts.map double)

/-- A separator between two of the texts has no other separator beside it: no text but the first
starts with one, no text but the last ends with one, and the texts in between are not empty. -/
structure Separable (texts : List Text) : Prop where
  head?_ne : ∀ t ∈ texts.tail, t.head? ≠ some separator
  getLast?_ne : ∀ t ∈ texts.dropLast, t.getLast? ≠ some separator
  inner_ne_nil : ∀ t ∈ texts.tail.dropLast, t ≠ []

/-! ## Doubled separators -/

@[simp]
theorem double_cons_separator (t : Text) :
    double (separator :: t) = separator :: separator :: double t := by
  simp [double]

@[simp]
theorem double_cons_of_ne {c : Char} (h : c ≠ separator) (t : Text) :
    double (c :: t) = c :: double t := by
  simp [double, h]

@[simp]
theorem undouble_cons_of_ne {c : Char} (h : c ≠ separator) (t : Text) :
    undouble (c :: t) = c :: undouble t := by
  cases t with
  | nil => rfl
  | cons d t => simp [undouble, h]

@[simp]
theorem undouble_double (t : Text) : undouble (double t) = t := by
  induction t with
  | nil => rfl
  | cons c t ih =>
    by_cases hc : c = separator
    · subst hc
      simp [ih]
    · rw [double_cons_of_ne hc, undouble_cons_of_ne hc, ih]

@[simp]
theorem head?_double (t : Text) : (double t).head? = t.head? := by
  cases t with
  | nil => rfl
  | cons c t =>
    by_cases hc : c = separator
    · simp [hc]
    · simp [hc]

@[simp]
theorem getLast?_double (t : Text) : (double t).getLast? = t.getLast? := by
  induction t with
  | nil => rfl
  | cons c t ih =>
    by_cases hc : c = separator
    · simp [hc, List.getLast?_cons, ih]
    · simp [hc, List.getLast?_cons, ih]

@[simp]
theorem double_eq_nil_iff (t : Text) : double t = [] ↔ t = [] := by
  rw [← List.head?_eq_none_iff, head?_double, List.head?_eq_none_iff]

theorem head?_undouble (t : Text) : (undouble t).head? = t.head? := by
  fun_cases undouble t with
  | case1 => rfl
  | case2 => rfl
  | case3 c d rest h => simp [h.1]
  | case4 => rfl

theorem undouble_eq_nil_iff (t : Text) : undouble t = [] ↔ t = [] := by
  rw [← List.head?_eq_none_iff, head?_undouble, List.head?_eq_none_iff]

theorem getLast?_undouble (t : Text) : (undouble t).getLast? = t.getLast? := by
  fun_induction undouble t with
  | case1 => rfl
  | case2 => rfl
  | case3 c d rest h ih => simp [List.getLast?_cons, ih, h.2]
  | case4 c d rest h ih => simp [List.getLast?_cons, ih]

/-! ### Runs of other characters -/

theorem isPrefix_of_undouble {run t : Text} (hrun : separator ∉ run) (h : run <+: undouble t) :
    run <+: t := by
  fun_induction undouble t generalizing run with
  | case1 => exact h
  | case2 => exact h
  | case3 c d rest hsep ih =>
    cases run with
    | nil => exact List.nil_prefix
    | cons e run =>
      rw [(List.cons_prefix_cons.mp h).1] at hrun
      simp at hrun
  | case4 c d rest hsep ih =>
    cases run with
    | nil => exact List.nil_prefix
    | cons e run =>
      obtain ⟨he, hprefix⟩ := List.cons_prefix_cons.mp h
      simp only [List.mem_cons, not_or] at hrun
      exact List.cons_prefix_cons.mpr ⟨he, ih hrun.2 hprefix⟩

/-- A run without separators does not come about by replacing doubled ones. -/
theorem isInfix_of_undouble {run t : Text} (hrun : separator ∉ run) (h : run <:+: undouble t) :
    run <:+: t := by
  fun_induction undouble t with
  | case1 => exact h
  | case2 => exact h
  | case3 c d rest hsep ih =>
    rcases List.infix_cons_iff.mp h with hprefix | hinfix
    · have hwhole : run <+: undouble (c :: d :: rest) := by simpa [undouble, hsep] using hprefix
      exact (isPrefix_of_undouble hrun hwhole).isInfix
    · exact (ih hinfix).trans (List.suffix_append [c, d] rest).isInfix
  | case4 c d rest hsep ih =>
    rcases List.infix_cons_iff.mp h with hprefix | hinfix
    · have hwhole : run <+: undouble (c :: d :: rest) := by simpa [undouble, hsep] using hprefix
      exact (isPrefix_of_undouble hrun hwhole).isInfix
    · exact (ih hinfix).trans (List.suffix_cons c _).isInfix

/-! ## Cutting at a separator -/

theorem joinWith_consFirst (c : Char) {parts : List Text} (h : parts ≠ []) :
    Text.joinWith [separator] (consFirst c parts) = c :: Text.joinWith [separator] parts := by
  cases parts with
  | nil => exact absurd rfl h
  | cons part rest => cases rest <;> rfl

/-- Cutting loses nothing but the separators that are cut at. -/
theorem joinWith_cutAtLone (afterSeparator : Bool) (t : Text) :
    Text.joinWith [separator] (cutAtLone afterSeparator t) = t := by
  induction t generalizing afterSeparator with
  | nil => rfl
  | cons c t ih =>
    have hne := fun after => cutAtLone_ne_nil after t
    simp only [cutAtLone]
    split
    · rename_i hc
      split
      · obtain ⟨first, rest, hcut⟩ := List.exists_cons_of_ne_nil (hne true)
        rw [hcut, Text.joinWith, ← hcut, ih, hc]
        rfl
      · rw [joinWith_consFirst c (hne true), ih]
    · rw [joinWith_consFirst c (hne false), ih]

/-- A run without separators in a segment is one in the message. -/
theorem isInfix_of_mem_segments {run segment message : Text} (hrun : separator ∉ run)
    (hsegment : segment ∈ segments message) (h : run <:+: segment) : run <:+: message := by
  obtain ⟨part, hpart, rfl⟩ := List.mem_map.mp hsegment
  have hjoined : part <:+: Text.joinWith [separator] (cutAtLone false message) :=
    Text.isInfix_joinWith hpart
  rw [joinWith_cutAtLone] at hjoined
  exact (isInfix_of_undouble hrun h).trans hjoined

theorem consFirst_append {c : Char} {parts : List Text} (h : parts ≠ []) (more : List Text) :
    consFirst c (parts ++ more) = consFirst c parts ++ more := by
  cases parts with
  | nil => exact absurd rfl h
  | cons part parts => rfl

/-- A separator that stands alone divides a text. -/
theorem cutAtLone_append {afterSeparator : Bool} {t rest : Text}
    (ht : t.getLast? ≠ some separator) (hafter : t = [] → afterSeparator = false)
    (hrest : rest.head? ≠ some separator) :
    cutAtLone afterSeparator (t ++ separator :: rest) =
      cutAtLone afterSeparator t ++ cutAtLone true rest := by
  induction t generalizing afterSeparator with
  | nil => simp [cutAtLone, hafter rfl, hrest]
  | cons c t ih =>
    have hlast : t.getLast? ≠ some separator := by
      intro h
      simp [List.getLast?_cons, h] at ht
    by_cases hc : c = separator
    · have hne : t ≠ [] := by
        rintro rfl
        simp [hc] at ht
      have hhead : (t ++ separator :: rest).head? = t.head? := by
        simp [List.head?_append, List.head?_eq_some_head hne]
      have ih := @ih true hlast fun h => absurd h hne
      simp only [List.cons_append, cutAtLone, hc, if_true, hhead, ih]
      split
      · rfl
      · exact consFirst_append (cutAtLone_ne_nil true t) _
    · have ih := @ih false hlast fun _ => rfl
      simp only [List.cons_append, cutAtLone, hc, if_false, ih]
      exact consFirst_append (cutAtLone_ne_nil false t) _

theorem cutAtLone_double (afterSeparator : Bool) (t : Text) :
    cutAtLone afterSeparator (double t) = [double t] := by
  induction t generalizing afterSeparator with
  | nil => rfl
  | cons c t ih =>
    by_cases hc : c = separator
    · subst hc
      simp [cutAtLone, ih, consFirst]
    · simp [cutAtLone, hc, ih, consFirst]

/-! ## Texts that keep separators apart -/

theorem separable_singleton (t : Text) : Separable [t] :=
  ⟨by simp, by simp, by simp⟩

theorem separable_cons_cons {first next : Text} {rest : List Text} :
    Separable (first :: next :: rest) ↔
      first.getLast? ≠ some separator ∧ next.head? ≠ some separator ∧ (rest ≠ [] → next ≠ []) ∧
        Separable (next :: rest) := by
  constructor
  · rintro ⟨hhead, hlast, hinner⟩
    refine ⟨hlast first (by simp), hhead next (by simp), fun hrest => hinner next ?_, ?_, ?_, ?_⟩
    · simp [List.dropLast_cons_of_ne_nil hrest]
    · exact fun t ht => hhead t (List.mem_cons_of_mem _ ht)
    · exact fun t ht => hlast t (by simpa using Or.inr ht)
    · intro t ht
      refine hinner t ?_
      cases rest with
      | nil => simp at ht
      | cons _ _ => simpa using Or.inr ht
  · rintro ⟨hlast, hhead, hinner, h⟩
    refine ⟨?_, ?_, ?_⟩
    · intro t ht
      rcases List.mem_cons.mp ht with rfl | ht
      · exact hhead
      · exact h.head?_ne t ht
    · intro t ht
      rcases List.mem_cons.mp (by simpa using ht : t ∈ first :: (next :: rest).dropLast) with
        rfl | ht
      · exact hlast
      · exact h.getLast?_ne t ht
    · intro t ht
      cases rest with
      | nil => simp at ht
      | cons other rest =>
        rcases List.mem_cons.mp (by simpa using ht : t ∈ next :: (other :: rest).dropLast) with
          rfl | ht
        · exact hinner (by simp)
        · exact h.inner_ne_nil t ht

theorem Separable.undouble {texts : List Text} (h : Separable texts) :
    Separable (texts.map undouble) := by
  refine ⟨?_, ?_, ?_⟩
  · simpa [← List.map_tail, head?_undouble] using h.head?_ne
  · simpa [← List.map_dropLast, getLast?_undouble] using h.getLast?_ne
  · simpa [← List.map_tail, ← List.map_dropLast, undouble_eq_nil_iff] using h.inner_ne_nil

/-! ## Reading -/

/-- What the parts of any text look like. A first part that follows a separator is only empty if
there is nothing after it. -/
theorem separable_cutAtLone (afterSeparator : Bool) (t : Text) :
    ∃ first rest, cutAtLone afterSeparator t = first :: rest ∧ Separable (first :: rest) ∧
      (afterSeparator = true → rest ≠ [] → first ≠ []) ∧
      ∀ c, first.head? = some c → t.head? = some c := by
  induction t generalizing afterSeparator with
  | nil => exact ⟨[], [], rfl, separable_singleton [], by simp, by simp⟩
  | cons c t ih =>
    by_cases hc : c = separator
    · obtain ⟨first, rest, hcut, hsep, hfirst, hhead⟩ := ih true
      by_cases hlone : (!afterSeparator && t.head? != some separator) = true
      · refine ⟨[], first :: rest, by simp [cutAtLone, hc, hlone, hcut], ?_, ?_, by simp⟩
        · simp only [Bool.and_eq_true, bne_iff_ne] at hlone
          exact separable_cons_cons.mpr
            ⟨by simp, fun h => hlone.2 (hhead _ h), hfirst rfl, hsep⟩
        · intro hafter
          simp [hafter] at hlone
      · refine ⟨c :: first, rest, by simp [cutAtLone, hc, hlone, hcut, consFirst], ?_, by simp,
          by simp⟩
        cases rest with
        | nil => exact separable_singleton _
        | cons next rest =>
          obtain ⟨hlast, hrest⟩ := separable_cons_cons.mp hsep
          refine separable_cons_cons.mpr ⟨?_, hrest⟩
          have hne := hfirst rfl (by simp)
          rwa [List.getLast?_cons, List.getLast?_eq_some_getLast hne, Option.getD_some,
            ← List.getLast?_eq_some_getLast hne]
    · obtain ⟨first, rest, hcut, hsep, _, _⟩ := ih false
      refine ⟨c :: first, rest, by simp [cutAtLone, hc, hcut, consFirst], ?_, by simp, by simp⟩
      cases rest with
      | nil => exact separable_singleton _
      | cons next rest =>
        obtain ⟨hlast, hrest⟩ := separable_cons_cons.mp hsep
        refine separable_cons_cons.mpr ⟨?_, hrest⟩
        cases first with
        | nil => simpa using hc
        | cons d first => simpa [List.getLast?_cons] using hlast

theorem separable_segments (message : Text) : Separable (segments message) := by
  obtain ⟨first, rest, hcut, hsep, _⟩ := separable_cutAtLone false message
  rw [segments, hcut]
  exact hsep.undouble

/-! ## Writing -/

theorem written_cons_cons (first next : Text) (rest : List Text) :
    written (first :: next :: rest) = double first ++ separator :: written (next :: rest) := by
  simp [written, Text.joinWith]

theorem head?_written {first : Text} {rest : List Text} (hhead : first.head? ≠ some separator)
    (hfirst : rest ≠ [] → first ≠ []) : (written (first :: rest)).head? ≠ some separator := by
  cases rest with
  | nil => simpa [written, Text.joinWith] using hhead
  | cons next rest =>
    have hne : first ≠ [] := hfirst (by simp)
    rw [List.head?_eq_some_head hne] at hhead
    simpa [written_cons_cons, List.head?_append, List.head?_eq_some_head hne]
      using hhead

theorem cutAtLone_written {afterSeparator : Bool} {first : Text} {rest : List Text}
    (h : Separable (first :: rest)) (hfirst : afterSeparator = true → rest ≠ [] → first ≠ []) :
    cutAtLone afterSeparator (written (first :: rest)) = (first :: rest).map double := by
  induction rest generalizing first afterSeparator with
  | nil => exact cutAtLone_double afterSeparator first
  | cons next rest ih =>
    obtain ⟨hlast, hhead, hnext, hrest⟩ := separable_cons_cons.mp h
    have hafter : double first = [] → afterSeparator = false := by
      intro hnil
      cases afterSeparator with
      | false => rfl
      | true => exact absurd ((double_eq_nil_iff first).mp hnil) (hfirst rfl (by simp))
    rw [written_cons_cons, cutAtLone_append (by rwa [getLast?_double]) hafter
      (head?_written hhead hnext), cutAtLone_double, ih hrest fun _ => hnext]
    rfl

theorem segments_written {first : Text} {rest : List Text} (h : Separable (first :: rest)) :
    segments (written (first :: rest)) = first :: rest := by
  have hid : undouble ∘ double = id := funext undouble_double
  rw [segments, cutAtLone_written h (by simp), List.map_map, hid, List.map_id]

/-! ### Texts without separators -/

theorem double_of_not_mem {t : Text} (h : separator ∉ t) : double t = t := by
  induction t with
  | nil => rfl
  | cons c t ih =>
    simp only [List.mem_cons, not_or] at h
    rw [double_cons_of_ne (Ne.symm h.1), ih h.2]

theorem separable_of_not_mem {texts : List Text} (hne : ∀ t ∈ texts, t ≠ [])
    (h : ∀ t ∈ texts, separator ∉ t) : Separable texts where
  head?_ne t ht hhead := h t (List.mem_of_mem_tail ht) (List.mem_of_head? hhead)
  getLast?_ne t ht hlast := h t (List.dropLast_subset _ ht) (List.mem_of_getLast? hlast)
  inner_ne_nil t ht := hne t (List.mem_of_mem_tail (List.dropLast_subset _ ht))

theorem written_of_not_mem {texts : List Text} (h : ∀ t ∈ texts, separator ∉ t) :
    written texts = Text.joinWith [separator] texts := by
  rw [written, List.map_congr_left fun t ht => double_of_not_mem (h t ht), List.map_id']

theorem segments_joinWith {first : Text} {rest : List Text} (hne : ∀ t ∈ first :: rest, t ≠ [])
    (h : ∀ t ∈ first :: rest, separator ∉ t) :
    segments (Text.joinWith [separator] (first :: rest)) = first :: rest := by
  rw [← written_of_not_mem h]
  exact segments_written (separable_of_not_mem hne h)

theorem segments_of_not_mem {t : Text} (h : separator ∉ t) : segments t = [t] := by
  have hwritten : written [t] = t := double_of_not_mem h
  have hread := segments_written (separable_singleton t)
  rwa [hwritten] at hread

/-- **Writing and reading segments.** Texts, at least one, come back from the message that is
written of them exactly if they keep separators apart. -/
theorem segments_written_iff (first : Text) (rest : List Text) :
    segments (written (first :: rest)) = first :: rest ↔ Separable (first :: rest) := by
  constructor
  · intro h
    rw [← h]
    exact separable_segments _
  · exact segments_written

end Variant
end Phrasebook
