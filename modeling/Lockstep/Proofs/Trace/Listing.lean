import Lockstep.Trace.Basic
import Mathlib.Data.Nat.Basic

set_option autoImplicit false
set_option relaxedAutoImplicit false

/-!
The records of a trace as a listing of its lines: each record stands for the line with its number,
the numbers ascend, and the records of lines that are appended come after those of the lines before
them. A list that has the records of a trace in the order of its lines is this listing and no other.
-/

namespace Lockstep

theorem eq_of_ascending {α β : Type} [Preorder β] (rank : α → β) {l m : List α}
    (hl : l.Pairwise fun a b => rank a < rank b)
    (hm : m.Pairwise fun a b => rank a < rank b) (members : ∀ a, a ∈ l ↔ a ∈ m) : l = m := by
  have distinct {k : List α} (ascending : k.Pairwise fun a b => rank a < rank b) : k.Nodup := by
    refine ascending.imp ?_
    rintro a b lt rfl
    exact lt_irrefl (rank a) lt
  have rearranged : l.Perm m :=
    (List.perm_ext_iff_of_nodup (distinct hl) (distinct hm)).mpr members
  refine rearranged.eq_of_pairwise ?_ hl hm
  intro a b _ _ lt gt
  exact absurd gt (lt_asymm lt)

namespace Extractor

variable {e : Extractor} {start : Nat} {lines more : List Text} {r : Record}

/-- A record is read off a trace when it is what the extractor makes of the line with its number. -/
def Reads (e : Extractor) (lines : List Text) (r : Record) : Prop :=
  ∃ line, lines[r.line]? = some line ∧ e.extract? line = some (r.key, r.text)

theorem Reads.lt_length (h : e.Reads lines r) : r.line < lines.length := by
  obtain ⟨line, found, -⟩ := h
  exact (List.getElem?_eq_some_iff.mp found).1

/-- The records that are read off a trace at or after a line, in the order of the lines. -/
structure Lists (e : Extractor) (start : Nat) (lines : List Text) (records : List Record) :
    Prop where
  ascending : records.Pairwise fun a b => a.line < b.line
  mem_iff : ∀ r, r ∈ records ↔ start ≤ r.line ∧ e.Reads lines r

theorem record?_eq_some_iff {number : Nat} {line : Text} :
    e.record? number line = some r ↔
      r.line = number ∧ e.extract? line = some (r.key, r.text) := by
  simp only [record?, Option.map_eq_some_iff, Prod.exists]
  constructor
  · rintro ⟨key, text, extracted, rfl⟩
    exact ⟨rfl, extracted⟩
  · rintro ⟨rfl, extracted⟩
    exact ⟨r.key, r.text, extracted, rfl⟩

theorem mem_recordsFrom :
    r ∈ e.recordsFrom start lines ↔
      start ≤ r.line ∧
        ∃ line, lines[r.line - start]? = some line ∧ e.extract? line = some (r.key, r.text) := by
  simp only [recordsFrom, List.mem_filterMap, Prod.exists, record?_eq_some_iff,
    List.mk_mem_zipIdx_iff_le_and_getElem?_sub]
  constructor
  · rintro ⟨line, _, ⟨bound, found⟩, rfl, extracted⟩
    exact ⟨bound, line, found, extracted⟩
  · rintro ⟨bound, line, found, extracted⟩
    exact ⟨line, r.line, ⟨bound, found⟩, rfl, extracted⟩

theorem mem_records :
    r ∈ e.records lines ↔
      ∃ line, lines[r.line]? = some line ∧ e.extract? line = some (r.key, r.text) := by
  simp [records, mem_recordsFrom]

theorem mem_recordsAfter : r ∈ e.recordsAfter start lines ↔ start ≤ r.line ∧ e.Reads lines r := by
  rw [recordsAfter, mem_recordsFrom, Reads, and_congr_right_iff]
  intro bound
  rw [List.getElem?_drop, Nat.add_sub_cancel' bound]

theorem pairwise_recordsFrom (e : Extractor) (start : Nat) (lines : List Text) :
    (e.recordsFrom start lines).Pairwise fun a b => a.line < b.line := by
  have ascending : (lines.zipIdx start).Pairwise fun a b => a.2 < b.2 := by
    apply List.pairwise_map.mp
    rw [List.zipIdx_map_snd]
    exact List.pairwise_lt_range'
  refine ascending.filterMap _ ?_
  intro a a' lt b hb b' hb'
  rw [(record?_eq_some_iff.mp hb).1, (record?_eq_some_iff.mp hb').1]
  exact lt

theorem recordsFrom_cons (e : Extractor) (start : Nat) (line : Text) (lines : List Text) :
    e.recordsFrom start (line :: lines) =
      (e.record? start line).toList ++ e.recordsFrom (start + 1) lines := by
  simp only [recordsFrom, List.zipIdx_cons, List.filterMap_cons]
  cases e.record? start line <;> rfl

theorem recordsFrom_append (e : Extractor) (start : Nat) (lines more : List Text) :
    e.recordsFrom start (lines ++ more) =
      e.recordsFrom start lines ++ e.recordsFrom (start + lines.length) more := by
  simp only [recordsFrom, List.zipIdx_append, List.filterMap_append]

theorem length_recordsFrom_le (e : Extractor) (start : Nat) (lines : List Text) :
    (e.recordsFrom start lines).length ≤ lines.length := by
  rw [recordsFrom]
  calc
    _ ≤ (lines.zipIdx start).length := List.length_filterMap_le _ _
    _ = lines.length := List.length_zipIdx

theorem records_prefix (e : Extractor) (lines more : List Text) :
    e.records lines <+: e.records (lines ++ more) := by
  rw [records, records, recordsFrom_append]
  exact List.prefix_append _ _

theorem recordsAfter_prefix (e : Extractor) (start : Nat) (lines more : List Text) :
    e.recordsAfter start lines <+: e.recordsAfter start (lines ++ more) := by
  rw [recordsAfter, recordsAfter, List.drop_append, recordsFrom_append]
  exact List.prefix_append _ _

theorem window_prefix (e : Extractor) (start : Nat) (lines more : List Text) {count count' : Nat}
    (hc : count ≤ count') :
    e.window start count lines <+: e.window start count' (lines ++ more) := by
  rw [window, window, List.prefix_take_iff]
  refine ⟨(List.take_prefix _ _).trans (e.recordsAfter_prefix start lines more), ?_⟩
  exact Nat.le_trans (List.length_take_le _ _) hc

theorem lists_recordsAfter (e : Extractor) (start : Nat) (lines : List Text) :
    e.Lists start lines (e.recordsAfter start lines) :=
  ⟨e.pairwise_recordsFrom start (lines.drop start), fun _ => mem_recordsAfter⟩

theorem Lists.eq_recordsAfter {records : List Record} (h : e.Lists start lines records) :
    records = e.recordsAfter start lines := by
  have listed := e.lists_recordsAfter start lines
  refine eq_of_ascending Record.line h.ascending listed.ascending ?_
  intro r
  rw [h.mem_iff, listed.mem_iff]

theorem Lists.head?_eq {records : List Record} {line text : Text} {key : Key}
    (h : e.Lists start lines records) (found : lines[start]? = some line)
    (extracted : e.extract? line = some (key, text)) :
    records.head? = some ⟨start, key, text⟩ := by
  obtain ⟨hlt, rfl⟩ := List.getElem?_eq_some_iff.mp found
  rw [h.eq_recordsAfter, recordsAfter, List.drop_eq_getElem_cons hlt, recordsFrom_cons, record?,
    extracted]
  rfl

end Extractor

end Lockstep

/-!
Windows as slices. The records at or after a line are those of the whole trace that have no lesser
line number, whatever is read of the lines before them; a window is the first of these and leaves none
out before its end.
-/

namespace Lockstep.Extractor

variable {e : Extractor} {start count : Nat} {lines : List Text}

theorem recordsAfter_eq_filter (e : Extractor) (start : Nat) (lines : List Text) :
    e.recordsAfter start lines = (e.records lines).filter fun r => start ≤ r.line := by
  have listed : e.Lists start lines ((e.records lines).filter fun r => start ≤ r.line) := by
    refine ⟨(e.pairwise_recordsFrom 0 lines).filter _, ?_⟩
    intro r
    rw [List.mem_filter, decide_eq_true_eq, mem_records, and_comm, Reads]
  exact listed.eq_recordsAfter.symm

theorem recordsAfter_succ (bare : ∀ line, lines[start]? = some line → e.extract? line = none) :
    e.recordsAfter (start + 1) lines = e.recordsAfter start lines := by
  rcases Nat.lt_or_ge start lines.length with inside | beyond
  · have unread : e.record? start lines[start] = none := by
      rw [record?, bare _ (List.getElem?_eq_getElem inside), Option.map_none]
    rw [recordsAfter, recordsAfter, List.drop_eq_getElem_cons inside, recordsFrom_cons, unread,
      Option.toList_none, List.nil_append]
  · rw [recordsAfter, recordsAfter, List.drop_eq_nil_of_le beyond,
      List.drop_eq_nil_of_le (Nat.le_succ_of_le beyond)]
    rfl

theorem window_sublist (e : Extractor) (start count : Nat) (lines : List Text) :
    (e.window start count lines).Sublist (e.recordsAfter start lines) :=
  List.take_sublist _ _

/-- Where records are in ascending order, none is missing between the first and the last of those that
are taken from the front. -/
theorem mem_take_of_le_getLast? {records : List Record} {r last : Record}
    (ascending : records.Pairwise fun a b => a.line < b.line)
    (hlast : (records.take count).getLast? = some last) (hr : r ∈ records)
    (le : r.line ≤ last.line) : r ∈ records.take count := by
  rw [← List.take_append_drop count records] at hr ascending
  rcases List.mem_append.mp hr with taken | dropped
  · exact taken
  · have behind : last.line < r.line :=
      (List.pairwise_append.mp ascending).2.2 last (List.mem_of_getLast? hlast) r dropped
    exact absurd le (Nat.not_le_of_lt behind)

/-- A window is a slice of the records of its trace: the first `count` of those at or after line
`start`. Its line numbers ascend, each of its records is read off the line with its number, and up to
its last record it has all that can be read. From the first line on, with a count no less than the
number of lines, it is the whole trace; a start on a line without a record is as good as one on the
next line. -/
theorem window_isSlice (e : Extractor) (start count : Nat) (lines : List Text) :
    e.window start count lines =
        ((e.records lines).filter fun r => start ≤ r.line).take count ∧
      ((e.window start count lines).Pairwise fun a b => a.line < b.line) ∧
      (∀ r ∈ e.window start count lines, start ≤ r.line ∧ e.Reads lines r) ∧
      (∀ last, (e.window start count lines).getLast? = some last →
        ∀ r, e.Reads lines r → start ≤ r.line → r.line ≤ last.line →
          r ∈ e.window start count lines) ∧
      (lines.length ≤ count → e.window 0 count lines = e.records lines) ∧
      ((∀ line, lines[start]? = some line → e.extract? line = none) →
        e.window start count lines = e.window (start + 1) count lines) := by
  have listed := e.lists_recordsAfter start lines
  refine ⟨?_, ?_, ?_, ?_, ?_, ?_⟩
  · rw [window, recordsAfter_eq_filter]
  · exact listed.ascending.sublist (e.window_sublist start count lines)
  · intro r hr
    exact (listed.mem_iff r).mp ((e.window_sublist start count lines).subset hr)
  · intro last hlast r read after before
    exact mem_take_of_le_getLast? listed.ascending hlast ((listed.mem_iff r).mpr ⟨after, read⟩)
      before
  · intro enough
    exact List.take_of_length_le (Nat.le_trans (e.length_recordsFrom_le 0 lines) enough)
  · intro bare
    rw [window, window, recordsAfter_succ bare]

end Lockstep.Extractor

/-!
Traces with lines ahead of them. The records of a trace are the same behind any preamble, each as many
lines later as the preamble has.
-/

namespace Lockstep

def Record.later (n : Nat) (r : Record) : Record := { r with line := r.line + n }

theorem Record.key_later (n : Nat) (r : Record) : (r.later n).key = r.key := rfl

theorem Record.key_id (r : Record) : (id r).key = r.key := rfl

namespace Extractor

theorem record?_add (e : Extractor) (number n : Nat) (line : Text) :
    e.record? (number + n) line = (e.record? number line).map (Record.later n) := by
  rw [record?, record?, Option.map_map]
  rfl

theorem recordsFrom_add (e : Extractor) (start n : Nat) (lines : List Text) :
    e.recordsFrom (start + n) lines = (e.recordsFrom start lines).map (Record.later n) := by
  induction lines generalizing start with
  | nil => rfl
  | cons line lines ih =>
    have next : start + n + 1 = start + 1 + n := Nat.add_right_comm start n 1
    rw [recordsFrom_cons, recordsFrom_cons, List.map_append, record?_add, next, ih]
    cases e.record? start line <;> rfl

theorem recordsAfter_preamble (e : Extractor) (start : Nat) (preamble lines : List Text) :
    e.recordsAfter (start + preamble.length) (preamble ++ lines) =
      (e.recordsAfter start lines).map (Record.later preamble.length) := by
  have behind : (preamble ++ lines).drop (start + preamble.length) = lines.drop start := by
    rw [Nat.add_comm, List.drop_length_add_append]
  rw [recordsAfter, recordsAfter, behind, recordsFrom_add]

theorem window_preamble (e : Extractor) (start count : Nat) (preamble lines : List Text) :
    e.window (start + preamble.length) count (preamble ++ lines) =
      (e.window start count lines).map (Record.later preamble.length) := by
  rw [window, window, recordsAfter_preamble, List.map_take]

end Extractor

/-!
Traces with lines that carry no record. Such lines may be inserted anywhere: the records stay what
they were but for their line numbers, and a search for a record finds the same one.
-/

def Record.unnumbered (r : Record) : Record := { r with line := 0 }

namespace Extractor

/-- Lines are padded when other lines are inserted, none of which carries a record. -/
inductive Padded (e : Extractor) : List Text → List Text → Prop
  | nil : Padded e [] []
  | keep (line : Text) {lines lines' : List Text} :
      Padded e lines lines' → Padded e (line :: lines) (line :: lines')
  | insert (line : Text) {lines lines' : List Text} :
      e.extract? line = none → Padded e lines lines' → Padded e lines (line :: lines')

variable {e : Extractor} {lines lines' : List Text}

theorem Padded.refl (e : Extractor) (lines : List Text) : e.Padded lines lines := by
  induction lines with
  | nil => exact .nil
  | cons line lines ih => exact .keep line ih

theorem Padded.append_left (h : e.Padded lines lines') (head : List Text) :
    e.Padded (head ++ lines) (head ++ lines') := by
  induction head with
  | nil => exact h
  | cons line head ih => exact .keep line ih

theorem unnumbered_recordsFrom (e : Extractor) (start : Nat) (lines : List Text) :
    (e.recordsFrom start lines).map Record.unnumbered = lines.filterMap (e.record? 0) := by
  induction lines generalizing start with
  | nil => rfl
  | cons line lines ih =>
    rw [recordsFrom_cons, List.map_append, ih, List.filterMap_cons, record?, record?]
    cases e.extract? line <;> rfl

theorem Padded.unnumbered_eq (h : e.Padded lines lines') (start start' : Nat) :
    (e.recordsFrom start' lines').map Record.unnumbered =
      (e.recordsFrom start lines).map Record.unnumbered := by
  rw [unnumbered_recordsFrom, unnumbered_recordsFrom]
  induction h with
  | nil => rfl
  | keep line _ ih => rw [List.filterMap_cons, List.filterMap_cons, ih]
  | insert line bare _ ih =>
    have none : e.record? 0 line = none := by rw [record?, bare, Option.map_none]
    rw [List.filterMap_cons_none none, ih]

theorem Padded.findIdx?_cases {p : Text → Bool} (h : e.Padded lines lines')
    (carried : ∀ line, p line = true → e.extract? line ≠ none) :
    (lines.findIdx? p = none ∧ lines'.findIdx? p = none) ∨
      ∃ i i', lines.findIdx? p = some i ∧ lines'.findIdx? p = some i' ∧
        e.Padded (lines.drop i) (lines'.drop i') := by
  induction h with
  | nil => exact .inl ⟨rfl, rfl⟩
  | keep line padded ih =>
    simp only [List.findIdx?_cons]
    by_cases found : p line = true
    · simp only [found, if_true]
      exact .inr ⟨0, 0, rfl, rfl, .keep line padded⟩
    · simp only [found, Bool.false_eq_true, if_false]
      rcases ih with ⟨missing, missing'⟩ | ⟨i, i', hi, hi', after⟩
      · exact .inl ⟨by rw [missing]; rfl, by rw [missing']; rfl⟩
      · exact .inr ⟨i + 1, i' + 1, by rw [hi]; rfl, by rw [hi']; rfl, after⟩
  | insert line bare padded ih =>
    have passed : p line = false := by
      cases holds : p line with
      | false => rfl
      | true => exact absurd bare (carried line holds)
    simp only [List.findIdx?_cons, passed, Bool.false_eq_true, if_false]
    rcases ih with ⟨missing, missing'⟩ | ⟨i, i', hi, hi', after⟩
    · exact .inl ⟨missing, by rw [missing']; rfl⟩
    · exact .inr ⟨i, i' + 1, hi, by rw [hi']; rfl, after⟩

end Extractor

end Lockstep
