import Lockstep.Configuration
import Lockstep.Proofs.Alignment.FirstLine

set_option autoImplicit false
set_option relaxedAutoImplicit false

/-!
What a run goes through: the line where the reference starts, the span of it that takes part, and
the comparison of that span. A run succeeds exactly when the first two are found, and its outcome
holds the third.
-/

namespace Lockstep

theorem map_eq_ok_iff {ε α β : Type} {f : α → β} {x : Except ε α} {b : β} :
    x.map f = .ok b ↔ ∃ a, x = .ok a ∧ f a = b := by
  cases x <;> simp [Except.map]

namespace Configuration

variable {config : Configuration} {reference candidate : TraceFile}

/-- The line where a trace starts: the first that contains the start marker, and line 0 for a
configuration without marker. -/
def StartsAt (config : Configuration) (lines : List Text) (s : Nat) : Prop :=
  match config.marker with
  | none => s = 0
  | some marker => IsFirstLine lines 0 (marker <:+: ·) s

theorem startsAt_iff {s : Nat} :
    config.StartsAt reference.lines s ↔
      ∃ marked, config.markedLine reference = .ok marked ∧ marked.getD 0 = s := by
  unfold StartsAt markedLine
  cases config.marker with
  | none => simp [eq_comm]
  | some marker =>
    simp only [← Alignment.markerLine?_eq_some_iff]
    cases Alignment.markerLine? marker reference.lines <;> simp

theorem StartsAt.le_length {lines : List Text} {s : Nat} (h : config.StartsAt lines s) :
    s ≤ lines.length := by
  unfold StartsAt at h
  split at h
  · omega
  · exact Nat.le_of_lt h.lt_length

/-- A search leads to the first line that carries the candidate's first address, and without such an
address to the line where it would begin. -/
theorem targetLine_eq_ok_iff {records : List Record} {marked : Option Nat} {j : Nat} :
    config.targetLine reference records marked = .ok j ↔
      (records = [] ∧ searchStart marked = j) ∨
        ∃ first rest, records = first :: rest ∧
          IsFirstLine reference.lines (searchStart marked)
            (fun line => Alignment.carries config.reference config.rule first.key line = true)
            j := by
  cases records with
  | nil => simp [targetLine]
  | cons first rest =>
    simp only [targetLine, ← Alignment.searchTarget?_eq_some_iff]
    cases found : Alignment.searchTarget? reference.lines (searchStart marked) config.reference
        first.key config.rule <;> simp [found]

theorem targetLine_bounds {records : List Record} {marked : Option Nat} {j : Nat}
    (start : marked.getD 0 ≤ reference.lines.length)
    (found : config.targetLine reference records marked = .ok j) :
    marked.getD 0 - 1 ≤ j ∧ j ≤ reference.lines.length := by
  rcases targetLine_eq_ok_iff.mp found with ⟨-, rfl⟩ | ⟨first, rest, -, line⟩
  · exact ⟨Nat.le_refl _, Nat.le_trans (Nat.sub_le _ _) start⟩
  · exact ⟨line.start_le, Nat.le_of_lt line.lt_length⟩

theorem align_eq_ok {records : List Record} {marked : Option Nat} {span : Span}
    (hm : config.markedLine reference = .ok marked)
    (h : config.align reference records marked = .ok span) :
    span.startLine.getD 0 ≤ reference.lines.length ∧
      span.records <+: config.reference.recordsAfter (span.startLine.getD 0) reference.lines := by
  have start : marked.getD 0 ≤ reference.lines.length :=
    (startsAt_iff.mpr ⟨marked, hm, rfl⟩).le_length
  unfold align at h
  split at h
  · obtain rfl := Except.ok.inj h
    exact ⟨start, List.prefix_refl _⟩
  · obtain rfl := Except.ok.inj h
    exact ⟨start, List.prefix_refl _⟩
  · obtain ⟨line, found, rfl⟩ := map_eq_ok_iff.mp h
    exact ⟨(Alignment.offsetStart_eq_ok_iff.mp found).2.2.1, List.take_prefix _ _⟩
  · obtain ⟨line, found, rfl⟩ := map_eq_ok_iff.mp h
    exact ⟨(targetLine_bounds start found).2, List.take_prefix _ _⟩

theorem align_congr {records records' : List Record}
    (keys : records'.map Record.key = records.map Record.key) (reference : TraceFile)
    (marked : Option Nat) :
    config.align reference records' marked = config.align reference records marked := by
  have count : records'.length = records.length := by
    simpa only [List.length_map] using congrArg List.length keys
  have target : config.targetLine reference records' marked =
      config.targetLine reference records marked := by
    cases records <;> cases records' <;>
      simp_all [targetLine]
  unfold align
  rw [target]
  unfold windowSpan
  rw [count]

theorem compare_of_membership (h : config.alignment = .membership) (r c : List Record) :
    config.compare r c = .membership r (.ofRecords c) := by
  rw [compare, h]

theorem compare_of_ne_membership (h : config.alignment ≠ .membership) (r c : List Record) :
    config.compare r c = .positional r c config.rule config.driver := by
  unfold compare
  split
  · contradiction
  · rfl

theorem run_eq_ok_iff {o : Outcome} :
    config.run reference candidate = .ok o ↔
      ∃ marked span, config.markedLine reference = .ok marked ∧
        config.align reference (config.candidate.records candidate.lines) marked = .ok span ∧
        config.outcome reference candidate (config.candidate.records candidate.lines) span = o := by
  simp only [run]
  cases config.markedLine reference with
  | error fault => simp
  | ok marked => simp [map_eq_ok_iff]

/-- A log and a dump that part at their second address, with lines between that hold none. -/
def partedLog : TraceFile :=
  ⟨"log".toList, ["boot pc=[4]", "Writing", "pc=[0010]", "idle", "pc=[14]"].map String.toList⟩

def partedDump : TraceFile :=
  ⟨"dump".toList, ["timestamp: 7", "10: auipc", "18: jal"].map String.toList⟩

end Configuration

end Lockstep

/-!
Searches and distances. The line that a search finds can be named by its distance from the start
marker, and the run at that distance has the same outcome; and a search finds the first line that
matches, whatever it is.
-/

namespace Lockstep.Configuration

variable {config : Configuration} {reference candidate : TraceFile}

/-- A search and the distance of the line it finds give one outcome, and the distance fits a signed
word. A search for the first address of a candidate finds the first line at or after the one before
the start that matches. -/
theorem run_targetSearch_eq_run_offset (config : Configuration) (reference candidate : TraceFile)
    (short : reference.lines.length < Alignment.wordLimit) :
    (∀ o, (config.set (.alignment .targetSearch)).run reference candidate = .ok o →
      ∃ s j : Nat, config.StartsAt reference.lines s ∧ o.startLine = some j ∧
        (0 : Int) ≤ j - s + 1 ∧ (j : Int) - s + 1 ≤ Alignment.wordLimit ∧
        (config.set (.alignment (.offset (j - s + 1)))).run reference candidate = .ok o) ∧
    ∀ s j first rest, config.StartsAt reference.lines s →
      config.candidate.records candidate.lines = first :: rest →
      IsFirstLine reference.lines (s - 1)
        (fun line => ∃ key text, config.reference.extract? line = some (key, text) ∧
          config.rule.admits key first.key = true) j →
      ∃ o, (config.set (.alignment .targetSearch)).run reference candidate = .ok o ∧
        o.startLine = some j := by
  refine ⟨?_, ?_⟩
  · intro o h
    obtain ⟨marked, span, hm, ha, rfl⟩ := run_eq_ok_iff.mp h
    obtain ⟨j, found, rfl⟩ := map_eq_ok_iff.mp ha
    have starts : config.StartsAt reference.lines (marked.getD 0) :=
      startsAt_iff.mpr ⟨marked, hm, rfl⟩
    have bound := starts.le_length
    obtain ⟨near, within⟩ := targetLine_bounds bound found
    have reached : Alignment.offsetStart (marked.getD 0) (j - (marked.getD 0 : Nat) + 1)
        reference.lines.length = .ok j := by
      rw [Alignment.offsetStart_eq_ok_iff]
      omega
    refine ⟨marked.getD 0, j, starts, rfl, by omega, by omega, ?_⟩
    exact run_eq_ok_iff.mpr ⟨marked, _, hm, map_eq_ok_iff.mpr ⟨j, reached, rfl⟩, rfl⟩
  · intro s j first rest starts records line
    obtain ⟨marked, hm, rfl⟩ := startsAt_iff.mp starts
    have found : (config.set (.alignment .targetSearch)).targetLine reference
        (config.candidate.records candidate.lines) marked = .ok j := by
      refine targetLine_eq_ok_iff.mpr (.inr ⟨first, rest, records, ?_⟩)
      simp only [Alignment.carries_iff]
      exact line
    refine ⟨_, run_eq_ok_iff.mpr ⟨marked, _, hm, map_eq_ok_iff.mpr ⟨j, found, rfl⟩, rfl⟩, rfl⟩

theorem run_targetSearch_eq_run_offset_partedLog :
    partedLog.lines.length < Alignment.wordLimit ∧
      ∃ o, ((verilator none).set (.alignment .targetSearch)).run partedLog partedDump = .ok o ∧
        o.startLine = some 2 ∧
        ((verilator none).set (.alignment (.offset 2))).run partedLog partedDump = .ok o := by
  have short : partedLog.lines.length < Alignment.wordLimit := by decide
  obtain ⟨o, ran, start⟩ :
      ∃ o, ((verilator none).set (.alignment .targetSearch)).run partedLog partedDump = .ok o ∧
        o.startLine = some 2 := ⟨_, rfl, rfl⟩
  obtain ⟨s, j, starts, found, -, -, same⟩ :=
    (run_targetSearch_eq_run_offset (verilator none) partedLog partedDump short).1 o ran
  obtain ⟨marked, hm, rfl⟩ := startsAt_iff.mp starts
  have hmarked : marked = some 1 := (Except.ok.inj hm).symm
  have hj : j = 2 := Option.some.inj (found.symm.trans start)
  subst hmarked hj
  exact ⟨short, o, ran, start, same⟩

end Lockstep.Configuration
