import Lockstep.Proofs.Outcome.Relabeling
import Lockstep.Proofs.Trace.Listing

set_option autoImplicit false
set_option relaxedAutoImplicit false

/-!
Runs behind a preamble. Where the start of a reference is marked, lines ahead of it that lack the marker
make no difference to a run but for the numbers of the lines behind them: every alignment reckons from
the marked line. Only a search that would begin at the line before a marker on the first line is held
back by the beginning of the trace, and no longer is behind a preamble.
-/

namespace Lockstep

namespace Relabeling

def laterReference (n : Nat) : Relabeling where
  start := Option.map (· + n)
  reference := Record.later n
  candidate := id
  key_reference := Record.key_later n
  key_candidate := Record.key_id

end Relabeling

def TraceFile.behind (trace : TraceFile) (preamble : List Text) : TraceFile :=
  { trace with lines := preamble ++ trace.lines }

namespace Configuration

variable {config : Configuration} {reference candidate : TraceFile} {marker : Text}
  {preamble : List Text}

theorem markedLine_behind {marked : Option Nat} (configured : config.marker = some marker)
    (absent : ∀ line ∈ preamble, ¬marker <:+: line)
    (hm : config.markedLine reference = .ok marked) :
    ∃ s, marked = some s ∧
      config.markedLine (reference.behind preamble) = .ok (some (s + preamble.length)) := by
  unfold markedLine at hm ⊢
  simp only [configured, TraceFile.behind, Alignment.markerLine?_preamble absent] at hm ⊢
  cases found : Alignment.markerLine? marker reference.lines with
  | none =>
    rw [found] at hm
    cases hm
  | some s =>
    rw [found] at hm
    exact ⟨s, (Except.ok.inj hm).symm, rfl⟩

theorem openSpan_behind (config : Configuration) (reference : TraceFile) (preamble : List Text)
    (s : Nat) :
    config.openSpan (reference.behind preamble) (some (s + preamble.length)) =
      (config.openSpan reference (some s)).relabel (.laterReference preamble.length) :=
  congrArg (Span.mk _) (config.reference.recordsAfter_preamble s preamble reference.lines)

theorem windowSpan_behind (config : Configuration) (reference : TraceFile) (preamble : List Text)
    (records : List Record) (start : Nat) :
    config.windowSpan (reference.behind preamble) records (start + preamble.length) =
      (config.windowSpan reference records start).relabel (.laterReference preamble.length) :=
  congrArg (Span.mk _)
    (config.reference.window_preamble start records.length preamble reference.lines)

theorem targetLine_behind {records : List Record} {s line : Nat} (later : s ≠ 0)
    (h : config.targetLine reference records (some s) = .ok line) :
    config.targetLine (reference.behind preamble) records (some (s + preamble.length)) =
      .ok (line + preamble.length) := by
  have start : searchStart (some (s + preamble.length)) =
      searchStart (some s) + preamble.length := by
    simp only [searchStart, Option.getD_some]
    omega
  cases records with
  | nil =>
    simp only [targetLine, Except.ok.injEq] at h ⊢
    rw [start, h]
  | cons first rest =>
    simp only [targetLine, start, TraceFile.behind, Alignment.searchTarget?_preamble] at h ⊢
    cases found : Alignment.searchTarget? reference.lines (searchStart (some s)) config.reference
        first.key config.rule with
    | none =>
      rw [found] at h
      cases h
    | some j =>
      rw [found] at h
      obtain rfl : j = line := Except.ok.inj h
      rfl

theorem align_behind {records : List Record} {s : Nat} {span : Span}
    (within : s ≤ reference.lines.length)
    (searched : config.alignment = .targetSearch → s ≠ 0)
    (short : preamble.length + reference.lines.length < Alignment.wordLimit)
    (h : config.align reference records (some s) = .ok span) :
    config.align (reference.behind preamble) records (some (s + preamble.length)) =
      .ok (span.relabel (.laterReference preamble.length)) := by
  unfold align at h ⊢
  cases ha : config.alignment with
  | membership | sequential =>
    simp only [ha, Except.ok.injEq] at h ⊢
    rw [← h, openSpan_behind]
  | offset distance =>
    simp only [ha, map_eq_ok_iff, Option.getD_some] at h ⊢
    obtain ⟨line, found, rfl⟩ := h
    have reached := Alignment.offsetStart_add preamble.length found within short
    refine ⟨line + preamble.length, ?_, config.windowSpan_behind reference preamble records line⟩
    simpa only [TraceFile.behind, List.length_append] using reached
  | targetSearch =>
    simp only [ha, map_eq_ok_iff] at h ⊢
    obtain ⟨line, found, rfl⟩ := h
    exact ⟨line + preamble.length, targetLine_behind (searched ha) found,
      config.windowSpan_behind reference preamble records line⟩

theorem exists_startLine_of_marked {records : List Record} {s : Nat} {span : Span}
    (h : config.align reference records (some s) = .ok span) :
    ∃ start, span.startLine = some start := by
  unfold align at h
  split at h
  · obtain rfl := Except.ok.inj h
    exact ⟨s, rfl⟩
  · obtain rfl := Except.ok.inj h
    exact ⟨s, rfl⟩
  · obtain ⟨line, -, rfl⟩ := map_eq_ok_iff.mp h
    exact ⟨line, rfl⟩
  · obtain ⟨line, -, rfl⟩ := map_eq_ok_iff.mp h
    exact ⟨line, rfl⟩

/-- The preamble of a log is irrelevant: a run that succeeds does so behind any lines without the marker,
with the start line and the lines of the reference's records later by as many and all else the same. -/
theorem run_behind {o : Outcome} (h : config.run reference candidate = .ok o)
    (configured : config.marker = some marker) (absent : ∀ line ∈ preamble, ¬marker <:+: line)
    (searched : config.alignment = .targetSearch → ¬config.StartsAt reference.lines 0)
    (short : preamble.length + reference.lines.length < Alignment.wordLimit) :
    ∃ start, o.startLine = some start ∧
      config.run (reference.behind preamble) candidate =
        .ok (o.relabel (.laterReference preamble.length)) := by
  obtain ⟨marked, span, hm, ha, rfl⟩ := run_eq_ok_iff.mp h
  obtain ⟨s, rfl, hm'⟩ := markedLine_behind configured absent hm
  have starts : config.StartsAt reference.lines s := startsAt_iff.mpr ⟨some s, hm, rfl⟩
  have later : config.alignment = .targetSearch → s ≠ 0 := by
    rintro searching rfl
    exact searched searching starts
  obtain ⟨start, hs⟩ := exists_startLine_of_marked ha
  have aligned := align_behind starts.le_length later short ha
  refine ⟨start, hs, run_eq_ok_iff.mpr ⟨_, _, hm', aligned, ?_⟩⟩
  rw [outcome_relabel, Relabeling.laterReference, List.map_id]
  rfl

theorem run_behind_partedLog :
    ∃ o, (verilator none).run partedLog partedDump = .ok o ∧ o.startLine = some 2 ∧
      (verilator none).run (partedLog.behind ["pc=[10]".toList, "pc=[18]".toList]) partedDump =
        .ok (o.relabel (.laterReference 2)) ∧
      (o.relabel (.laterReference 2)).startLine = some 4 := by
  obtain ⟨o, ran, start⟩ :
      ∃ o, (verilator none).run partedLog partedDump = .ok o ∧ o.startLine = some 2 := ⟨_, rfl, rfl⟩
  have absent : ∀ line ∈ ["pc=[10]".toList, "pc=[18]".toList], ¬startMarker <:+: line := by
    simp only [← Text.occursIn_iff_isInfix]
    decide
  have searched : (verilator none).alignment = .targetSearch →
      ¬(verilator none).StartsAt partedLog.lines 0 := by
    intro _ starts
    obtain ⟨marked, hm, first⟩ := startsAt_iff.mp starts
    obtain rfl : marked = some 1 := (Except.ok.inj hm).symm
    cases first
  obtain ⟨-, -, same⟩ := run_behind ran rfl absent searched (by decide)
  refine ⟨o, ran, start, same, ?_⟩
  rw [Outcome.relabel, start]
  rfl

end Configuration

/-!
Runs on padded traces. Lines without a record are invisible wherever they are inserted into a
candidate, and in a reference wherever they come after the line with the start marker, as long as no
distance is counted in lines: the run fails as before, or finds the same but for line numbers.
-/

namespace Relabeling

def unnumberedCandidate : Relabeling where
  start := id
  reference := id
  candidate := Record.unnumbered
  key_reference _ := rfl
  key_candidate _ := rfl

/-- Takes the start line and the line numbers from the reference's records. -/
def unnumberedReference : Relabeling where
  start _ := none
  reference := Record.unnumbered
  candidate := id
  key_reference _ := rfl
  key_candidate _ := rfl

end Relabeling

namespace Configuration

variable {config : Configuration} {reference candidate : TraceFile} {lines : List Text}

/-- A reference is padded after its start when lines without a record are inserted behind the first
line with the start marker, or anywhere for a configuration without marker. -/
def PaddedAfterStart (config : Configuration) (lines lines' : List Text) : Prop :=
  match config.marker with
  | none => config.reference.Padded lines lines'
  | some marker => ∃ head tail tail', lines = head ++ tail ∧ lines' = head ++ tail' ∧
      (∃ line ∈ head, marker <:+: line) ∧ config.reference.Padded tail tail'

theorem PaddedAfterStart.of_marker {marker line : Text} {head tail tail' : List Text}
    (marked : config.marker = some marker) (member : line ∈ head) (contained : marker <:+: line)
    (padded : config.reference.Padded tail tail') :
    config.PaddedAfterStart (head ++ tail) (head ++ tail') := by
  rw [PaddedAfterStart, marked]
  exact ⟨head, tail, tail', rfl, rfl, ⟨line, member, contained⟩, padded⟩

theorem PaddedAfterStart.markedLine_eq (h : config.PaddedAfterStart reference.lines lines) :
    config.markedLine { reference with lines } = config.markedLine reference := by
  unfold PaddedAfterStart at h
  unfold markedLine
  split
  · rfl
  · rename_i marker hmarker
    simp only [hmarker] at h
    obtain ⟨head, tail, tail', old, rfl, ⟨line, member, contained⟩, -⟩ := h
    have occurs := (Text.occursIn_iff_isInfix marker line).mpr contained
    cases found : Alignment.markerLine? marker head with
    | none =>
      rw [Alignment.markerLine?, List.findIdx?_eq_none_iff] at found
      rw [found line member] at occurs
      cases occurs
    | some s =>
      simp only [old, Alignment.markerLine?_append found]

theorem PaddedAfterStart.drop {marked : Option Nat} {k : Nat}
    (h : config.PaddedAfterStart reference.lines lines)
    (hm : config.markedLine reference = .ok marked) (hk : k ≤ marked.getD 0) :
    config.reference.Padded (reference.lines.drop k) (lines.drop k) := by
  have starts : config.StartsAt reference.lines (marked.getD 0) :=
    startsAt_iff.mpr ⟨marked, hm, rfl⟩
  unfold PaddedAfterStart at h
  unfold StartsAt at starts
  split at starts
  · rename_i hmarker
    simp only [hmarker] at h
    obtain rfl : k = 0 := by omega
    exact h
  · rename_i marker hmarker
    simp only [hmarker] at h
    obtain ⟨head, tail, tail', old, rfl, ⟨line, member, contained⟩, padded⟩ := h
    have within : marked.getD 0 < head.length := by
      apply Nat.lt_of_not_le
      intro beyond
      obtain ⟨i, hi, rfl⟩ := List.getElem_of_mem member
      refine starts.before i head[i] (Nat.zero_le i) (by omega) ?_ contained
      rw [old, List.getElem?_append_left hi, List.getElem?_eq_getElem hi]
    rw [old, List.drop_append_of_le_length (by omega), List.drop_append_of_le_length (by omega)]
    exact padded.append_left (head.drop k)

theorem openSpan_padded {marked : Option Nat} (h : config.PaddedAfterStart reference.lines lines)
    (hm : config.markedLine reference = .ok marked) :
    (config.openSpan { reference with lines } marked).relabel .unnumberedReference =
      (config.openSpan reference marked).relabel .unnumberedReference := by
  have padded := h.drop hm (Nat.le_refl _)
  simp only [openSpan, Span.relabel, Relabeling.unnumberedReference, Extractor.recordsAfter,
    padded.unnumbered_eq (marked.getD 0) (marked.getD 0)]

theorem windowSpan_padded {start start' : Nat} (records : List Record)
    (padded : config.reference.Padded (reference.lines.drop start) (lines.drop start')) :
    (config.windowSpan { reference with lines } records start').relabel .unnumberedReference =
      (config.windowSpan reference records start).relabel .unnumberedReference := by
  simp only [windowSpan, Span.relabel, Relabeling.unnumberedReference, Extractor.window,
    Extractor.recordsAfter, List.map_take, padded.unnumbered_eq start start']

theorem targetLine_padded {marked : Option Nat} (records : List Record)
    (h : config.PaddedAfterStart reference.lines lines)
    (hm : config.markedLine reference = .ok marked) :
    ((config.targetLine { reference with lines } records marked).map
        (config.windowSpan { reference with lines } records)).map
          (Span.relabel .unnumberedReference) =
      ((config.targetLine reference records marked).map
        (config.windowSpan reference records)).map (Span.relabel .unnumberedReference) := by
  have padded := h.drop hm (Nat.sub_le (marked.getD 0) 1)
  cases records with
  | nil => exact congrArg Except.ok (windowSpan_padded [] padded)
  | cons first rest =>
    have carried (line : Text)
        (carries : Alignment.carries config.reference config.rule first.key line = true) :
        config.reference.extract? line ≠ none := by
      obtain ⟨key, text, extracted, -⟩ := Alignment.carries_iff.mp carries
      simp [extracted]
    simp only [targetLine, Alignment.searchTarget?]
    rcases padded.findIdx?_cases carried with ⟨missing, missing'⟩ | ⟨i, i', hi, hi', after⟩
    · rw [searchStart, missing, missing']
      rfl
    · rw [searchStart, hi, hi']
      rw [List.drop_drop, List.drop_drop, Nat.add_comm _ i, Nat.add_comm _ i'] at after
      exact congrArg Except.ok (windowSpan_padded (first :: rest) after)

/-- Lines without a record are invisible. -/
theorem run_padded (config : Configuration) (reference candidate : TraceFile) (lines : List Text) :
    (config.candidate.Padded candidate.lines lines →
      (config.run reference { candidate with lines }).map (Outcome.relabel .unnumberedCandidate) =
        (config.run reference candidate).map (Outcome.relabel .unnumberedCandidate)) ∧
    ((∀ distance, config.alignment ≠ .offset distance) →
      config.PaddedAfterStart reference.lines lines →
      (config.run { reference with lines } candidate).map (Outcome.relabel .unnumberedReference) =
        (config.run reference candidate).map (Outcome.relabel .unnumberedReference)) := by
  refine ⟨?_, ?_⟩
  · intro padded
    exact run_relabel_congr config .unnumberedCandidate ⟨rfl, rfl⟩ rfl
      (padded.unnumbered_eq 0 0) fun _ _ => rfl
  · intro undistanced padded
    refine run_relabel_congr config .unnumberedReference ⟨rfl, rfl⟩
      padded.markedLine_eq rfl ?_
    intro marked hm
    unfold align
    cases ha : config.alignment with
    | membership => exact congrArg Except.ok (openSpan_padded padded hm)
    | sequential => exact congrArg Except.ok (openSpan_padded padded hm)
    | offset distance => exact absurd ha (undistanced distance)
    | targetSearch => exact targetLine_padded _ padded hm

theorem run_padded_partedLog :
    ((verilator none).run partedLog { partedDump with
        lines := ["timestamp: 7", "v1.2", "10: auipc", "18: jal", ""].map String.toList }).map
      (Outcome.relabel .unnumberedCandidate) =
        ((verilator none).run partedLog partedDump).map (Outcome.relabel .unnumberedCandidate) ∧
    ∃ o o', (verilator none).run partedLog partedDump = .ok o ∧
      (verilator none).run { partedLog with
        lines := ["boot pc=[4]", "Writing", "Writing", "pc=10", "pc=[0010]", "idle",
          "pc=[14]"].map String.toList } partedDump = .ok o' ∧
      o'.relabel .unnumberedReference = o.relabel .unnumberedReference ∧
      o.startLine = some 2 ∧ o'.startLine = some 4 ∧ o.comparison.divergence.isSome := by
  refine ⟨?_, ?_⟩
  · exact (run_padded (verilator none) partedLog partedDump _).1
      (.keep _ (.insert _ rfl (.keep _ (.keep _ (.insert _ rfl .nil)))))
  · obtain ⟨o, ran, start, diverged⟩ :
        ∃ o, (verilator none).run partedLog partedDump = .ok o ∧ o.startLine = some 2 ∧
          o.comparison.divergence.isSome := ⟨_, rfl, rfl, rfl⟩
    have padded : (verilator none).PaddedAfterStart
        (["boot pc=[4]", "Writing"].map String.toList ++
          ["pc=[0010]", "idle", "pc=[14]"].map String.toList)
        (["boot pc=[4]", "Writing"].map String.toList ++
          ["Writing", "pc=10", "pc=[0010]", "idle", "pc=[14]"].map String.toList) :=
      .of_marker rfl (List.mem_cons_of_mem _ List.mem_cons_self) (List.infix_refl _)
        (.insert _ rfl (.insert _ rfl (.refl _ _)))
    have same := (run_padded (verilator none) partedLog partedDump _).2 nofun padded
    rw [ran] at same
    obtain ⟨o', ran', relabeled⟩ := map_eq_ok_iff.mp same
    refine ⟨o, o', ran, ran', relabeled, start, ?_, diverged⟩
    cases ran'
    rfl

end Configuration

end Lockstep
