import Lockstep.Proofs.Outcome.WellFormed
import Lockstep.Proofs.Trace.Listing

set_option autoImplicit false
set_option relaxedAutoImplicit false

/-!
Runs that search for the candidate's first address. The search looks at lines and the comparison at
records, each with the extractor of the reference; they meet in that the line at which the search ends
carries the first record that is compared, and this record matches.
-/

namespace Lockstep.Configuration

variable {config : Configuration} {reference candidate : TraceFile} {o : Outcome}

theorem run_targetSearch_eq_ok_iff {first : Record} {rest : List Record}
    (searching : config.alignment = .targetSearch)
    (records : config.candidate.records candidate.lines = first :: rest) :
    config.run reference candidate = .ok o ↔
      ∃ s j, config.StartsAt reference.lines s ∧
        IsFirstLine reference.lines (s - 1)
          (fun line => Alignment.carries config.reference config.rule first.key line = true) j ∧
        config.outcome reference candidate (first :: rest)
          (config.windowSpan reference (first :: rest) j) = o := by
  rw [run_eq_ok_iff, records]
  constructor
  · rintro ⟨marked, span, hm, aligned, rfl⟩
    rw [align, searching] at aligned
    obtain ⟨j, found, rfl⟩ := map_eq_ok_iff.mp aligned
    have starts : config.StartsAt reference.lines (marked.getD 0) :=
      startsAt_iff.mpr ⟨marked, hm, rfl⟩
    rcases targetLine_eq_ok_iff.mp found with ⟨none, -⟩ | ⟨_, _, same, line⟩
    · cases none
    · cases same
      exact ⟨_, j, starts, line, rfl⟩
  · rintro ⟨s, j, starts, line, rfl⟩
    obtain ⟨marked, hm, rfl⟩ := startsAt_iff.mp starts
    have found : config.targetLine reference (first :: rest) marked = .ok j :=
      targetLine_eq_ok_iff.mpr (.inr ⟨first, rest, rfl, line⟩)
    have aligned : config.align reference (first :: rest) marked =
        .ok (config.windowSpan reference (first :: rest) j) := by
      rw [align, searching]
      exact map_eq_ok_iff.mpr ⟨j, found, rfl⟩
    exact ⟨marked, _, hm, aligned, rfl⟩

/-- A run that searches for the candidate's first address begins on a match. It starts at the least line
from the one before the start on whose address matches, the record of this line is the first that is
compared, and it matches, so that a divergence can only come behind it. -/
theorem run_targetSearch_begins_on_match {first : Record} {rest : List Record}
    (searching : config.alignment = .targetSearch)
    (records : config.candidate.records candidate.lines = first :: rest)
    (h : config.run reference candidate = .ok o) :
    ∃ s j r all, config.StartsAt reference.lines s ∧ o.startLine = some j ∧
      IsFirstLine reference.lines (s - 1)
        (fun line => ∃ key text, config.reference.extract? line = some (key, text) ∧
          config.rule.admits key first.key = true) j ∧
      config.reference.Lists j reference.lines (r :: all) ∧ r.line = j ∧
      o.comparison =
        .positional (r :: all.take rest.length) (first :: rest) config.rule config.driver ∧
      1 ≤ o.comparison.matched ∧ o.comparison.lastMatch.isSome ∧
      ∀ d, o.comparison.divergence = some d → 1 ≤ d.index := by
  obtain ⟨s, j, starts, line, rfl⟩ := (run_targetSearch_eq_ok_iff searching records).mp h
  simp only [Alignment.carries_iff] at line
  obtain ⟨text, found, key, shown, extracted, admitted⟩ := line.holds
  have listed := config.reference.lists_recordsAfter j reference.lines
  have head := listed.head?_eq found extracted
  obtain ⟨all, split⟩ : ∃ all,
      config.reference.recordsAfter j reference.lines = ⟨j, key, shown⟩ :: all :=
    List.head?_eq_some_iff.mp head
  have windowed : (config.windowSpan reference (first :: rest) j).records =
      ⟨j, key, shown⟩ :: all.take rest.length := by
    rw [windowSpan, Extractor.window, split, List.length_cons, List.take_succ_cons]
  have positional : config.alignment ≠ .membership := by simp [searching]
  have compared := compare_of_ne_membership positional (⟨j, key, shown⟩ :: all.take rest.length)
    (first :: rest)
  have ties := config.compare_wellFormed (⟨j, key, shown⟩ :: all.take rest.length) (first :: rest)
  rw [compared] at ties
  have matched : 1 ≤ (Comparison.positional (⟨j, key, shown⟩ :: all.take rest.length)
      (first :: rest) config.rule config.driver).matched := by
    rw [Comparison.positional_eq]
    exact config.rule.one_le_agreement admitted (all.take rest.length) rest
  rw [split] at listed
  refine ⟨s, j, ⟨j, key, shown⟩, all, starts, rfl, line, listed, rfl, ?_⟩
  rw [outcome, windowed, compared]
  exact ⟨rfl, matched, ties.of_one_le_matched matched⟩

theorem run_targetSearch_begins_on_match_partedLog :
    ∃ o r all, (verilator none).run partedLog partedDump = .ok o ∧ o.startLine = some 2 ∧
      Extractor.commitLog.Lists 2 partedLog.lines (r :: all) ∧ r.line = 2 ∧
      1 ≤ o.comparison.matched ∧ o.comparison.lastMatch.isSome ∧
      ∀ d, o.comparison.divergence = some d → 1 ≤ d.index := by
  obtain ⟨o, ran, start⟩ :
      ∃ o, (verilator none).run partedLog partedDump = .ok o ∧ o.startLine = some 2 :=
    ⟨_, rfl, rfl⟩
  obtain ⟨s, j, r, all, -, started, -, listed, line, -, matched⟩ :=
    run_targetSearch_begins_on_match rfl rfl ran
  obtain rfl : 2 = j := Option.some.inj (start.symm.trans started)
  exact ⟨o, r, all, ran, start, listed, line, matched⟩

end Lockstep.Configuration

/-!
Faithful and corrupted dumps of a commit log. A dump that holds the addresses of the log from some
line on is found there and matches in full, and a dump that departs from them is told so at the
position where it does, provided that no line before matches the address with which it begins.
-/

namespace Lockstep

namespace Configuration

variable {reference candidate : TraceFile}

section Verilator

variable {rule : MatchRule} {s j : Nat} {key : Key} {pcs dump : List Record}

theorem verilator_run_eq_ok
    (marked : IsFirstLine reference.lines 0 (startMarker <:+: ·) s) (near : s - 1 ≤ j)
    (carried : ∃ line text, reference.lines[j]? = some line ∧
      Extractor.commitLog.extract? line = some (key, text))
    (first : ∀ i line other text, s - 1 ≤ i → i < j → reference.lines[i]? = some line →
      Extractor.commitLog.extract? line = some (other, text) → rule.admits other key = false)
    (hpcs : Extractor.commitLog.Lists j reference.lines pcs)
    (hdump : (Extractor.addressed (some timestampMarker)).Lists 0 candidate.lines dump)
    (begins : (dump.take 1).map Record.key = (pcs.take 1).map Record.key) :
    ∃ o, ((verilator none).set (.rule rule)).run reference candidate = .ok o ∧
      o.startLine = some j ∧
      o.comparison = .positional (pcs.take dump.length) dump rule .candidate := by
  obtain ⟨line, text, found, extracted⟩ := carried
  have head := hpcs.head?_eq found extracted
  obtain ⟨r, rs, rfl⟩ : ∃ r rs, pcs = r :: rs := List.exists_cons_of_ne_nil (by
    rintro rfl
    simp at head)
  obtain rfl : r = ⟨j, key, text⟩ := Option.some.inj head
  obtain ⟨c, cs, rfl⟩ : ∃ c cs, dump = c :: cs := List.exists_cons_of_ne_nil (by
    rintro rfl
    simp at begins)
  have same : c.key = key := by simpa using begins
  have line : IsFirstLine reference.lines (s - 1)
      (fun line => Alignment.carries Extractor.commitLog rule c.key line = true) j := by
    rw [same]
    refine ⟨near, ⟨line, found, ?_⟩, ?_⟩
    · exact Alignment.carries_iff.mpr ⟨key, text, extracted, rule.admits_self key⟩
    · intro i line hs hj hline carries
      obtain ⟨other, text, extracted, admitted⟩ := Alignment.carries_iff.mp carries
      rw [first i line other text hs hj hline extracted] at admitted
      cases admitted
  have records : ((verilator none).set (.rule rule)).candidate.records candidate.lines = c :: cs :=
    hdump.eq_recordsAfter.symm
  have ran : ((verilator none).set (.rule rule)).run reference candidate = .ok _ :=
    (run_targetSearch_eq_ok_iff rfl records).mpr ⟨s, j, marked, line, rfl⟩
  refine ⟨_, ran, rfl, ?_⟩
  rw [hpcs.eq_recordsAfter]
  rfl

/-- A faithful dump is never blamed, and a corrupted one is blamed at its first departure from the
log. The log starts at its first line with the start marker, `j` is the first line at or after the
one before with a record that the dump's first address matches, and `pcs` are the records from `j`
on. -/
theorem verilator_run_faithful {n : Nat}
    (marked : IsFirstLine reference.lines 0 (startMarker <:+: ·) s) (near : s - 1 ≤ j)
    (carried : ∃ line text, reference.lines[j]? = some line ∧
      Extractor.commitLog.extract? line = some (key, text))
    (first : ∀ i line other text, s - 1 ≤ i → i < j → reference.lines[i]? = some line →
      Extractor.commitLog.extract? line = some (other, text) → rule.admits other key = false)
    (hpcs : Extractor.commitLog.Lists j reference.lines pcs) (pos : 1 ≤ n) (enough : n ≤ pcs.length)
    (hdump : (Extractor.addressed (some timestampMarker)).Lists 0 candidate.lines dump) :
    (dump.map Record.key = (pcs.take n).map Record.key →
      ∃ o, ((verilator none).set (.rule rule)).run reference candidate = .ok o ∧
        o.startLine = some j ∧ o.comparison.matched = n ∧ o.comparison.divergence = none) ∧
    ∀ k r c, 1 ≤ k → k < n → (dump.take k).map Record.key = (pcs.take k).map Record.key →
      pcs[k]? = some r → dump[k]? = some c → rule.admits r.key c.key = false →
      ∃ o, ((verilator none).set (.rule rule)).run reference candidate = .ok o ∧
        o.startLine = some j ∧ o.comparison.matched = k ∧
        o.comparison.divergence = some ⟨k, .mismatch, some r, some c⟩ ∧
        o.comparison.lastMatch = pcs[k - 1]? := by
  refine ⟨?_, ?_⟩
  · intro keys
    have length : dump.length = n := by
      have lengths := congrArg List.length keys
      simp only [List.length_map, List.length_take] at lengths
      omega
    have begins : (dump.take 1).map Record.key = (pcs.take 1).map Record.key := by
      rw [List.map_take, keys, ← List.map_take, List.take_take, Nat.min_eq_left pos]
    obtain ⟨o, ran, start, compared⟩ :=
      verilator_run_eq_ok marked near carried first hpcs hdump begins
    have same : dump.map Record.key = ((pcs.take dump.length).take dump.length).map Record.key := by
      rw [List.take_take, Nat.min_self, length, keys]
    obtain ⟨matched, undiverged⟩ := Comparison.positional_of_keys_eq rule same
    rw [← compared] at matched undiverged
    exact ⟨o, ran, start, matched.trans length, undiverged⟩
  · intro k r c hk hkn keys hr hc refused
    have within : k < dump.length := (List.getElem?_eq_some_iff.mp hc).1
    have begins : (dump.take 1).map Record.key = (pcs.take 1).map Record.key := by
      have cut := congrArg (List.take 1) keys
      simpa only [← List.map_take, List.take_take, Nat.min_eq_left hk] using cut
    obtain ⟨o, ran, start, compared⟩ :=
      verilator_run_eq_ok marked near carried first hpcs hdump begins
    have cut : (pcs.take dump.length).take k = pcs.take k := by
      rw [List.take_take, Nat.min_eq_left (Nat.le_of_lt within)]
    have windowed : (pcs.take dump.length)[k]? = some r := by
      rw [List.getElem?_take_of_lt within, hr]
    have departed := Comparison.positional_of_departure rule .candidate windowed hc
      (by rw [cut, keys]) refused
    rw [departed, cut] at compared
    have last : (pcs.take k).getLast? = pcs[k - 1]? := by
      have inside : k - 1 < pcs.length := by omega
      rw [List.getLast?_take, if_neg (by omega), List.getElem?_eq_getElem inside, Option.some_or]
    refine ⟨o, ran, start, ?_⟩
    rw [compared]
    exact ⟨rfl, rfl, last⟩

theorem verilator_run_faithful_partedLog :
    (∃ o, ((verilator none).set (.rule .contains)).run partedLog
        ⟨"dump".toList, ["0x10: auipc", "flush", "14: jal"].map String.toList⟩ = .ok o ∧
      o.startLine = some 2 ∧ o.comparison.matched = 2 ∧ o.comparison.divergence = none) ∧
    ∃ o r c, ((verilator none).set (.rule .contains)).run partedLog partedDump = .ok o ∧
      o.comparison.divergence = some ⟨1, .mismatch, some r, some c⟩ ∧ r.line = 4 ∧ c.line = 2 := by
  have marked : IsFirstLine partedLog.lines 0 (startMarker <:+: ·) 1 :=
    Alignment.markerLine?_eq_some_iff.mp rfl
  have carried : ∃ line text, partedLog.lines[2]? = some line ∧
      Extractor.commitLog.extract? line = some (⟨"10".toList⟩, text) := ⟨_, _, rfl, rfl⟩
  have first : ∀ i line other text, 1 - 1 ≤ i → i < 2 → partedLog.lines[i]? = some line →
      Extractor.commitLog.extract? line = some (other, text) →
      MatchRule.contains.admits other ⟨"10".toList⟩ = false := by
    intro i line other text _ hi found extracted
    obtain rfl | rfl : i = 0 ∨ i = 1 := by omega
    · obtain rfl := Option.some.inj found
      obtain ⟨rfl, -⟩ := Prod.mk.inj (Option.some.inj extracted)
      rfl
    · obtain rfl := Option.some.inj found
      cases extracted
  have pcs := Extractor.commitLog.lists_recordsAfter 2 partedLog.lines
  have dump (file : TraceFile) :=
    (Extractor.addressed (some timestampMarker)).lists_recordsAfter 0 file.lines
  refine ⟨?_, ?_⟩
  · exact (verilator_run_faithful (n := 2) marked (by decide) carried first pcs (by decide)
      (by decide) (dump _)).1 (by decide)
  · obtain ⟨o, ran, -, -, diverged, -⟩ :=
      (verilator_run_faithful (n := 2) marked (by decide) carried first pcs (by decide)
        (by decide) (dump partedDump)).2 1 _ _ (by decide) (by decide) (by decide) rfl rfl
          (by decide)
    exact ⟨o, _, _, ran, diverged, rfl, rfl⟩

end Verilator

end Configuration

end Lockstep
