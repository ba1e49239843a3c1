import Lockstep.Proofs.Comparison.Agreement
import Lockstep.Proofs.Configuration.Resolution
import Lockstep.Proofs.Trace.Listing

set_option autoImplicit false
set_option relaxedAutoImplicit false

/-!
Windows on the reference. A distance and a search leave to the comparison no more records of the
reference than the candidate has. A driving candidate cannot tell such a window from all that is
behind it; a driving reference takes the window for all there is, and what the candidate lacks goes
unnoticed.
-/

namespace Lockstep

namespace Alignment

/-- The alignments that cut the reference to the length of the candidate. -/
def IsWindowed : Alignment → Prop
  | .membership | .sequential => False
  | .offset _ | .targetSearch => True

/-- What an alignment leaves of the reference records for a candidate with `count` records. -/
def cut (alignment : Alignment) (count : Nat) (records : List Record) : List Record :=
  match alignment with
  | .membership | .sequential => records
  | .offset _ | .targetSearch => records.take count

variable {alignment : Alignment}

theorem IsWindowed.ne_membership (h : alignment.IsWindowed) : alignment ≠ .membership := by
  rintro rfl
  exact h

theorem IsWindowed.ne_sequential (h : alignment.IsWindowed) : alignment ≠ .sequential := by
  rintro rfl
  exact h

theorem isWindowed_or_eq_sequential (h : alignment ≠ .membership) :
    alignment.IsWindowed ∨ alignment = .sequential := by
  cases alignment with
  | membership => exact absurd rfl h
  | sequential => exact .inr rfl
  | offset | targetSearch => exact .inl trivial

theorem IsWindowed.cut_eq (h : alignment.IsWindowed) (count : Nat) (records : List Record) :
    alignment.cut count records = records.take count := by
  cases alignment with
  | membership | sequential => exact h.elim
  | offset | targetSearch => rfl

end Alignment

namespace Configuration

variable {config : Configuration} {reference candidate : TraceFile} {o : Outcome}
  {all : List Record}

/-- A span has what its alignment leaves of all records from its start on, and the start is a certain
line where the alignment cuts. -/
theorem align_eq_cut {records : List Record} {marked : Option Nat} {span : Span}
    (h : config.align reference records marked = .ok span) :
    span.records = config.alignment.cut records.length
        (config.reference.recordsAfter (span.startLine.getD 0) reference.lines) ∧
      (config.alignment.IsWindowed → ∃ start, span.startLine = some start) := by
  unfold align at h
  cases ha : config.alignment with
  | membership | sequential =>
    simp only [ha, Except.ok.injEq] at h
    subst h
    exact ⟨rfl, False.elim⟩
  | offset | targetSearch =>
    simp only [ha, map_eq_ok_iff] at h
    obtain ⟨start, -, rfl⟩ := h
    exact ⟨rfl, fun _ => ⟨start, rfl⟩⟩

theorem run_eq_cut (h : config.run reference candidate = .ok o)
    (listed : config.reference.Lists (o.startLine.getD 0) reference.lines all) :
    o.referenceRecords =
        (config.alignment.cut (config.candidate.records candidate.lines).length all).length ∧
      o.comparison = config.compare
        (config.alignment.cut (config.candidate.records candidate.lines).length all)
        (config.candidate.records candidate.lines) ∧
      (config.alignment.IsWindowed → ∃ start, o.startLine = some start) := by
  obtain ⟨marked, span, -, ha, rfl⟩ := run_eq_ok_iff.mp h
  obtain ⟨cut, start⟩ := align_eq_cut ha
  rw [listed.eq_recordsAfter]
  exact ⟨congrArg List.length cut, congrArg (config.compare · _) cut, start⟩

/-- The cut of the reference cannot be observed when the candidate drives: the comparison is that with
all records from the start line on, and the records that take part are as many as both sides have. -/
theorem run_window_unobservable (h : config.run reference candidate = .ok o)
    (driver : config.driver = .candidate) (windowed : config.alignment.IsWindowed) :
    ∃ start all, o.startLine = some start ∧ config.reference.Lists start reference.lines all ∧
      o.comparison =
        .positional all (config.candidate.records candidate.lines) config.rule .candidate ∧
      o.referenceRecords = min (config.candidate.records candidate.lines).length all.length := by
  have listed := config.reference.lists_recordsAfter (o.startLine.getD 0) reference.lines
  obtain ⟨count, compared, started⟩ := run_eq_cut h listed
  obtain ⟨start, hs⟩ := started windowed
  rw [windowed.cut_eq] at count compared
  rw [compare_of_ne_membership windowed.ne_membership, driver,
    Comparison.positional_take config.rule (Nat.le_refl _)] at compared
  rw [hs] at listed compared count
  exact ⟨start, _, hs, listed, compared, count.trans List.length_take⟩

def briefDump : TraceFile :=
  ⟨"dump".toList, ["timestamp: 7", "10: auipc"].map String.toList⟩

theorem run_window_unobservable_briefDump :
    ∃ o all, (verilator none).run partedLog briefDump = .ok o ∧ o.startLine = some 2 ∧
      Extractor.commitLog.Lists 2 partedLog.lines all ∧ all.length = 2 ∧
      o.comparison =
        .positional all ((verilator none).candidate.records briefDump.lines) .contains .candidate ∧
      o.referenceRecords = 1 := by
  obtain ⟨o, ran, hs⟩ :
      ∃ o, (verilator none).run partedLog briefDump = .ok o ∧ o.startLine = some 2 := ⟨_, rfl, rfl⟩
  obtain ⟨start, all, started, listed, compared, count⟩ := run_window_unobservable ran rfl trivial
  obtain rfl : 2 = start := Option.some.inj (hs.symm.trans started)
  have length : all.length = 2 := by
    rw [listed.eq_recordsAfter]
    rfl
  rw [length] at count
  exact ⟨o, all, ran, hs, listed, length, compared, count⟩

/-- With a driving reference, records of the reference beyond the length of the candidate make a
divergence exactly when nothing cuts them off, or else records that do not match come before. Where
they are cut off, the end of the candidate is no divergence itself. -/
theorem divergence_ne_none_iff_of_surplus (h : config.run reference candidate = .ok o)
    (driver : config.driver = .reference) (positional : config.alignment ≠ .membership)
    (listed : config.reference.Lists (o.startLine.getD 0) reference.lines all)
    (surplus : (config.candidate.records candidate.lines).length < all.length) :
    (o.comparison.divergence ≠ none ↔
      config.alignment = .sequential ∨
        ∃ (i : Nat) (r c : Record), all[i]? = some r ∧
          (config.candidate.records candidate.lines)[i]? = some c ∧
          config.rule.admits r.key c.key = false) ∧
    (config.alignment ≠ .sequential →
      ∀ d, o.comparison.divergence = some d → d.kind = .mismatch) := by
  obtain ⟨-, compared, -⟩ := run_eq_cut h listed
  rw [compared, compare_of_ne_membership positional, driver, Ne,
    Comparison.positional_divergence_eq_none_iff, ← config.rule.agreement_lt_min_iff,
    Nat.min_eq_right (Nat.le_of_lt surplus)]
  have bound := config.rule.agreement_le_candidate all (config.candidate.records candidate.lines)
  rcases Alignment.isWindowed_or_eq_sequential positional with windowed | sequential
  · have length : (all.take (config.candidate.records candidate.lines).length).length =
        (config.candidate.records candidate.lines).length :=
      List.length_take_of_le (Nat.le_of_lt surplus)
    rw [windowed.cut_eq, config.rule.agreement_take (Nat.le_refl _), Driver.positions, length,
      or_iff_right windowed.ne_sequential]
    refine ⟨by omega, ?_⟩
    intro _ d
    exact Comparison.positional_kind_of_length_eq config.rule .reference length
  · refine ⟨iff_of_true ?_ (.inl sequential), fun other => absurd sequential other⟩
    rw [sequential, Alignment.cut, Driver.positions]
    omega

theorem divergence_ne_none_iff_of_surplus_briefDump :
    ∃ o all, (((verilator none).set (.driver .reference)).set (.alignment .sequential)).run
        partedLog briefDump = .ok o ∧
      Extractor.commitLog.Lists (o.startLine.getD 0) partedLog.lines all ∧
      ((verilator none).candidate.records briefDump.lines).length < all.length ∧
      o.comparison.divergence ≠ none := by
  obtain ⟨o, ran, start⟩ :
      ∃ o, (((verilator none).set (.driver .reference)).set (.alignment .sequential)).run
        partedLog briefDump = .ok o ∧ o.startLine = some 1 := ⟨_, rfl, rfl⟩
  have listed := Extractor.commitLog.lists_recordsAfter (o.startLine.getD 0) partedLog.lines
  have surplus : ((verilator none).candidate.records briefDump.lines).length <
      (Extractor.commitLog.recordsAfter (o.startLine.getD 0) partedLog.lines).length := by
    rw [start]
    decide
  refine ⟨o, _, ran, listed, surplus, ?_⟩
  exact (divergence_ne_none_iff_of_surplus ran rfl (by decide) listed surplus).1.mpr (.inl rfl)

/-- A search and a distance let the dump pass as far as it goes, although the reference drives and has
one record more. -/
theorem windowed_surplus_unnoticed :
    (∃ o all, ((verilator none).set (.driver .reference)).run partedLog briefDump = .ok o ∧
      Extractor.commitLog.Lists (o.startLine.getD 0) partedLog.lines all ∧
      ((verilator none).candidate.records briefDump.lines).length < all.length ∧
      o.comparison.divergence = none) ∧
    ∃ o all, ((verilator (some 2)).set (.driver .reference)).run partedLog briefDump = .ok o ∧
      Extractor.commitLog.Lists (o.startLine.getD 0) partedLog.lines all ∧
      ((verilator (some 2)).candidate.records briefDump.lines).length < all.length ∧
      o.comparison.divergence = none := by
  have listed := Extractor.commitLog.lists_recordsAfter 2 partedLog.lines
  exact ⟨⟨_, _, rfl, listed, by decide, rfl⟩, _, _, rfl, listed, by decide, rfl⟩

end Configuration

/-!
Runs under a looser rule. A rule that admits more lets a search stop earlier and a comparison by
position go on further. As long as the start stays where it was, traces agree at least as far as
before, and where they agreed in full nothing changes.
-/

variable {rule rule' : MatchRule}

namespace Alignment

theorem carries_of_implies (looser : rule.Implies rule') {e : Extractor} {target : Key} {line : Text}
    (h : carries e rule target line = true) : carries e rule' target line = true := by
  obtain ⟨key, text, extracted, admitted⟩ := carries_iff.mp h
  exact carries_iff.mpr ⟨key, text, extracted, looser key target admitted⟩

theorem searchTarget?_of_implies (looser : rule.Implies rule') {lines : List Text} {start j : Nat}
    {e : Extractor} {target : Key} (h : searchTarget? lines start e target rule = some j) :
    ∃ i ≤ j, searchTarget? lines start e target rule' = some i := by
  obtain ⟨offset, found, rfl⟩ := Option.map_eq_some_iff.mp h
  obtain ⟨offset', earlier, found'⟩ := List.findIdx?_eq_some_le_of_findIdx?_eq_some
    (fun line _ => carries_of_implies looser) found
  refine ⟨offset' + start, Nat.add_le_add_right earlier start, ?_⟩
  rw [searchTarget?, found', Option.map_some]

end Alignment

namespace Configuration

variable {config : Configuration} {reference candidate : TraceFile} {records : List Record}
  {marked : Option Nat}

theorem targetLine_of_implies (looser : rule.Implies rule') {j : Nat}
    (h : (config.set (.rule rule)).targetLine reference records marked = .ok j) :
    ∃ i ≤ j, (config.set (.rule rule')).targetLine reference records marked = .ok i := by
  cases records with
  | nil => exact ⟨j, Nat.le_refl j, h⟩
  | cons first rest =>
    simp only [targetLine, set] at h ⊢
    cases found : Alignment.searchTarget? reference.lines (searchStart marked) config.reference
        first.key rule with
    | none => simp [found] at h
    | some line =>
      simp only [found, Except.ok.injEq] at h
      subst h
      obtain ⟨i, earlier, found'⟩ := Alignment.searchTarget?_of_implies looser found
      exact ⟨i, earlier, by rw [found']⟩

/-- Under a looser rule an alignment still succeeds. Only a search can start elsewhere, and then it
starts before; the same start makes the same span. -/
theorem align_of_implies (looser : rule.Implies rule') {span : Span}
    (h : (config.set (.rule rule)).align reference records marked = .ok span) :
    ∃ span', (config.set (.rule rule')).align reference records marked = .ok span' ∧
      (config.alignment ≠ .targetSearch → span' = span) ∧
      (config.alignment = .targetSearch →
        ∃ i j, span'.startLine = some i ∧ span.startLine = some j ∧ i ≤ j) ∧
      (span'.startLine = span.startLine → span' = span) := by
  by_cases searching : config.alignment = .targetSearch
  · have aligned (rule : MatchRule) :
        (config.set (.rule rule)).align reference records marked =
          ((config.set (.rule rule)).targetLine reference records marked).map
            (config.windowSpan reference records) := by
      rw [align]
      simp only [set, searching]
      rfl
    rw [aligned, map_eq_ok_iff] at h
    obtain ⟨j, found, rfl⟩ := h
    obtain ⟨i, earlier, found'⟩ := targetLine_of_implies looser found
    refine ⟨config.windowSpan reference records i, ?_, ?_, ?_, ?_⟩
    · rw [aligned, found']
      rfl
    · exact fun other => absurd searching other
    · exact fun _ => ⟨i, j, rfl, rfl, earlier⟩
    · intro same
      rw [Option.some.inj same]
  · have unruled : (config.set (.rule rule')).align reference records marked =
        (config.set (.rule rule)).align reference records marked := by
      cases ha : config.alignment with
      | membership | sequential | offset =>
        simp only [align, set, ha]
        rfl
      | targetSearch => exact absurd ha searching
    exact ⟨span, unruled.trans h, fun _ => rfl, fun same => absurd same searching, fun _ => rfl⟩

theorem compare_of_implies (looser : rule.Implies rule') (config : Configuration)
    (r c : List Record) :
    ((config.set (.rule rule)).compare r c).matched ≤
        ((config.set (.rule rule')).compare r c).matched ∧
      (((config.set (.rule rule)).compare r c).divergence = none →
        (config.set (.rule rule')).compare r c = (config.set (.rule rule)).compare r c) := by
  by_cases ha : config.alignment = .membership
  · have unruled (rule : MatchRule) :
        (config.set (.rule rule)).compare r c = .membership r (.ofRecords c) := by
      apply compare_of_membership
      exact ha
    rw [unruled, unruled]
    exact ⟨Nat.le_refl _, fun _ => rfl⟩
  · have ruled (rule : MatchRule) :
        (config.set (.rule rule)).compare r c = .positional r c rule config.driver := by
      apply compare_of_ne_membership
      exact ha
    rw [ruled, ruled]
    refine ⟨?_, ?_⟩
    · rw [Comparison.positional_eq, Comparison.positional_eq]
      exact MatchRule.agreement_le_of_implies looser r c
    · exact Comparison.positional_eq_of_settled rule config.driver looser (List.prefix_refl r)
        (List.prefix_refl c) rfl

/-- A run that succeeds under exact matching succeeds when the candidate's digits need only occur in
those of the reference. It starts at the same line, or earlier after a search; from the same line it
matches at least as far, and it leaves a comparison without divergence as it is. -/
theorem run_contains_of_run_exact {e : Outcome}
    (h : (config.set (.rule .exact)).run reference candidate = .ok e) :
    ∃ c, (config.set (.rule .contains)).run reference candidate = .ok c ∧
      (config.alignment ≠ .targetSearch → c.startLine = e.startLine) ∧
      (config.alignment = .targetSearch →
        ∃ i j, c.startLine = some i ∧ e.startLine = some j ∧ i ≤ j) ∧
      (c.startLine = e.startLine →
        e.comparison.matched ≤ c.comparison.matched ∧
          (e.comparison.divergence = none → c.comparison = e.comparison)) := by
  obtain ⟨marked, span, hm, ha, rfl⟩ := run_eq_ok_iff.mp h
  obtain ⟨span', ha', unsearched, searched, same⟩ :=
    align_of_implies MatchRule.exact_implies_contains ha
  refine ⟨_, run_eq_ok_iff.mpr ⟨marked, span', hm, ha', rfl⟩, ?_, searched, ?_⟩
  · intro other
    exact congrArg Span.startLine (unsearched other)
  · intro start
    obtain rfl : span' = span := same start
    exact compare_of_implies MatchRule.exact_implies_contains config span'.records
      (config.candidate.records candidate.lines)

theorem run_contains_of_run_exact_partedLog :
    ∃ e c, ((verilator none).set (.rule .exact)).run partedLog
        ⟨"dump".toList, ["10: auipc", "4: jal"].map String.toList⟩ = .ok e ∧
      ((verilator none).set (.rule .contains)).run partedLog
        ⟨"dump".toList, ["10: auipc", "4: jal"].map String.toList⟩ = .ok c ∧
      c.startLine = e.startLine ∧ e.comparison.matched = 1 ∧ 1 ≤ c.comparison.matched := by
  obtain ⟨e, exact, start, matched⟩ :
      ∃ e, ((verilator none).set (.rule .exact)).run partedLog
          ⟨"dump".toList, ["10: auipc", "4: jal"].map String.toList⟩ = .ok e ∧
        e.startLine = some 2 ∧ e.comparison.matched = 1 := ⟨_, rfl, rfl, rfl⟩
  obtain ⟨c, contains, -, -, further⟩ := run_contains_of_run_exact exact
  have same : c.startLine = e.startLine := by
    cases contains
    exact start.symm
  have reached := (further same).1
  rw [matched] at reached
  exact ⟨e, c, exact, contains, same, matched, reached⟩

end Configuration

end Lockstep
