import Lockstep.Session
import Lockstep.Proofs.Comparison.Agreement
import Lockstep.Proofs.Comparison.Index
import Lockstep.Proofs.Configuration.Resolution
import Lockstep.Proofs.Trace.Listing

set_option autoImplicit false
set_option relaxedAutoImplicit false

/-!
Runs on traces that grow. Lines that are appended to a trace come behind all that a run has looked
at, so the reference still starts at the same line and the span that takes part only gets longer: a
mismatch stays what it was, and the traces never come to agree on less.
-/

namespace Lockstep.Configuration

variable {config : Configuration} {reference candidate : TraceFile} {marked : Option Nat}
  {records records' : List Record}

theorem markedLine_append (h : config.markedLine reference = .ok marked) (more : List Text) :
    config.markedLine (reference.append more) = .ok marked := by
  unfold markedLine at h ⊢
  cases hm : config.marker with
  | none => simpa only [hm] using h
  | some marker =>
    simp only [hm] at h
    cases found : Alignment.markerLine? marker reference.lines with
    | none => simp [found] at h
    | some line =>
      have still := Alignment.markerLine?_append found more
      simpa only [TraceFile.append, still, found] using h

theorem targetLine_append {line : Nat} (h : config.targetLine reference records marked = .ok line)
    (first : records.head? = records'.head?) (more : List Text) :
    config.targetLine (reference.append more) records' marked = .ok line := by
  cases records with
  | nil =>
    rw [List.head?_nil, eq_comm, List.head?_eq_none_iff] at first
    subst first
    exact h
  | cons r rs =>
    obtain ⟨rs', rfl⟩ : ∃ rs', records' = r :: rs' := by
      cases records' with
      | nil => simp at first
      | cons r' rs' => exact ⟨rs', by simp_all⟩
    simp only [targetLine] at h ⊢
    cases found : Alignment.searchTarget? reference.lines (searchStart marked) config.reference
        r.key config.rule with
    | none => simp [found] at h
    | some j =>
      have still := Alignment.searchTarget?_append found more
      simpa only [TraceFile.append, still, found] using h

theorem align_append {span : Span} (h : config.align reference records marked = .ok span)
    (hc : records <+: records')
    (first : config.alignment = .targetSearch → records.head? = records'.head?) (more : List Text) :
    ∃ span', config.align (reference.append more) records' marked = .ok span' ∧
      span'.startLine = span.startLine ∧ span.records <+: span'.records := by
  have window (line : Nat) :
      (config.windowSpan reference records line).records <+:
        (config.windowSpan (reference.append more) records' line).records :=
    config.reference.window_prefix line reference.lines more hc.length_le
  have opened : (config.openSpan reference marked).records <+:
      (config.openSpan (reference.append more) marked).records :=
    config.reference.recordsAfter_prefix _ reference.lines more
  unfold align at h ⊢
  cases ha : config.alignment with
  | membership | sequential =>
    simp only [ha, Except.ok.injEq] at h
    subst h
    exact ⟨_, rfl, rfl, opened⟩
  | offset distance =>
    simp only [ha, map_eq_ok_iff] at h ⊢
    obtain ⟨line, found, rfl⟩ := h
    have longer : reference.lines.length ≤ (reference.append more).lines.length := by
      simp [TraceFile.append]
    have still := Alignment.offsetStart_mono longer found
    exact ⟨_, ⟨line, still, rfl⟩, rfl, window line⟩
  | targetSearch =>
    simp only [ha, map_eq_ok_iff] at h ⊢
    obtain ⟨line, found, rfl⟩ := h
    have still := targetLine_append found (first ha) more
    exact ⟨_, ⟨line, still, rfl⟩, rfl, window line⟩

theorem compare_append (config : Configuration) {r r' c c' : List Record} (hr : r <+: r')
    (hc : c <+: c') :
    (config.compare r c).matched ≤ (config.compare r' c').matched ∧
      ∀ d, (config.compare r c).divergence = some d → d.kind = .mismatch →
        config.compare r' c' = config.compare r c := by
  by_cases ha : config.alignment = .membership
  · simp only [compare_of_membership ha, Comparison.membership_eq]
    refine ⟨?_, ?_⟩
    · apply KeyIndex.presence_mono hr
      intro k
      rw [KeyIndex.hasKey_ofRecords, KeyIndex.hasKey_ofRecords]
      rintro ⟨x, hx, rfl⟩
      exact ⟨x, hc.subset hx, rfl⟩
    · intro d hd mismatch
      obtain ⟨x, -, rfl⟩ := Option.map_eq_some_iff.mp hd
      cases mismatch
  · simp only [compare_of_ne_membership ha]
    refine ⟨?_, fun d => Comparison.positional_eq_of_mismatch config.rule config.driver hr hc⟩
    simp only [Comparison.positional_eq]
    exact config.rule.agreement_mono hr hc

/-- A run that succeeds succeeds on longer traces, from the same line and with what it has settled; a
search needs a target for that. -/
theorem exists_run_append {o : Outcome} (h : config.run reference candidate = .ok o)
    (target : config.alignment = .targetSearch → config.candidate.records candidate.lines ≠ [])
    (x y : List Text) :
    ∃ o', config.run (reference.append x) (candidate.append y) = .ok o' ∧
      o'.startLine = o.startLine ∧ o.comparison.matched ≤ o'.comparison.matched ∧
      ∀ d, o.comparison.divergence = some d → d.kind = .mismatch →
        o'.comparison = o.comparison := by
  obtain ⟨marked, span, hm, ha, rfl⟩ := run_eq_ok_iff.mp h
  have longer : config.candidate.records candidate.lines <+:
      config.candidate.records (candidate.append y).lines :=
    config.candidate.records_prefix candidate.lines y
  have first : config.alignment = .targetSearch →
      (config.candidate.records candidate.lines).head? =
        (config.candidate.records (candidate.append y).lines).head? := by
    intro searching
    obtain ⟨r, rs, hrs⟩ := List.exists_cons_of_ne_nil (target searching)
    obtain ⟨t, ht⟩ := longer
    rw [← ht, hrs]
    rfl
  obtain ⟨span', ha', start, grown⟩ := align_append ha longer first x
  have ran := run_eq_ok_iff.mpr ⟨marked, span', markedLine_append hm x, ha', rfl⟩
  exact ⟨_, ran, start, config.compare_append grown longer⟩

/-- Growing traces never rewrite what is settled. A run on longer traces succeeds from the same
start line and matches at least as far, with a mismatch kept as it was; a search needs a target for
that. A driving side that is used up without divergence settles the comparison against all growth of
the other side. -/
theorem run_append {o : Outcome} (h : config.run reference candidate = .ok o) (x y : List Text) :
    ((config.alignment = .targetSearch → config.candidate.records candidate.lines ≠ []) →
      ∃ o', config.run (reference.append x) (candidate.append y) = .ok o' ∧
        o'.startLine = o.startLine ∧ o.comparison.matched ≤ o'.comparison.matched ∧
        ∀ d, o.comparison.divergence = some d → d.kind = .mismatch →
          o'.comparison = o.comparison) ∧
    (config.alignment ≠ .membership → config.driver = .candidate →
      o.comparison.divergence = none →
      ∃ o', config.run (reference.append x) candidate = .ok o' ∧ o'.comparison = o.comparison) ∧
    (config.alignment = .sequential → config.driver = .reference →
      o.comparison.divergence = none →
      ∃ o', config.run reference (candidate.append y) = .ok o' ∧ o'.comparison = o.comparison) := by
  obtain ⟨marked, span, hm, ha, rfl⟩ := run_eq_ok_iff.mp h
  have longer : config.candidate.records candidate.lines <+:
      config.candidate.records (candidate.append y).lines :=
    config.candidate.records_prefix candidate.lines y
  refine ⟨fun target => exists_run_append h target x y, ?_, ?_⟩
  · intro positional driver matched
    have same := List.prefix_refl (config.candidate.records candidate.lines)
    obtain ⟨span', ha', -, grown⟩ := align_append ha same (fun _ => rfl) x
    refine ⟨_, run_eq_ok_iff.mpr ⟨marked, span', markedLine_append hm x, ha', rfl⟩, ?_⟩
    simp only [outcome, compare_of_ne_membership positional, driver] at matched ⊢
    exact Comparison.positional_eq_of_candidate_driver config.rule grown matched
  · intro sequential driver matched
    have positional : config.alignment ≠ .membership := by simp [sequential]
    have still : config.align reference (config.candidate.records (candidate.append y).lines)
        marked = .ok span := by
      simpa only [align, sequential] using ha
    refine ⟨_, run_eq_ok_iff.mpr ⟨marked, span, hm, still, rfl⟩, ?_⟩
    simp only [outcome, compare_of_ne_membership positional, driver] at matched ⊢
    exact Comparison.positional_eq_of_reference_driver config.rule longer matched

theorem run_append_partedLog :
    ∃ o o', (verilator none).run partedLog partedDump = .ok o ∧
      o.comparison.divergence.map (fun d => (d.index, d.kind)) = some (1, .mismatch) ∧
      (verilator none).run (partedLog.append ["pc=[18]".toList])
        (partedDump.append ["14: addi".toList]) = .ok o' ∧
      o'.startLine = some 2 ∧ o'.comparison = o.comparison := by
  obtain ⟨o, ran, start, d, diverged, index, mismatch⟩ :
      ∃ o, (verilator none).run partedLog partedDump = .ok o ∧ o.startLine = some 2 ∧
        ∃ d, o.comparison.divergence = some d ∧ d.index = 1 ∧ d.kind = .mismatch :=
    ⟨_, rfl, rfl, _, rfl, rfl, rfl⟩
  obtain ⟨o', grown, start', -, final⟩ :=
    (run_append ran ["pc=[18]".toList] ["14: addi".toList]).1 (fun _ => by decide)
  refine ⟨o, o', ran, ?_, grown, start'.trans start, final d diverged mismatch⟩
  rw [diverged, Option.map_some, index, mismatch]

end Lockstep.Configuration
