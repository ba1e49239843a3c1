import Lockstep.Proofs.Outcome.WellFormed
import Lockstep.Proofs.Trace.Extraction
import Lockstep.Proofs.Trace.Listing

set_option autoImplicit false
set_option relaxedAutoImplicit false

/-!
Where the records of an outcome come from. Nothing in an outcome is invented: each record was read
off the line whose number it bears, on its own side and not before the start line, and no number is
larger than the traces are long, so that counting lines and positions from one never overflows.
-/

namespace Lockstep

namespace Comparison

def referenceSide (c : Comparison) : List Record :=
  c.lastMatch.toList ++ (c.divergence.bind Divergence.reference).toList

def candidateSide (c : Comparison) : List Record :=
  (c.divergence.bind Divergence.candidate).toList

end Comparison

/-- The numbers of an outcome that reports count from one: its start line, the position of its
divergence, and the lines of its records. -/
def Outcome.counted (o : Outcome) : List Nat :=
  o.startLine.toList ++ (o.comparison.divergence.map Divergence.index).toList ++
    (o.comparison.referenceSide ++ o.comparison.candidateSide).map Record.line

/-- An outcome is grounded in two traces when all that it shows comes from them. -/
structure Outcome.Grounded (config : Configuration) (reference candidate : TraceFile)
    (o : Outcome) : Prop where
  reads_reference : ∀ r ∈ o.comparison.referenceSide,
    r.line < reference.lines.length ∧ config.reference.Reads reference.lines r ∧
      ∀ start, o.startLine = some start → start ≤ r.line
  reads_candidate : ∀ c ∈ o.comparison.candidateSide,
    c.line < candidate.lines.length ∧ config.candidate.Reads candidate.lines c
  ascending : ∀ last d r, o.comparison.lastMatch = some last → o.comparison.divergence = some d →
    d.reference = some r → last.line < r.line
  canonical : config.reference.IsBuiltIn → config.candidate.IsBuiltIn →
    ∀ r ∈ o.comparison.referenceSide ++ o.comparison.candidateSide, r.key.Canonical
  startLine_le : ∀ start, o.startLine = some start → start ≤ reference.lines.length
  counted_le : ∀ n ∈ o.counted, n ≤ max reference.lines.length candidate.lines.length

theorem Outcome.mem_counted {o : Outcome} {n : Nat} :
    n ∈ o.counted ↔
      o.startLine = some n ∨ (∃ d, o.comparison.divergence = some d ∧ d.index = n) ∨
        ∃ r, (r ∈ o.comparison.referenceSide ∨ r ∈ o.comparison.candidateSide) ∧ r.line = n := by
  simp only [counted, List.mem_append, Option.mem_toList, Option.map_eq_some_iff, List.mem_map,
    or_assoc]

/-- Counting from one takes no number of a grounded outcome out of a word, as long as the traces
have fewer lines than a word has values. -/
theorem Outcome.Grounded.succ_word {config : Configuration} {reference candidate : TraceFile}
    {o : Outcome} (h : o.Grounded config reference candidate)
    (short : max reference.lines.length candidate.lines.length + 1 < UInt64.size) :
    ∀ n ∈ o.counted, (UInt64.ofNat n + 1).toNat = n + 1 := by
  intro n hn
  have bound := h.counted_le n hn
  exact toNat_ofNat_add_one (by omega)

namespace Comparison

variable {rule : MatchRule} {driver : Driver} {reference candidate : List Record} {r : Record}

theorem mem_referenceSide {c : Comparison} :
    r ∈ c.referenceSide ↔
      c.lastMatch = some r ∨ ∃ d, c.divergence = some d ∧ d.reference = some r := by
  simp [referenceSide, Option.mem_toList, Option.bind_eq_some_iff]

theorem mem_candidateSide {c : Comparison} :
    r ∈ c.candidateSide ↔ ∃ d, c.divergence = some d ∧ d.candidate = some r := by
  simp [candidateSide, Option.mem_toList, Option.bind_eq_some_iff]

theorem forall_sides_iff {c : Comparison} {p : Record → Prop} :
    (∀ r ∈ c.referenceSide ++ c.candidateSide, p r) ↔
      (∀ r ∈ c.lastMatch, p r) ∧
        ∀ d ∈ c.divergence, (∀ r ∈ d.reference, p r) ∧ ∀ r ∈ d.candidate, p r := by
  simp only [List.mem_append, mem_referenceSide, mem_candidateSide]
  constructor
  · intro h
    refine ⟨fun r matched => h r (.inl (.inl matched)), fun d diverged => ⟨?_, ?_⟩⟩
    · exact fun r side => h r (.inl (.inr ⟨d, diverged, side⟩))
    · exact fun r side => h r (.inr ⟨d, diverged, side⟩)
  · rintro ⟨last, sides⟩ r ((matched | ⟨d, diverged, side⟩) | ⟨d, diverged, side⟩)
    · exact last r matched
    · exact (sides d diverged).1 r side
    · exact (sides d diverged).2 r side

/-- A comparison shows records where it stops: the reference record before, and at a divergence what
the traces hold there. -/
structure StopsAt (reference candidate : List Record) (c : Comparison) : Prop where
  lastMatch_eq : c.lastMatch = (reference.take c.matched).getLast?
  reference_eq : ∀ d r, c.divergence = some d → d.reference = some r →
    reference[c.matched]? = some r
  candidate_eq : ∀ d r, c.divergence = some d → d.candidate = some r →
    candidate[c.matched]? = some r

theorem divergenceAt?_sides {index : Nat} {r c : Option Record} {d : Divergence}
    (h : divergenceAt? driver index r c = some d) : d.reference = r ∧ d.candidate = c := by
  cases r <;> cases c <;> cases driver <;> simp [divergenceAt?] at h <;> subst h <;>
    exact ⟨rfl, rfl⟩

theorem positional_stopsAt (rule : MatchRule) (driver : Driver)
    (reference candidate : List Record) :
    (positional reference candidate rule driver).StopsAt reference candidate := by
  rw [positional_eq]
  refine ⟨rfl, ?_, ?_⟩
  · intro d r diverged side
    exact (divergenceAt?_sides diverged).1.symm.trans side
  · intro d c diverged side
    exact (divergenceAt?_sides diverged).2.symm.trans side

theorem membership_stopsAt (reference candidate : List Record) (index : KeyIndex) :
    (membership reference index).StopsAt reference candidate := by
  rw [membership_eq]
  refine ⟨rfl, ?_, ?_⟩
  · intro d r diverged side
    obtain ⟨missing, found, rfl⟩ := Option.map_eq_some_iff.mp diverged
    rw [← side]
    exact found
  · intro d r diverged side
    obtain ⟨missing, -, rfl⟩ := Option.map_eq_some_iff.mp diverged
    cases side

namespace StopsAt

variable {c : Comparison}

theorem mem_reference (h : c.StopsAt reference candidate) (hr : r ∈ c.referenceSide) :
    r ∈ reference := by
  rcases mem_referenceSide.mp hr with last | ⟨d, diverged, side⟩
  · rw [h.lastMatch_eq] at last
    exact List.mem_of_mem_take (List.mem_of_getLast? last)
  · exact List.mem_of_getElem? (h.reference_eq d r diverged side)

theorem mem_candidate (h : c.StopsAt reference candidate) (hr : r ∈ c.candidateSide) :
    r ∈ candidate := by
  obtain ⟨d, diverged, side⟩ := mem_candidateSide.mp hr
  exact List.mem_of_getElem? (h.candidate_eq d r diverged side)

theorem ascending (h : c.StopsAt reference candidate) {last : Record} {d : Divergence}
    (order : reference.Pairwise fun a b => a.line < b.line) (matched : c.lastMatch = some last)
    (diverged : c.divergence = some d) (side : d.reference = some r) : last.line < r.line := by
  rw [h.lastMatch_eq] at matched
  have before : last ∈ reference.take c.matched := List.mem_of_getLast? matched
  have after : r ∈ reference.drop c.matched := by
    obtain ⟨hlt, here⟩ := List.getElem?_eq_some_iff.mp (h.reference_eq d r diverged side)
    rw [List.drop_eq_getElem_cons hlt, here]
    exact List.mem_cons_self
  rw [← List.take_append_drop c.matched reference, List.pairwise_append] at order
  exact order.2.2 last before r after

end StopsAt

end Comparison

namespace Configuration

theorem compare_stopsAt (config : Configuration) (reference candidate : List Record) :
    (config.compare reference candidate).StopsAt reference candidate := by
  by_cases ha : config.alignment = .membership
  · rw [compare_of_membership ha]
    exact Comparison.membership_stopsAt reference candidate _
  · rw [compare_of_ne_membership ha]
    exact Comparison.positional_stopsAt config.rule config.driver reference candidate

theorem grounded_of_run {config : Configuration} {reference candidate : TraceFile} {o : Outcome}
    (h : config.run reference candidate = .ok o) : o.Grounded config reference candidate := by
  obtain ⟨marked, span, hm, ha, rfl⟩ := run_eq_ok_iff.mp h
  obtain ⟨start, taken⟩ := align_eq_ok hm ha
  have stops := config.compare_stopsAt span.records (config.candidate.records candidate.lines)
  have formed := config.compare_wellFormed span.records (config.candidate.records candidate.lines)
  have listed := config.reference.lists_recordsAfter (span.startLine.getD 0) reference.lines
  simp only [outcome]
  generalize config.compare span.records (config.candidate.records candidate.lines) = c
    at stops formed ⊢
  have reads_reference (r : Record) (hr : r ∈ c.referenceSide) :
      span.startLine.getD 0 ≤ r.line ∧ config.reference.Reads reference.lines r :=
    (listed.mem_iff r).mp (taken.subset (stops.mem_reference hr))
  have reads_candidate (r : Record) (hr : r ∈ c.candidateSide) :
      config.candidate.Reads candidate.lines r :=
    Extractor.mem_records.mp (stops.mem_candidate hr)
  have startLine_le (s : Nat) (hs : span.startLine = some s) : s ≤ reference.lines.length := by
    rwa [hs] at start
  have records_le := length_records_le hm ha
  refine
    { reads_reference := fun r hr =>
        ⟨(reads_reference r hr).2.lt_length, (reads_reference r hr).2, ?_⟩
      reads_candidate := fun r hr => ⟨(reads_candidate r hr).lt_length, reads_candidate r hr⟩
      ascending := fun last d r => stops.ascending (listed.ascending.sublist taken.sublist)
      canonical := fun builtInR builtInC r hr => ?_
      startLine_le := startLine_le
      counted_le := ?_ }
  · intro s (hs : span.startLine = some s)
    have bound := (reads_reference r hr).1
    rwa [hs] at bound
  · rcases List.mem_append.mp hr with hr | hr
    · obtain ⟨line, -, extracted⟩ := (reads_reference r hr).2
      exact builtInR.canonical extracted
    · obtain ⟨line, -, extracted⟩ := reads_candidate r hr
      exact builtInC.canonical extracted
  · intro n hn
    rcases Outcome.mem_counted.mp hn with hs | ⟨d, diverged, rfl⟩ | ⟨r, hr | hr, rfl⟩
    · have bound := startLine_le n hs
      omega
    · have position := formed.index_eq d diverged
      have matched := formed.matched_le_reference
      omega
    · have bound := (reads_reference r hr).2.lt_length
      omega
    · have bound := (reads_candidate r hr).lt_length
      omega

/-- Nothing in an outcome is invented, whatever the configuration, and all that is counted from one
is counted without overflow. -/
theorem run_grounded {config : Configuration} {reference candidate : TraceFile} {o : Outcome}
    (h : config.run reference candidate = .ok o) :
    o.Grounded config reference candidate ∧
      (max reference.lines.length candidate.lines.length + 1 < UInt64.size →
        ∀ n ∈ o.counted, (UInt64.ofNat n + 1).toNat = n + 1) :=
  ⟨grounded_of_run h, (grounded_of_run h).succ_word⟩

theorem run_grounded_partedLog :
    ∃ o, (verilator none).run partedLog partedDump = .ok o ∧
      o.Grounded (verilator none) partedLog partedDump ∧ o.counted = [2, 1, 2, 4, 2] ∧
      ∀ n ∈ o.counted, (UInt64.ofNat n + 1).toNat = n + 1 := by
  obtain ⟨o, ran, counted⟩ :
      ∃ o, (verilator none).run partedLog partedDump = .ok o ∧ o.counted = [2, 1, 2, 4, 2] :=
    ⟨_, rfl, rfl⟩
  obtain ⟨grounded, succ⟩ := run_grounded ran
  exact ⟨o, ran, grounded, counted, succ (by decide)⟩

end Configuration

end Lockstep
