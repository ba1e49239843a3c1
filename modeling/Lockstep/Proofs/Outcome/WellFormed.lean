import Lockstep.Proofs.Comparison.Agreement
import Lockstep.Proofs.Comparison.Index
import Lockstep.Proofs.Configuration.Resolution
import Lockstep.Proofs.Trace.Listing

set_option autoImplicit false
set_option relaxedAutoImplicit false

/-!
Well-formed outcomes. The fields of an outcome are tied to one another: a divergence lies where the
matches end and holds the records that its kind is about, kinds go with alignments and drivers, and
without divergence the driving side is used up. Reports rely on these ties, and every run keeps
them.
-/

namespace Lockstep

theorem toNat_ofNat_add_one_eq_mod (n : Nat) :
    (UInt64.ofNat n + 1).toNat = (n + 1) % UInt64.size := by
  rw [UInt64.toNat_add, UInt64.toNat_ofNat', UInt64.toNat_one, Nat.mod_add_mod]

theorem toNat_ofNat_add_one {n : Nat} (h : n + 1 < UInt64.size) :
    (UInt64.ofNat n + 1).toNat = n + 1 := by
  rw [toNat_ofNat_add_one_eq_mod, Nat.mod_eq_of_lt h]

/-- A divergence holds the records that its kind is about and no others. -/
def Divergence.HasSides (d : Divergence) : Prop :=
  match d.kind with
  | .mismatch => d.reference.isSome ∧ d.candidate.isSome
  | .missingInCandidate => d.reference.isSome ∧ d.candidate = none
  | .candidateEnded => d.reference.isSome ∧ d.candidate = none
  | .referenceEnded => d.reference = none ∧ d.candidate.isSome

/-- The ties within a comparison of so many reference records with so many candidate records. -/
structure Comparison.WellFormed (alignment : Alignment) (driver : Driver)
    (referenceRecords candidateRecords : Nat) (c : Comparison) : Prop where
  lastMatch_eq_none_iff : c.lastMatch = none ↔ c.matched = 0
  matched_le_reference : c.matched ≤ referenceRecords
  matched_le_candidate : alignment ≠ .membership → c.matched ≤ candidateRecords
  index_eq : ∀ d, c.divergence = some d → d.index = c.matched
  hasSides : ∀ d, c.divergence = some d → d.HasSides
  missing_iff : ∀ d, c.divergence = some d →
    (d.kind = .missingInCandidate ↔ alignment = .membership)
  candidateEnded : ∀ d, c.divergence = some d → d.kind = .candidateEnded → driver = .reference
  referenceEnded : ∀ d, c.divergence = some d → d.kind = .referenceEnded → driver = .candidate
  matched_eq : c.divergence = none →
    c.matched =
      if alignment ≠ .membership ∧ driver = .candidate then candidateRecords else referenceRecords

/-- The ties within an outcome. The count of lines is one of words; how far it goes before it begins
again does not depend on the outcome. -/
structure Outcome.WellFormed (config : Configuration) (o : Outcome) : Prop where
  comparison : o.comparison.WellFormed config.alignment config.driver o.referenceRecords
    o.candidateRecords
  divergentKey?_isSome_iff : o.divergentKey?.isSome ↔ o.comparison.divergence.isSome
  lineCount_eq : o.lineCount =
    if config.tool = .joints ∧ o.comparison.divergence.isSome then
      (UInt64.ofNat o.comparison.matched + 1).toNat
    else o.comparison.matched

theorem Divergence.HasSides.keyFor?_isSome {d : Divergence} (h : d.HasSides) (driver : Driver) :
    (d.keyFor? driver).isSome := by
  obtain ⟨index, kind, reference, candidate⟩ := d
  cases kind <;> cases reference <;> cases candidate <;> cases driver <;>
    simp_all [HasSides, keyFor?]

theorem Outcome.WellFormed.lineCount_eq_succ {config : Configuration} {o : Outcome}
    (h : o.WellFormed config) (short : o.comparison.matched + 1 < UInt64.size) :
    o.lineCount =
      if config.tool = .joints ∧ o.comparison.divergence.isSome then o.comparison.matched + 1
      else o.comparison.matched := by
  rw [h.lineCount_eq, toNat_ofNat_add_one short]

namespace Outcome

theorem divergentKey?_isSome {o : Outcome}
    (sides : ∀ d, o.comparison.divergence = some d → d.HasSides) :
    o.divergentKey?.isSome ↔ o.comparison.divergence.isSome := by
  unfold divergentKey?
  cases hd : o.comparison.divergence with
  | none => simp
  | some d => simpa using (sides d hd).keyFor?_isSome o.driver

theorem lineCount_eq_ite {o : Outcome}
    (index : ∀ d, o.comparison.divergence = some d → d.index = o.comparison.matched) :
    o.lineCount =
      if o.tool = .joints ∧ o.comparison.divergence.isSome then
        (UInt64.ofNat o.comparison.matched + 1).toNat
      else o.comparison.matched := by
  obtain ⟨tool, _, _, _, _, _, _, matched, _, divergence⟩ := o
  cases divergence with
  | none => cases tool <;> simp [lineCount]
  | some d =>
    have position : d.index = matched := index d rfl
    cases tool <;> simp [lineCount, Divergence.position, position]

end Outcome

namespace Comparison

theorem getLast?_take_eq_none_iff {records : List Record} {m : Nat} (h : m ≤ records.length) :
    (records.take m).getLast? = none ↔ m = 0 := by
  rw [List.getLast?_eq_none_iff, List.take_eq_nil_iff]
  constructor
  · rintro (rfl | rfl)
    · rfl
    · simpa using h
  · exact Or.inl

theorem divergenceAt?_eq_some {driver : Driver} {index : Nat} {r c : Option Record}
    {d : Divergence} (h : divergenceAt? driver index r c = some d) :
    d.index = index ∧ d.HasSides ∧ d.kind ≠ .missingInCandidate ∧
      (d.kind = .candidateEnded → driver = .reference) ∧
      (d.kind = .referenceEnded → driver = .candidate) := by
  cases r <;> cases c <;> cases driver <;> simp [divergenceAt?] at h <;> subst h <;>
    simp [Divergence.HasSides]

theorem positional_wellFormed {alignment : Alignment} (ha : alignment ≠ .membership)
    (rule : MatchRule) (driver : Driver) (reference candidate : List Record) :
    (positional reference candidate rule driver).WellFormed alignment driver reference.length
      candidate.length := by
  have inReference := rule.agreement_le_reference reference candidate
  have inCandidate := rule.agreement_le_candidate reference candidate
  have covered : (positional reference candidate rule driver).divergence = none →
      rule.agreement reference candidate = driver.positions reference candidate :=
    (positional_divergence_eq_none_iff rule driver).mp
  rw [positional_eq] at covered ⊢
  refine
    { lastMatch_eq_none_iff := getLast?_take_eq_none_iff inReference
      matched_le_reference := inReference
      matched_le_candidate := fun _ => inCandidate
      index_eq := fun d hd => (divergenceAt?_eq_some hd).1
      hasSides := fun d hd => (divergenceAt?_eq_some hd).2.1
      missing_iff := fun d hd => iff_of_false (divergenceAt?_eq_some hd).2.2.1 ha
      candidateEnded := fun d hd => (divergenceAt?_eq_some hd).2.2.2.1
      referenceEnded := fun d hd => (divergenceAt?_eq_some hd).2.2.2.2
      matched_eq := fun matched => ?_ }
  rw [covered matched]
  cases driver with
  | reference => rw [if_neg (by simp), Driver.positions]
  | candidate => rw [if_pos ⟨ha, rfl⟩, Driver.positions]

theorem membership_divergence_eq_some {reference : List Record} {index : KeyIndex} {d : Divergence}
    (h : (membership reference index).divergence = some d) :
    d.index = (membership reference index).matched ∧ d.HasSides ∧
      d.kind = .missingInCandidate := by
  rw [membership_eq] at h ⊢
  obtain ⟨r, -, rfl⟩ := Option.map_eq_some_iff.mp h
  exact ⟨rfl, ⟨rfl, rfl⟩, rfl⟩

theorem membership_wellFormed (driver : Driver) (reference : List Record) (index : KeyIndex)
    (candidateRecords : Nat) :
    (membership reference index).WellFormed .membership driver reference.length
      candidateRecords := by
  have inReference : (membership reference index).matched ≤ reference.length := by
    rw [membership_eq]
    exact index.presence_le_length reference
  have missing (d : Divergence) (hd : (membership reference index).divergence = some d) :
      d.kind = .missingInCandidate := (membership_divergence_eq_some hd).2.2
  refine
    { lastMatch_eq_none_iff := ?_
      matched_le_reference := inReference
      matched_le_candidate := fun other => absurd rfl other
      index_eq := fun d hd => (membership_divergence_eq_some hd).1
      hasSides := fun d hd => (membership_divergence_eq_some hd).2.1
      missing_iff := fun d hd => iff_of_true (missing d hd) rfl
      candidateEnded := fun d hd ended => absurd ((missing d hd).symm.trans ended) (by decide)
      referenceEnded := fun d hd ended => absurd ((missing d hd).symm.trans ended) (by decide)
      matched_eq := fun matched => ?_ }
  · rw [membership_eq]
    exact getLast?_take_eq_none_iff (index.presence_le_length reference)
  · rw [if_neg (by simp)]
    rw [membership_eq, Option.map_eq_none_iff, List.getElem?_eq_none_iff] at matched
    refine Nat.le_antisymm inReference ?_
    rw [membership_eq]
    exact matched

end Comparison

theorem Comparison.WellFormed.of_one_le_matched {alignment : Alignment} {driver : Driver}
    {referenceRecords candidateRecords : Nat} {c : Comparison}
    (h : c.WellFormed alignment driver referenceRecords candidateRecords) (pos : 1 ≤ c.matched) :
    c.lastMatch.isSome ∧ ∀ d, c.divergence = some d → 1 ≤ d.index := by
  refine ⟨?_, ?_⟩
  · rw [Option.isSome_iff_ne_none, Ne, h.lastMatch_eq_none_iff]
    omega
  · intro d diverged
    rw [h.index_eq d diverged]
    exact pos

namespace Configuration

theorem compare_wellFormed (config : Configuration) (reference candidate : List Record) :
    (config.compare reference candidate).WellFormed config.alignment config.driver
      reference.length candidate.length := by
  by_cases ha : config.alignment = .membership
  · rw [compare_of_membership ha, ha]
    exact Comparison.membership_wellFormed config.driver reference _ candidate.length
  · rw [compare_of_ne_membership ha]
    exact Comparison.positional_wellFormed ha config.rule config.driver reference candidate

theorem length_records_le {config : Configuration} {reference : TraceFile} {records : List Record}
    {marked : Option Nat} {span : Span} (hm : config.markedLine reference = .ok marked)
    (ha : config.align reference records marked = .ok span) :
    span.records.length ≤ reference.lines.length := by
  obtain ⟨-, taken⟩ := align_eq_ok hm ha
  calc span.records.length
      ≤ (config.reference.recordsAfter (span.startLine.getD 0) reference.lines).length :=
        taken.length_le
    _ ≤ (reference.lines.drop (span.startLine.getD 0)).length :=
        config.reference.length_recordsFrom_le _ _
    _ ≤ reference.lines.length := (List.drop_sublist _ _).length_le

/-- Every run that succeeds gives a well-formed outcome, whatever the configuration combines, and the
count of lines never begins again as long as a word can tell the number of the reference's lines. -/
theorem run_wellFormed {config : Configuration} {reference candidate : TraceFile} {o : Outcome}
    (h : config.run reference candidate = .ok o) :
    o.WellFormed config ∧
      (reference.lines.length + 1 < UInt64.size →
        o.lineCount =
          if config.tool = .joints ∧ o.comparison.divergence.isSome then o.comparison.matched + 1
          else o.comparison.matched) := by
  obtain ⟨marked, span, hm, ha, rfl⟩ := run_eq_ok_iff.mp h
  have compared := config.compare_wellFormed span.records
    (config.candidate.records candidate.lines)
  have formed : Outcome.WellFormed config
      (config.outcome reference candidate (config.candidate.records candidate.lines) span) :=
    ⟨compared, Outcome.divergentKey?_isSome compared.hasSides,
      Outcome.lineCount_eq_ite compared.index_eq⟩
  have within := Nat.le_trans compared.matched_le_reference (length_records_le hm ha)
  exact ⟨formed, fun short =>
    formed.lineCount_eq_succ (Nat.lt_of_le_of_lt (Nat.succ_le_succ within) short)⟩

theorem run_wellFormed_partedLog :
    ∃ o, ({ verilator none with tool := .joints }).run partedLog partedDump = .ok o ∧
      o.WellFormed { verilator none with tool := .joints } ∧
      o.comparison.matched = 1 ∧ o.comparison.divergence.isSome ∧ o.lineCount = 2 := by
  obtain ⟨o, ran, matched, diverged⟩ :
      ∃ o, ({ verilator none with tool := .joints }).run partedLog partedDump = .ok o ∧
        o.comparison.matched = 1 ∧ o.comparison.divergence.isSome := ⟨_, rfl, rfl, rfl⟩
  obtain ⟨formed, counted⟩ := run_wellFormed ran
  have count : o.lineCount = 2 := by rw [counted (by decide), if_pos ⟨rfl, diverged⟩, matched]
  exact ⟨o, ran, formed, matched, diverged, count⟩

end Configuration

end Lockstep
