import Lockstep.Proofs.Comparison.Agreement
import Lockstep.Proofs.Comparison.Index
import Lockstep.Proofs.Configuration.Resolution

set_option autoImplicit false
set_option relaxedAutoImplicit false

/-!
Comparisons read keys. A relabeling changes the line numbers and texts of records but not their
keys, and comparing relabeled records gives the relabeled comparison. So whatever two runs have in
common once they are relabeled, their outcomes have in common too.
-/

namespace Lockstep

/-- A change to the labels of an outcome: to its start line, and to the records of both sides, whose
keys stay. -/
structure Relabeling where
  start : Option Nat → Option Nat
  reference : Record → Record
  candidate : Record → Record
  key_reference : ∀ r, (reference r).key = r.key
  key_candidate : ∀ r, (candidate r).key = r.key

def Divergence.relabel (ρ : Relabeling) (d : Divergence) : Divergence :=
  { d with reference := d.reference.map ρ.reference, candidate := d.candidate.map ρ.candidate }

def Comparison.relabel (ρ : Relabeling) (c : Comparison) : Comparison :=
  { c with
    lastMatch := c.lastMatch.map ρ.reference
    divergence := c.divergence.map (Divergence.relabel ρ) }

def Outcome.relabel (ρ : Relabeling) (o : Outcome) : Outcome :=
  { o with startLine := ρ.start o.startLine, comparison := o.comparison.relabel ρ }

def Configuration.Span.relabel (ρ : Relabeling) (span : Configuration.Span) : Configuration.Span :=
  ⟨ρ.start span.startLine, span.records.map ρ.reference⟩

theorem MatchRule.agreement_map (rule : MatchRule) {f g : Record → Record}
    (hf : ∀ r, (f r).key = r.key) (hg : ∀ r, (g r).key = r.key)
    (reference candidate : List Record) :
    rule.agreement (reference.map f) (candidate.map g) = rule.agreement reference candidate := by
  induction reference generalizing candidate with
  | nil => simp
  | cons r rs ih =>
    cases candidate with
    | nil => simp
    | cons c cs => rw [List.map_cons, List.map_cons, agreement_cons, agreement_cons, hf, hg, ih]

theorem KeyIndex.hasKey_ofRecords_map {g : Record → Record} (hg : ∀ r, (g r).key = r.key)
    (records : List Record) (k : Key) :
    (ofRecords (records.map g)).hasKey k = (ofRecords records).hasKey k := by
  rw [Bool.eq_iff_iff, hasKey_ofRecords, hasKey_ofRecords]
  constructor
  · rintro ⟨_, member, rfl⟩
    obtain ⟨r, hr, rfl⟩ := List.mem_map.mp member
    exact ⟨r, hr, (hg r).symm⟩
  · rintro ⟨r, hr, rfl⟩
    exact ⟨g r, List.mem_map_of_mem hr, hg r⟩

theorem KeyIndex.presence_map {f : Record → Record} (hf : ∀ r, (f r).key = r.key)
    {index index' : KeyIndex} (keys : ∀ k, index'.hasKey k = index.hasKey k)
    (reference : List Record) : index'.presence (reference.map f) = index.presence reference := by
  induction reference with
  | nil => rfl
  | cons r rs ih => rw [List.map_cons, presence_cons, presence_cons, hf, keys, ih]

namespace Comparison

variable (ρ : Relabeling) (reference candidate : List Record)

theorem divergenceAt?_relabel (driver : Driver) (index : Nat) (r c : Option Record) :
    divergenceAt? driver index (r.map ρ.reference) (c.map ρ.candidate) =
      (divergenceAt? driver index r c).map (Divergence.relabel ρ) := by
  cases r <;> cases c <;> cases driver <;> rfl

theorem positional_relabel (rule : MatchRule) (driver : Driver) :
    positional (reference.map ρ.reference) (candidate.map ρ.candidate) rule driver =
      (positional reference candidate rule driver).relabel ρ := by
  simp only [positional_eq, relabel, rule.agreement_map ρ.key_reference ρ.key_candidate,
    ← List.map_take, List.getLast?_map, List.getElem?_map, divergenceAt?_relabel]

theorem membership_relabel :
    membership (reference.map ρ.reference) (.ofRecords (candidate.map ρ.candidate)) =
      (membership reference (.ofRecords candidate)).relabel ρ := by
  have present := KeyIndex.presence_map ρ.key_reference
    (KeyIndex.hasKey_ofRecords_map ρ.key_candidate candidate) reference
  simp only [membership_eq, relabel, present, ← List.map_take, List.getLast?_map,
    List.getElem?_map, Option.map_map]
  rfl

end Comparison

namespace Configuration

variable {config : Configuration}

theorem compare_relabel (config : Configuration) (ρ : Relabeling) (r c : List Record) :
    config.compare (r.map ρ.reference) (c.map ρ.candidate) = (config.compare r c).relabel ρ := by
  by_cases ha : config.alignment = .membership
  · rw [compare_of_membership ha, compare_of_membership ha, Comparison.membership_relabel]
  · rw [compare_of_ne_membership ha, compare_of_ne_membership ha, Comparison.positional_relabel]

theorem outcome_relabel (config : Configuration) (ρ : Relabeling) (reference candidate : TraceFile)
    (records : List Record) (span : Span) :
    (config.outcome reference candidate records span).relabel ρ =
      config.outcome reference candidate (records.map ρ.candidate) (span.relabel ρ) := by
  simp only [outcome, Outcome.relabel, Span.relabel, compare_relabel, List.length_map]

/-- Runs that start at the same line and have the same candidate and span, once these are relabeled,
have the same result once it is relabeled, be it a fault or an outcome. -/
theorem run_relabel_congr (config : Configuration) (ρ : Relabeling)
    {reference reference' candidate candidate' : TraceFile}
    (paths : reference'.path = reference.path ∧ candidate'.path = candidate.path)
    (starts : config.markedLine reference' = config.markedLine reference)
    (records : (config.candidate.records candidate'.lines).map ρ.candidate =
      (config.candidate.records candidate.lines).map ρ.candidate)
    (spans : ∀ marked, config.markedLine reference = .ok marked →
      (config.align reference' (config.candidate.records candidate.lines) marked).map
          (Span.relabel ρ) =
        (config.align reference (config.candidate.records candidate.lines) marked).map
          (Span.relabel ρ)) :
    (config.run reference' candidate').map (Outcome.relabel ρ) =
      (config.run reference candidate).map (Outcome.relabel ρ) := by
  have keys : (config.candidate.records candidate'.lines).map Record.key =
      (config.candidate.records candidate.lines).map Record.key := by
    have same := congrArg (List.map Record.key) records
    simpa only [List.map_map, Function.comp_def, ρ.key_candidate] using same
  simp only [run]
  rw [starts]
  cases hm : config.markedLine reference with
  | error fault => rfl
  | ok marked =>
    have aligned := spans marked hm
    rw [← align_congr keys reference'] at aligned
    simp only
    cases ha' : config.align reference' (config.candidate.records candidate'.lines) marked <;>
      cases ha : config.align reference (config.candidate.records candidate.lines) marked <;>
      simp only [ha, ha', Except.map, Except.ok.injEq, Except.error.injEq, reduceCtorEq]
        at aligned ⊢
    · exact aligned
    · rw [outcome_relabel, outcome_relabel, records, aligned, outcome, outcome, paths.1, paths.2]

end Configuration

end Lockstep
