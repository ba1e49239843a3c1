import Lockstep.Proofs.Comparison.Agreement
import Lockstep.Proofs.Comparison.Index
import Mathlib.Order.Bounds.Basic

set_option autoImplicit false
set_option relaxedAutoImplicit false

/-!
The first disagreement. Two traces disagree at a position where one of them has no record or their
records do not match; a comparison by position stops at the least such position that the driving side
has, and without one it goes through all that the driving side has.
-/

namespace Lockstep

def recordBefore? (records : List Record) : Nat → Option Record
  | 0 => none
  | i + 1 => records[i]?

theorem getLast?_take_eq_recordBefore? {records : List Record} {m : Nat} (h : m ≤ records.length) :
    (records.take m).getLast? = recordBefore? records m := by
  cases m with
  | zero => simp [recordBefore?]
  | succ i =>
    have inside : i < records.length := h
    rw [recordBefore?, List.getLast?_take, if_neg (Nat.succ_ne_zero i), Nat.add_sub_cancel,
      List.getElem?_eq_getElem inside, Option.some_or]

/-- What reaches as far as all positions are good stops at the least that is not. Of the stops only
those up to the least have to be known. -/
theorem eq_of_isLeast_stop {good : Nat → Prop} {stops : Set Nat} {reach d : Nat}
    (reached : ∀ m, m ≤ reach ↔ ∀ i < m, good i) (bad : ∀ i ∈ stops, ¬good i)
    (passed : ∀ i < d, i ∉ stops → good i) (h : IsLeast stops d) : reach = d := by
  obtain ⟨stop, least⟩ := h
  apply Nat.le_antisymm
  · apply Nat.le_of_not_lt
    intro beyond
    exact bad d stop ((reached reach).mp (Nat.le_refl reach) d beyond)
  · rw [reached]
    intro i before
    refine passed i before fun earlier => ?_
    exact Nat.not_le_of_lt before (least earlier)

namespace MatchRule

variable (rule : MatchRule) {reference candidate : List Record}

/-- Two traces disagree at a position where one of them has no record, or where their records do not
match. -/
def DisagreesAt (reference candidate : List Record) (i : Nat) : Prop :=
  reference[i]? = none ∨ candidate[i]? = none ∨
    ∃ r c, reference[i]? = some r ∧ candidate[i]? = some c ∧ rule.admits r.key c.key = false

theorem not_disagreesAt_iff {i : Nat} :
    ¬rule.DisagreesAt reference candidate i ↔
      ∃ r c, reference[i]? = some r ∧ candidate[i]? = some c ∧ rule.admits r.key c.key = true := by
  unfold DisagreesAt
  cases reference[i]? <;> cases candidate[i]? <;> simp

theorem le_agreement_iff_not_disagreesAt {m : Nat} :
    m ≤ rule.agreement reference candidate ↔ ∀ i < m, ¬rule.DisagreesAt reference candidate i := by
  simp only [not_disagreesAt_iff]
  exact rule.le_agreement_iff

theorem agreement_eq_of_isLeast {n d : Nat}
    (h : IsLeast {i | i < n ∧ rule.DisagreesAt reference candidate i} d) :
    rule.agreement reference candidate = d := by
  have within : d < n := h.1.1
  refine eq_of_isLeast_stop (fun _ => rule.le_agreement_iff_not_disagreesAt) ?_ ?_ h
  · rintro i ⟨-, disagrees⟩ agrees
    exact agrees disagrees
  · intro i before passed disagrees
    exact passed ⟨Nat.lt_trans before within, disagrees⟩

end MatchRule

namespace Comparison

theorem exists_kind_of_divergenceAt?_ne_none {driver : Driver} {index : Nat} {r c : Option Record}
    (diverged : divergenceAt? driver index r c ≠ none) :
    ∃ kind, divergenceAt? driver index r c = some ⟨index, kind, r, c⟩ ∧
      (kind = .mismatch ↔ r.isSome ∧ c.isSome) ∧
      (kind = .candidateEnded ↔ r.isSome ∧ c = none) ∧
      (kind = .referenceEnded ↔ r = none ∧ c.isSome) := by
  cases r <;> cases c <;> cases driver <;> simp_all [divergenceAt?]

/-- A comparison by position finds the first disagreement within the driving side. There it stops, with
the records that the traces have and a kind that says which of them are there; the last match is the
reference record right before. Without a disagreement all positions of the driving side match. -/
theorem positional_first_disagreement (rule : MatchRule) (driver : Driver)
    (reference candidate : List Record) :
    ((∀ i < driver.positions reference candidate, ¬rule.DisagreesAt reference candidate i) →
      positional reference candidate rule driver =
        ⟨driver.positions reference candidate,
          recordBefore? reference (driver.positions reference candidate), none⟩) ∧
    ∀ d, IsLeast {i | i < driver.positions reference candidate ∧
        rule.DisagreesAt reference candidate i} d →
      ∃ kind,
        positional reference candidate rule driver =
          ⟨d, recordBefore? reference d, some ⟨d, kind, reference[d]?, candidate[d]?⟩⟩ ∧
        (kind = .mismatch ↔ reference[d]?.isSome ∧ candidate[d]?.isSome) ∧
        (kind = .candidateEnded ↔ reference[d]?.isSome ∧ candidate[d]? = none) ∧
        (kind = .referenceEnded ↔ reference[d]? = none ∧ candidate[d]?.isSome) := by
  have last := getLast?_take_eq_recordBefore? (rule.agreement_le_reference reference candidate)
  have settled : (positional reference candidate rule driver).divergence = none ↔
      rule.agreement reference candidate = driver.positions reference candidate :=
    positional_divergence_eq_none_iff rule driver
  rw [positional_eq, last] at settled ⊢
  dsimp only at settled
  constructor
  · intro agreed
    have bound := rule.agreement_le_positions driver reference candidate
    have covered : rule.agreement reference candidate = driver.positions reference candidate :=
      Nat.le_antisymm bound (rule.le_agreement_iff_not_disagreesAt.mpr agreed)
    rw [settled.mpr covered, covered]
  · intro d first
    have stopped := rule.agreement_eq_of_isLeast first
    obtain ⟨⟨within, -⟩, -⟩ := first
    rw [stopped] at settled ⊢
    obtain ⟨kind, ended, kinds⟩ := exists_kind_of_divergenceAt?_ne_none fun none =>
      Nat.ne_of_lt within (settled.mp none)
    exact ⟨kind, by rw [ended], kinds⟩

end Comparison

/-!
Comparison by position under exact matching. Traces agree then as far as their keys are the same, which
does not depend on the side that each of them is on: with the sides exchanged, a comparison finds the
same and tells it the other way round. An address at which traces agree is one that the candidate has,
so that a comparison by membership matches no less.
-/

namespace MatchRule

variable {reference candidate : List Record} {m : Nat}

theorem le_agreement_exact_iff :
    m ≤ exact.agreement reference candidate ↔
      m ≤ reference.length ∧ m ≤ candidate.length ∧
        (reference.take m).map Record.key = (candidate.take m).map Record.key := by
  constructor
  · intro agreed
    have inReference := exact.agreement_le_reference reference candidate
    have inCandidate := exact.agreement_le_candidate reference candidate
    refine ⟨by omega, by omega, ?_⟩
    apply List.ext_getElem?
    intro i
    rw [List.getElem?_map, List.getElem?_map]
    rcases Nat.lt_or_ge i m with within | beyond
    · obtain ⟨r, c, hr, hc, admitted⟩ := exact.le_agreement_iff.mp agreed i within
      have same : r.key = c.key := by simpa [admits] using admitted
      rw [List.getElem?_take_of_lt within, List.getElem?_take_of_lt within, hr, hc,
        Option.map_some, Option.map_some, same]
    · rw [List.getElem?_take_eq_none beyond, List.getElem?_take_eq_none beyond]
  · rintro ⟨-, inCandidate, keys⟩
    exact exact.le_agreement_of_keys_eq inCandidate keys.symm

theorem keys_take_agreement_exact (reference candidate : List Record) :
    (reference.take (exact.agreement reference candidate)).map Record.key =
      (candidate.take (exact.agreement reference candidate)).map Record.key :=
  (le_agreement_exact_iff.mp (Nat.le_refl _)).2.2

theorem agreement_exact_comm (reference candidate : List Record) :
    exact.agreement candidate reference = exact.agreement reference candidate := by
  have further (l m : List Record) : exact.agreement l m ≤ exact.agreement m l := by
    rw [le_agreement_exact_iff]
    exact ⟨exact.agreement_le_candidate l m, exact.agreement_le_reference l m,
      (keys_take_agreement_exact l m).symm⟩
  exact Nat.le_antisymm (further candidate reference) (further reference candidate)

end MatchRule

theorem KeyIndex.agreement_exact_le_presence (reference candidate : List Record) :
    MatchRule.exact.agreement reference candidate ≤ (ofRecords candidate).presence reference := by
  have keys := MatchRule.keys_take_agreement_exact reference candidate
  rw [le_presence_iff]
  refine ⟨MatchRule.exact.agreement_le_reference reference candidate, ?_⟩
  intro r hr
  have listed : r.key ∈ (candidate.take (MatchRule.exact.agreement reference candidate)).map
      Record.key := by
    rw [← keys]
    exact List.mem_map_of_mem hr
  obtain ⟨c, hc, same⟩ := List.mem_map.mp listed
  exact (hasKey_ofRecords candidate r.key).mpr ⟨c, List.mem_of_mem_take hc, same⟩

/-- The kind of a divergence with the sides exchanged. That an address is missing from a candidate is
not said of positions, and has no counterpart. -/
def DivergenceKind.exchanged : DivergenceKind → DivergenceKind
  | .mismatch => .mismatch
  | .missingInCandidate => .missingInCandidate
  | .candidateEnded => .referenceEnded
  | .referenceEnded => .candidateEnded

def Divergence.exchanged (d : Divergence) : Divergence where
  index := d.index
  kind := d.kind.exchanged
  reference := d.candidate
  candidate := d.reference

namespace Comparison

theorem divergenceAt?_exchanged (driver : Driver) (index : Nat) (r c : Option Record) :
    divergenceAt? driver.other index c r =
      (divergenceAt? driver index r c).map Divergence.exchanged := by
  cases r <;> cases c <;> cases driver <;> rfl

/-- With the sides exchanged and the same trace driving, an exact comparison by position matches as far,
diverges at the same position or not at all, with the records and the kind exchanged, and ends on a
match with the same key. -/
theorem positional_exact_exchanged (driver : Driver) (reference candidate : List Record) :
    (positional candidate reference .exact driver.other).matched =
        (positional reference candidate .exact driver).matched ∧
      (positional candidate reference .exact driver.other).divergence =
        (positional reference candidate .exact driver).divergence.map Divergence.exchanged ∧
      (positional candidate reference .exact driver.other).lastMatch.map Record.key =
        (positional reference candidate .exact driver).lastMatch.map Record.key := by
  have agreed := MatchRule.agreement_exact_comm reference candidate
  have keys := MatchRule.keys_take_agreement_exact reference candidate
  rw [positional_eq, positional_eq, agreed]
  refine ⟨rfl, divergenceAt?_exchanged driver _ _ _, ?_⟩
  dsimp only
  rw [← List.getLast?_map, ← List.getLast?_map, keys]

/-- An exact comparison by position matches no more than one by membership, and where it goes through
the reference without divergence the two find the same. -/
theorem membership_of_positional_exact (reference candidate : List Record) :
    (positional reference candidate .exact .reference).matched ≤
        (membership reference (.ofRecords candidate)).matched ∧
      ((positional reference candidate .exact .reference).divergence = none →
        (membership reference (.ofRecords candidate)).divergence = none ∧
          (membership reference (.ofRecords candidate)).matched =
            (positional reference candidate .exact .reference).matched ∧
          (membership reference (.ofRecords candidate)).lastMatch =
            (positional reference candidate .exact .reference).lastMatch) := by
  have present := KeyIndex.agreement_exact_le_presence reference candidate
  have covers : (positional reference candidate .exact .reference).divergence = none →
      MatchRule.exact.agreement reference candidate = reference.length :=
    (positional_divergence_eq_none_iff .exact .reference).mp
  rw [positional_eq] at covers ⊢
  rw [membership_eq]
  refine ⟨present, ?_⟩
  intro undiverged
  have covered := covers undiverged
  have full : (KeyIndex.ofRecords candidate).presence reference = reference.length := by
    have bound := (KeyIndex.ofRecords candidate).presence_le_length reference
    omega
  rw [full, covered, List.getElem?_eq_none (Nat.le_refl _)]
  exact ⟨rfl, rfl, rfl⟩

end Comparison

end Lockstep
