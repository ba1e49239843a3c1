import Lockstep.Comparison
import Lockstep.Proofs.Text.Search

set_option autoImplicit false
set_option relaxedAutoImplicit false

/-!
How far two traces agree. A comparison by position is settled by the length of the agreement alone:
it stops there with what the traces hold at that position, and the reference record before it is the
last match. A comparison by membership is settled in the same way by how many leading addresses are
present. Traces that grow at their ends never agree on less.
-/

namespace Lockstep

namespace MatchRule

/-- The number of leading positions at which both traces have records that match. -/
def agreement (rule : MatchRule) : List Record → List Record → Nat
  | r :: rs, c :: cs => if rule.admits r.key c.key then rule.agreement rs cs + 1 else 0
  | _, _ => 0

variable (rule : MatchRule)

@[simp] theorem agreement_nil_left (candidate : List Record) :
    rule.agreement [] candidate = 0 := by
  rw [agreement]
  simp

@[simp] theorem agreement_nil_right (reference : List Record) :
    rule.agreement reference [] = 0 := by
  rw [agreement]
  simp

theorem agreement_cons (r c : Record) (rs cs : List Record) :
    rule.agreement (r :: rs) (c :: cs) =
      if rule.admits r.key c.key then rule.agreement rs cs + 1 else 0 := rfl

theorem one_le_agreement {r c : Record} (admitted : rule.admits r.key c.key = true)
    (rs cs : List Record) : 1 ≤ rule.agreement (r :: rs) (c :: cs) := by
  rw [agreement_cons, if_pos admitted]
  exact Nat.le_add_left 1 _

theorem le_zero_iff_forall_lt {p : Nat → Prop} {m : Nat} (never : ¬p 0) :
    m ≤ 0 ↔ ∀ i < m, p i := by
  refine ⟨fun none i hi => absurd hi (by omega), ?_⟩
  intro each
  apply Nat.le_of_not_lt
  intro pos
  exact never (each 0 pos)

theorem le_agreement_iff {reference candidate : List Record} {m : Nat} :
    m ≤ rule.agreement reference candidate ↔
      ∀ i < m, ∃ r c, reference[i]? = some r ∧ candidate[i]? = some c ∧
        rule.admits r.key c.key = true := by
  induction reference generalizing candidate m with
  | nil =>
    rw [agreement_nil_left]
    refine le_zero_iff_forall_lt ?_
    rintro ⟨r, c, found, -⟩
    cases found
  | cons r rs ih =>
    cases candidate with
    | nil =>
      rw [agreement_nil_right]
      refine le_zero_iff_forall_lt ?_
      rintro ⟨r, c, -, found, -⟩
      cases found
    | cons c cs =>
      cases m with
      | zero => simp
      | succ m =>
        rw [agreement_cons, Nat.forall_lt_succ_left]
        simp only [List.getElem?_cons_zero, List.getElem?_cons_succ, Option.some.injEq, ← ih]
        split
        · rename_i admitted
          rw [Nat.add_le_add_iff_right]
          exact ⟨fun further => ⟨⟨r, c, rfl, rfl, admitted⟩, further⟩, And.right⟩
        · rename_i refused
          refine ⟨fun none => absurd none (Nat.not_succ_le_zero m), ?_⟩
          rintro ⟨⟨_, _, rfl, rfl, admitted⟩, -⟩
          exact absurd admitted refused

theorem matched_of_lt_agreement {reference candidate : List Record} {i : Nat}
    (hi : i < rule.agreement reference candidate) :
    ∃ r c, reference[i]? = some r ∧ candidate[i]? = some c ∧ rule.admits r.key c.key = true :=
  rule.le_agreement_iff.mp (Nat.le_refl _) i hi

theorem admits_self (key : Key) : rule.admits key key = true := by
  cases rule with
  | exact => simp [admits]
  | contains => exact (Text.occursIn_iff_isInfix key.digits key.digits).mpr (List.infix_refl _)

def Implies (rule rule' : MatchRule) : Prop :=
  ∀ reference candidate, rule.admits reference candidate = true →
    rule'.admits reference candidate = true

theorem Implies.refl : rule.Implies rule := fun _ _ => id

theorem exact_implies_contains : exact.Implies contains := by
  intro reference candidate same
  obtain rfl : reference = candidate := by simpa [admits] using same
  exact admits_self .contains reference

theorem le_agreement_of_keys_eq {reference candidate : List Record} {m : Nat}
    (bound : m ≤ candidate.length)
    (keys : (candidate.take m).map Record.key = (reference.take m).map Record.key) :
    m ≤ rule.agreement reference candidate := by
  have lengths := congrArg List.length keys
  simp only [List.length_map, List.length_take] at lengths
  rw [le_agreement_iff]
  intro i hi
  have hr : i < reference.length := by omega
  have hc : i < candidate.length := by omega
  have same : candidate[i].key = reference[i].key := by
    have at' := congrArg (fun l : List Key => l[i]?) keys
    simpa [List.getElem?_take_of_lt hi, hr, hc] using at'
  refine ⟨reference[i], candidate[i], List.getElem?_eq_getElem hr, List.getElem?_eq_getElem hc, ?_⟩
  rw [same]
  exact rule.admits_self reference[i].key

theorem agreement_le (reference candidate : List Record) :
    rule.agreement reference candidate ≤ min reference.length candidate.length := by
  induction reference generalizing candidate with
  | nil => simp
  | cons r rs ih =>
    cases candidate with
    | nil => simp
    | cons c cs =>
      have further := ih cs
      rw [agreement_cons, List.length_cons, List.length_cons]
      split
      · omega
      · exact Nat.zero_le _

theorem agreement_le_reference (reference candidate : List Record) :
    rule.agreement reference candidate ≤ reference.length := by
  have bound := rule.agreement_le reference candidate
  omega

theorem agreement_le_candidate (reference candidate : List Record) :
    rule.agreement reference candidate ≤ candidate.length := by
  have bound := rule.agreement_le reference candidate
  omega

theorem agreement_mono {reference reference' candidate candidate' : List Record}
    (hr : reference <+: reference') (hc : candidate <+: candidate') :
    rule.agreement reference candidate ≤ rule.agreement reference' candidate' := by
  obtain ⟨x, rfl⟩ := hr
  obtain ⟨y, rfl⟩ := hc
  rw [le_agreement_iff]
  intro i hi
  obtain ⟨r, c, atR, atC, admitted⟩ := rule.matched_of_lt_agreement hi
  have inReference := (List.getElem?_eq_some_iff.mp atR).1
  have inCandidate := (List.getElem?_eq_some_iff.mp atC).1
  exact ⟨r, c, (List.getElem?_append_left inReference).trans atR,
    (List.getElem?_append_left inCandidate).trans atC, admitted⟩

theorem agreement_le_of_implies {rule rule' : MatchRule} (looser : rule.Implies rule')
    (reference candidate : List Record) :
    rule.agreement reference candidate ≤ rule'.agreement reference candidate := by
  rw [le_agreement_iff]
  intro i hi
  obtain ⟨r, c, hr, hc, admitted⟩ := rule.matched_of_lt_agreement hi
  exact ⟨r, c, hr, hc, looser r.key c.key admitted⟩

theorem agreement_take {n : Nat} {reference candidate : List Record}
    (bound : candidate.length ≤ n) :
    rule.agreement (reference.take n) candidate = rule.agreement reference candidate := by
  apply Nat.le_antisymm (rule.agreement_mono (List.take_prefix n reference) (List.prefix_refl _))
  rw [le_agreement_iff]
  intro i hi
  have inCandidate := rule.agreement_le_candidate reference candidate
  have within : i < n := by omega
  obtain ⟨r, c, hr, hc, admitted⟩ := rule.matched_of_lt_agreement hi
  exact ⟨r, c, by rw [List.getElem?_take_of_lt within, hr], hc, admitted⟩

theorem agreement_le_of_refused {reference candidate : List Record} {k : Nat} {r c : Record}
    (hr : reference[k]? = some r) (hc : candidate[k]? = some c)
    (refused : rule.admits r.key c.key = false) : rule.agreement reference candidate ≤ k := by
  apply Nat.le_of_not_lt
  intro further
  obtain ⟨r', c', hr', hc', admitted⟩ := rule.matched_of_lt_agreement further
  obtain rfl : r = r' := Option.some.inj (hr.symm.trans hr')
  obtain rfl : c = c' := Option.some.inj (hc.symm.trans hc')
  rw [refused] at admitted
  cases admitted

theorem refused_of_getElem?_agreement {reference candidate : List Record} {r c : Record}
    (hr : reference[rule.agreement reference candidate]? = some r)
    (hc : candidate[rule.agreement reference candidate]? = some c) :
    rule.admits r.key c.key = false := by
  rw [← Bool.not_eq_true]
  intro admitted
  have further : rule.agreement reference candidate + 1 ≤ rule.agreement reference candidate := by
    rw [le_agreement_iff]
    intro i hi
    rcases Nat.lt_succ_iff_lt_or_eq.mp hi with before | rfl
    · exact rule.matched_of_lt_agreement before
    · exact ⟨r, c, hr, hc, admitted⟩
  exact Nat.not_succ_le_self _ further

theorem agreement_lt_min_iff {reference candidate : List Record} :
    rule.agreement reference candidate < min reference.length candidate.length ↔
      ∃ (i : Nat) (r c : Record), reference[i]? = some r ∧ candidate[i]? = some c ∧
        rule.admits r.key c.key = false := by
  constructor
  · intro ends
    obtain ⟨inReference, inCandidate⟩ := Nat.lt_min.mp ends
    have hr := List.getElem?_eq_getElem inReference
    have hc := List.getElem?_eq_getElem inCandidate
    exact ⟨_, _, _, hr, hc, rule.refused_of_getElem?_agreement hr hc⟩
  · rintro ⟨i, r, c, hr, hc, refused⟩
    have inReference := (List.getElem?_eq_some_iff.mp hr).1
    have inCandidate := (List.getElem?_eq_some_iff.mp hc).1
    have ends := rule.agreement_le_of_refused hr hc refused
    omega

theorem agreement_eq_of_lt {reference reference' candidate candidate' : List Record}
    (hr : reference <+: reference') (hc : candidate <+: candidate')
    (hlr : rule.agreement reference candidate < reference.length)
    (hlc : rule.agreement reference candidate < candidate.length) :
    rule.agreement reference' candidate' = rule.agreement reference candidate := by
  have grown := rule.agreement_mono hr hc
  have atR := List.getElem?_eq_getElem hlr
  have atC := List.getElem?_eq_getElem hlc
  have refused := rule.refused_of_getElem?_agreement atR atC
  obtain ⟨x, rfl⟩ := hr
  obtain ⟨y, rfl⟩ := hc
  have ends : rule.agreement (reference ++ x) (candidate ++ y) ≤
      rule.agreement reference candidate :=
    rule.agreement_le_of_refused ((List.getElem?_append_left hlr).trans atR)
      ((List.getElem?_append_left hlc).trans atC) refused
  exact Nat.le_antisymm ends grown

end MatchRule

def Driver.positions (driver : Driver) (reference candidate : List Record) : Nat :=
  match driver with
  | .reference => reference.length
  | .candidate => candidate.length

theorem MatchRule.agreement_le_positions (rule : MatchRule) (driver : Driver)
    (reference candidate : List Record) :
    rule.agreement reference candidate ≤ driver.positions reference candidate := by
  cases driver with
  | reference => exact rule.agreement_le_reference reference candidate
  | candidate => exact rule.agreement_le_candidate reference candidate

namespace Comparison

/-- What a walk by position finds at the end of the agreement, from the records that the traces have
there. -/
def divergenceAt? (driver : Driver) (index : Nat) :
    Option Record → Option Record → Option Divergence
  | some r, some c => some ⟨index, .mismatch, some r, some c⟩
  | some r, none =>
    if driver = .reference then some ⟨index, .candidateEnded, some r, none⟩ else none
  | none, some c =>
    if driver = .candidate then some ⟨index, .referenceEnded, none, some c⟩ else none
  | none, none => none

@[simp] theorem divergenceAt?_reference_eq_none (index : Nat) (r c : Option Record) :
    divergenceAt? .reference index r c = none ↔ r = none := by
  cases r <;> cases c <;> simp [divergenceAt?]

@[simp] theorem divergenceAt?_candidate_eq_none (index : Nat) (r c : Option Record) :
    divergenceAt? .candidate index r c = none ↔ c = none := by
  cases r <;> cases c <;> simp [divergenceAt?]

theorem walk_eq (rule : MatchRule) (driver : Driver) (index : Nat) (last : Option Record)
    (reference candidate : List Record) :
    walk rule driver index last reference candidate =
      ⟨index + rule.agreement reference candidate,
        (reference.take (rule.agreement reference candidate)).getLast?.or last,
        divergenceAt? driver (index + rule.agreement reference candidate)
          reference[rule.agreement reference candidate]?
          candidate[rule.agreement reference candidate]?⟩ := by
  induction reference generalizing candidate index last with
  | nil => cases candidate <;> cases driver <;> simp [walk, divergenceAt?]
  | cons r rs ih =>
    cases candidate with
    | nil => cases driver <;> simp [walk, divergenceAt?]
    | cons c cs =>
      rw [walk, MatchRule.agreement_cons]
      split
      · rw [ih]
        simp only [List.take_succ_cons, List.getLast?_cons, List.getElem?_cons_succ, Option.or_some,
          Nat.add_assoc, Nat.add_comm 1]
        cases (rs.take (rule.agreement rs cs)).getLast? <;> simp
      · simp [divergenceAt?]

section Positional

variable (rule : MatchRule) {rule' : MatchRule} (driver : Driver)
  {reference reference' candidate candidate' : List Record}

theorem positional_eq (reference candidate : List Record) :
    positional reference candidate rule driver =
      ⟨rule.agreement reference candidate,
        (reference.take (rule.agreement reference candidate)).getLast?,
        divergenceAt? driver (rule.agreement reference candidate)
          reference[rule.agreement reference candidate]?
          candidate[rule.agreement reference candidate]?⟩ := by
  simp [positional, walk_eq]

theorem positional_of_keys_eq
    (keys : candidate.map Record.key = (reference.take candidate.length).map Record.key) :
    (positional reference candidate rule .candidate).matched = candidate.length ∧
      (positional reference candidate rule .candidate).divergence = none := by
  have agreed : candidate.length ≤ rule.agreement reference candidate := by
    apply rule.le_agreement_of_keys_eq (Nat.le_refl _)
    rwa [List.take_length]
  have full := Nat.le_antisymm (rule.agreement_le_candidate reference candidate) agreed
  rw [positional_eq, full, divergenceAt?_candidate_eq_none, List.getElem?_eq_none_iff]
  exact ⟨rfl, Nat.le_refl _⟩

theorem positional_of_departure {k : Nat} {r c : Record} (hr : reference[k]? = some r)
    (hc : candidate[k]? = some c)
    (keys : (candidate.take k).map Record.key = (reference.take k).map Record.key)
    (refused : rule.admits r.key c.key = false) :
    positional reference candidate rule driver =
      ⟨k, (reference.take k).getLast?, some ⟨k, .mismatch, some r, some c⟩⟩ := by
  obtain ⟨hlt, -⟩ := List.getElem?_eq_some_iff.mp hc
  have agreed : k ≤ rule.agreement reference candidate :=
    rule.le_agreement_of_keys_eq (Nat.le_of_lt hlt) keys
  have parted := rule.agreement_le_of_refused hr hc refused
  have agreement : rule.agreement reference candidate = k := by omega
  rw [positional_eq, agreement, hr, hc]
  rfl

theorem positional_divergence_eq_none_iff :
    (positional reference candidate rule driver).divergence = none ↔
      rule.agreement reference candidate = driver.positions reference candidate := by
  have bound := rule.agreement_le_positions driver reference candidate
  rw [positional_eq]
  cases driver with
  | reference =>
    rw [divergenceAt?_reference_eq_none, List.getElem?_eq_none_iff]
    exact ⟨Nat.le_antisymm bound, Nat.le_of_eq ∘ Eq.symm⟩
  | candidate =>
    rw [divergenceAt?_candidate_eq_none, List.getElem?_eq_none_iff]
    exact ⟨Nat.le_antisymm bound, Nat.le_of_eq ∘ Eq.symm⟩

theorem positional_kind_of_length_eq (length : reference.length = candidate.length) {d : Divergence}
    (diverged : (positional reference candidate rule driver).divergence = some d) :
    d.kind = .mismatch := by
  rw [positional_eq] at diverged
  rcases Nat.lt_or_ge (rule.agreement reference candidate) reference.length with within | beyond
  · rw [List.getElem?_eq_getElem within, List.getElem?_eq_getElem (length ▸ within)] at diverged
    obtain rfl := Option.some.inj diverged
    rfl
  · rw [List.getElem?_eq_none beyond, List.getElem?_eq_none (length ▸ beyond)] at diverged
    cases diverged

private theorem positional_congr (hr : reference <+: reference')
    (agreed : rule'.agreement reference' candidate' = rule.agreement reference candidate)
    (ended : divergenceAt? driver (rule.agreement reference candidate)
        reference'[rule.agreement reference candidate]?
        candidate'[rule.agreement reference candidate]? =
      divergenceAt? driver (rule.agreement reference candidate)
        reference[rule.agreement reference candidate]?
        candidate[rule.agreement reference candidate]?) :
    positional reference' candidate' rule' driver = positional reference candidate rule driver := by
  have taken : reference'.take (rule.agreement reference candidate) =
      reference.take (rule.agreement reference candidate) := by
    obtain ⟨x, rfl⟩ := hr
    exact List.take_append_of_le_length (rule.agreement_le_reference reference candidate)
  rw [positional_eq, positional_eq, agreed, taken, ended]

theorem positional_eq_of_mismatch (hr : reference <+: reference') (hc : candidate <+: candidate')
    {d : Divergence} (diverged : (positional reference candidate rule driver).divergence = some d)
    (mismatch : d.kind = .mismatch) :
    positional reference' candidate' rule driver = positional reference candidate rule driver := by
  rw [positional_eq] at diverged
  obtain ⟨r, c, atR, atC⟩ : ∃ r c,
      reference[rule.agreement reference candidate]? = some r ∧
        candidate[rule.agreement reference candidate]? = some c := by
    cases atR : reference[rule.agreement reference candidate]? <;>
      cases atC : candidate[rule.agreement reference candidate]? <;>
      cases driver <;> simp [divergenceAt?, atR, atC] at diverged <;> simp [← diverged] at mismatch
    all_goals exact ⟨_, _, rfl, rfl⟩
  obtain ⟨hlr, -⟩ := List.getElem?_eq_some_iff.mp atR
  obtain ⟨hlc, -⟩ := List.getElem?_eq_some_iff.mp atC
  apply positional_congr rule driver hr (rule.agreement_eq_of_lt hr hc hlr hlc)
  obtain ⟨x, rfl⟩ := hr
  obtain ⟨y, rfl⟩ := hc
  rw [List.getElem?_append_left hlr, List.getElem?_append_left hlc]

theorem positional_eq_of_settled (looser : rule.Implies rule') (hr : reference <+: reference')
    (hc : candidate <+: candidate')
    (bounded : driver.positions reference' candidate' = driver.positions reference candidate)
    (settled : (positional reference candidate rule driver).divergence = none) :
    positional reference' candidate' rule' driver = positional reference candidate rule driver := by
  have covered := (positional_divergence_eq_none_iff rule driver).mp settled
  have grown := rule.agreement_mono hr hc
  have loosened := MatchRule.agreement_le_of_implies looser reference' candidate'
  have bound := rule'.agreement_le_positions driver reference' candidate'
  have agreed : rule'.agreement reference' candidate' = rule.agreement reference candidate := by
    omega
  have settled' : (positional reference' candidate' rule' driver).divergence = none := by
    rw [positional_divergence_eq_none_iff, agreed, covered, bounded]
  rw [positional_eq] at settled settled'
  rw [agreed] at settled'
  exact positional_congr rule driver hr agreed (settled'.trans settled.symm)

theorem positional_eq_of_candidate_driver (hr : reference <+: reference')
    (matched : (positional reference candidate rule .candidate).divergence = none) :
    positional reference' candidate rule .candidate =
      positional reference candidate rule .candidate :=
  positional_eq_of_settled rule .candidate (.refl rule) hr (List.prefix_refl candidate) rfl matched

theorem positional_eq_of_reference_driver (hc : candidate <+: candidate')
    (matched : (positional reference candidate rule .reference).divergence = none) :
    positional reference candidate' rule .reference =
      positional reference candidate rule .reference :=
  positional_eq_of_settled rule .reference (.refl rule) (List.prefix_refl reference) hc rfl matched

theorem positional_take {n : Nat} (bound : candidate.length ≤ n) :
    positional (reference.take n) candidate rule .candidate =
      positional reference candidate rule .candidate := by
  have agreed : rule.agreement (reference.take n) candidate =
      rule.agreement reference candidate := rule.agreement_take bound
  refine (positional_congr rule .candidate (List.take_prefix n reference) agreed.symm ?_).symm
  rw [agreed]
  rcases Nat.lt_or_ge (rule.agreement reference candidate) n with within | beyond
  · rw [List.getElem?_take_of_lt within]
  · rw [List.getElem?_eq_none (Nat.le_trans bound beyond)]
    exact ((divergenceAt?_candidate_eq_none _ _ _).mpr rfl).trans
      ((divergenceAt?_candidate_eq_none _ _ _).mpr rfl).symm

end Positional

end Comparison

end Lockstep
