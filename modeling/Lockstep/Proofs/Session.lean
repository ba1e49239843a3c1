import Lockstep.Proofs.Configuration.Growth
import Lockstep.Proofs.Outcome.Provenance

set_option autoImplicit false
set_option relaxedAutoImplicit false

/-!
Sessions step by step. The results of a session are those of runs after each of its steps, so what a step
keeps holds of all results: the two files stay the same, and as long as lines are only added no result
takes back what an earlier one has settled. Every step can be undone.
-/

namespace Lockstep.Session

variable {s : Session} {step : Step} {steps : List Step} {o : Outcome}

def afterAll (s : Session) (steps : List Step) : Session :=
  steps.foldl after s

theorem afterAll_append (s : Session) (steps more : List Step) :
    s.afterAll (steps ++ more) = (s.afterAll steps).afterAll more :=
  List.foldl_append

theorem getElem?_runs (s : Session) (steps : List Step) (k : Nat) :
    (s.runs steps)[k]? = steps[k]?.map fun _ => (s.afterAll (steps.take (k + 1))).run := by
  induction steps generalizing s k with
  | nil => rfl
  | cons step steps ih =>
    cases k with
    | zero => rfl
    | succ k => exact ih (s.after step) k

/-- The results of a session are those of its runs after its first steps, at least one of them. -/
theorem mem_runs_iff {result : Except Fault Outcome} :
    result ∈ s.runs steps ↔
      ∃ front, front <+: steps ∧ front ≠ [] ∧ (s.afterAll front).run = result := by
  simp only [List.mem_iff_getElem?, getElem?_runs, Option.map_eq_some_iff]
  constructor
  · rintro ⟨k, step, here, ran⟩
    refine ⟨steps.take (k + 1), List.take_prefix _ _, ?_, ran⟩
    obtain ⟨inside, -⟩ := List.getElem?_eq_some_iff.mp here
    rw [Ne, List.take_eq_nil_iff]
    rintro (none | rfl)
    · cases none
    · exact absurd inside (Nat.not_lt_zero _)
  · rintro ⟨front, leading, some, ran⟩
    have filled := List.length_pos_iff.mpr some
    have last : front.length - 1 + 1 = front.length := Nat.sub_add_cancel filled
    have inside : front.length - 1 < steps.length :=
      Nat.lt_of_lt_of_le (Nat.sub_one_lt_of_lt filled) leading.length_le
    refine ⟨front.length - 1, _, List.getElem?_eq_getElem inside, ?_⟩
    rw [last, ← List.prefix_iff_eq_take.mp leading]
    exact ran

def undo (s : Session) : Step → Step
  | .keep => .keep
  | .configure _ => .configure s.config
  | .adjust _ => .configure s.config
  | .appendReference _ => .truncateReference s.reference.lines.length
  | .appendCandidate _ => .truncateCandidate s.candidate.lines.length
  | .truncateReference count => .appendReference (s.reference.lines.drop count)
  | .truncateCandidate count => .appendCandidate (s.candidate.lines.drop count)
  | .swap => .swap

theorem after_undo (s : Session) (step : Step) : (s.after step).after (s.undo step) = s := by
  obtain ⟨config, ⟨path, lines⟩, ⟨path', lines'⟩⟩ := s
  cases step with
  | keep => rfl
  | configure config => rfl
  | adjust settings => rfl
  | appendReference more => simp [after, undo, TraceFile.append, TraceFile.truncate]
  | appendCandidate more => simp [after, undo, TraceFile.append, TraceFile.truncate]
  | truncateReference count => simp [after, undo, TraceFile.append, TraceFile.truncate]
  | truncateCandidate count => simp [after, undo, TraceFile.append, TraceFile.truncate]
  | swap => rfl

/-- The steps that lead back to a session from where several steps led, the last of these first. -/
def undoAll : Session → List Step → List Step
  | _, [] => []
  | s, step :: steps => (s.after step).undoAll steps ++ [s.undo step]

/-- Every session can be led back to where it began. -/
theorem afterAll_undoAll (s : Session) (steps : List Step) :
    (s.afterAll steps).afterAll (s.undoAll steps) = s := by
  induction steps generalizing s with
  | nil => rfl
  | cons step steps ih =>
    have back : (s.afterAll (step :: steps)).afterAll ((s.after step).undoAll steps) = s.after step :=
      ih (s.after step)
    rw [undoAll, afterAll_append, back]
    exact s.after_undo step

def files (s : Session) : List Text :=
  [s.reference.path, s.candidate.path]

theorem files_after (s : Session) (step : Step) : (s.after step).files.Perm s.files := by
  cases step with
  | swap => exact List.Perm.swap _ _ _
  | _ => exact List.Perm.refl _

theorem files_afterAll (s : Session) (steps : List Step) : (s.afterAll steps).files.Perm s.files := by
  induction steps generalizing s with
  | nil => exact List.Perm.refl _
  | cons step steps ih => exact (ih (s.after step)).trans (s.files_after step)

/-- Every outcome of a session names the two files that the session began with, and shows what comes from
their lines at its time. -/
theorem grounded_of_mem_runs (h : .ok o ∈ s.runs steps) :
    [o.referencePath, o.candidatePath].Perm s.files ∧
      ∃ front, front <+: steps ∧
        o.Grounded (s.afterAll front).config (s.afterAll front).reference
          (s.afterAll front).candidate := by
  obtain ⟨front, leading, -, ran⟩ := mem_runs_iff.mp h
  refine ⟨?_, front, leading, Configuration.grounded_of_run ran⟩
  obtain ⟨marked, span, -, -, rfl⟩ := Configuration.run_eq_ok_iff.mp ran
  exact s.files_afterAll front

inductive Step.Grows : Step → Prop
  | keep : Grows .keep
  | appendReference (lines : List Text) : Grows (.appendReference lines)
  | appendCandidate (lines : List Text) : Grows (.appendCandidate lines)

/-- A session goes on from another when only lines have been added. -/
structure Extends (s s' : Session) : Prop where
  config : s'.config = s.config
  reference : ∃ more, s'.reference = s.reference.append more
  candidate : ∃ more, s'.candidate = s.candidate.append more

theorem Step.Grows.extends (h : step.Grows) (s : Session) : s.Extends (s.after step) := by
  have same (trace : TraceFile) : trace = trace.append [] := by
    rw [TraceFile.append, List.append_nil]
  cases h with
  | keep => exact ⟨rfl, ⟨[], same _⟩, [], same _⟩
  | appendReference lines => exact ⟨rfl, ⟨lines, rfl⟩, [], same _⟩
  | appendCandidate lines => exact ⟨rfl, ⟨[], same _⟩, lines, rfl⟩

theorem extends_afterAll (s : Session) (grow : ∀ step ∈ steps, step.Grows) :
    s.Extends (s.afterAll steps) := by
  have joined (trace : TraceFile) (more more' : List Text) :
      (trace.append more).append more' = trace.append (more ++ more') := by
    simp [TraceFile.append]
  induction steps generalizing s with
  | nil => exact Step.Grows.keep.extends s
  | cons step steps ih =>
    obtain ⟨first, others⟩ := List.forall_mem_cons.mp grow
    obtain ⟨config, ⟨x, reference⟩, y, candidate⟩ := first.extends s
    obtain ⟨config', ⟨x', reference'⟩, y', candidate'⟩ := ih (s.after step) others
    refine ⟨config'.trans config, ⟨x ++ x', ?_⟩, y ++ y', ?_⟩
    · rw [← joined, ← reference]
      exact reference'
    · rw [← joined, ← candidate]
      exact candidate'

/-- As long as lines are only added, no result of a session takes back what its run had settled: all of
them are outcomes from the same line with as many matches at least, and a mismatch stays. -/
theorem runs_of_grows (h : s.run = .ok o) (grow : ∀ step ∈ steps, step.Grows)
    (target : s.config.alignment = .targetSearch →
      s.config.candidate.records s.candidate.lines ≠ []) :
    ∀ result ∈ s.runs steps, ∃ o', result = .ok o' ∧ o'.startLine = o.startLine ∧
      o.comparison.matched ≤ o'.comparison.matched ∧
      ∀ d, o.comparison.divergence = some d → d.kind = .mismatch →
        o'.comparison = o.comparison := by
  intro result member
  obtain ⟨front, leading, -, rfl⟩ := mem_runs_iff.mp member
  obtain ⟨config, ⟨x, reference⟩, y, candidate⟩ :=
    s.extends_afterAll fun step inside => grow step (leading.subset inside)
  rw [run, config, reference, candidate]
  exact Configuration.exists_run_append h target x y

end Lockstep.Session
