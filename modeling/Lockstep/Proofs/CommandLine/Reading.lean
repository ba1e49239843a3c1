import Lockstep.Proofs.CommandLine.Given
import Lockstep.Proofs.Configuration.Resolution

set_option autoImplicit false
set_option relaxedAutoImplicit false

/-!
Command lines with flags and without them. A command line that is accepted with flags is accepted
without them, and asks for the same comparison.
-/

namespace Lockstep.CommandLine

theorem stageNamed?_eq_command_iff {word : Text} {c : Tool} :
    stageNamed? word = some (.command c) ↔ word = c.name := by
  constructor
  · intro h
    unfold stageNamed? at h
    split at h
    · cases h
    · obtain ⟨d, found, same⟩ := Option.map_eq_some_iff.mp h
      cases same
      simpa [eq_comm] using List.find?_some found
  · rintro rfl
    cases c <;> decide

namespace Scan

variable {s s' t : Scan} {asked : Bool} {word : Text}

/-- The reading `s'` is the reading `s` without the flags, before the name of the command and after it. -/
structure Follows (asked : Bool) (s' s : Scan) : Prop where
  stage : s'.stage = s.stage
  ended : s'.ended = s.ended
  opening : s.stage = .program → s.before.failing = false
  before : Given.Follows s.before.failing s'.before s.before
  given : Given.Follows s.given.failing s'.given s.given
  failing : (s.before.failing || s.given.failing) = asked

theorem read_singleton (s : Scan) (word : Text) : s.read [word] = s.step word := by
  unfold read
  cases s.step word <;> rfl

theorem read_cons (s : Scan) (word : Text) (words : List Text) :
    s.read (word :: words) = (s.step word).bind fun t => t.read words := by
  rw [read]
  cases s.step word <;> rfl

theorem read_cons_eq_ok_iff {words : List Text} :
    s.read (word :: words) = .ok t ↔ ∃ u, s.step word = .ok u ∧ u.read words = .ok t := by
  rw [read_cons]
  cases s.step word <;> simp [Except.bind]

theorem Follows.with_given {g g' : Given} {more : Bool} (r : Follows asked s' s)
    (h : Given.Follows (s.given.failing || more) g' g) :
    Follows (asked || more) { s' with given := g' } { s with given := g } := by
  refine ⟨r.stage, r.ended, r.opening, r.before, ?_, ?_⟩
  · rw [h.failing_eq]
    exact h
  · rw [← r.failing, h.failing_eq, Bool.or_assoc]

theorem Follows.with_given_same {g g' : Given} (r : Follows asked s' s)
    (h : Given.Follows s.given.failing g' g) :
    Follows asked { s' with given := g' } { s with given := g } := by
  have same : Given.Follows (s.given.failing || false) g' g := by rwa [Bool.or_false]
  have next := r.with_given same
  rwa [Bool.or_false] at next

theorem opened?_eq_some_iff {stage : Stage} :
    s.opened? word = some stage ↔
      s.stage = .program ∧ s.given.awaited? = none ∧ stageNamed? word = some stage := by
  simp [opened?, and_assoc]

/-- A word at a point where it is read for its shape: it opens no stage, no help is asked on it, and
parameters have not ended. -/
structure Unopened (s : Scan) (word : Text) : Prop where
  opened : s.opened? word = none
  running : s.ended = false
  helpless : ∀ named, s.stage ≠ .help named

theorem Unopened.step_eq (u : Unopened s word) : s.step word = s.readWord word := by
  unfold step
  split
  · next named stage => exact absurd stage (u.helpless named)
  · rw [u.running, u.opened]
    rfl

theorem Unopened.of_dash (u : Unopened s word) (rest : Text) : Unopened s ('-' :: rest) := by
  refine ⟨?_, u.running, u.helpless⟩
  rw [opened?, stageNamed?_of_dash, ite_self]

theorem Follows.unopened (r : Follows asked s' s) (u : Unopened s word) : Unopened s' word := by
  refine ⟨?_, ?_, ?_⟩
  · rw [← u.opened, opened?, opened?, r.stage, r.given.awaited?_eq]
  · rw [r.ended, u.running]
  · rw [r.stage]
    exact u.helpless

/-- What is left of a word without its flags takes `s'` to a reading that follows `t`. -/
def Keeps (asked : Bool) (s' : Scan) (word : Text) (t : Scan) : Prop :=
  ∃ t', s'.read (Word.unflagged? word).toList = .ok t' ∧
    Follows (asked || word == Word.failingFlag) t' t

theorem Keeps.of_left {left : Text} (h : Word.unflagged? word = some left)
    (other : (word == Word.failingFlag) = false)
    (step : ∃ t', s'.step left = .ok t' ∧ Follows asked t' t) : Keeps asked s' word t := by
  unfold Keeps
  rw [h, other, Bool.or_false, Option.toList_some, read_singleton]
  exact step

theorem Keeps.of_dropped (h : Word.unflagged? word = none)
    (r : Follows (asked || word == Word.failingFlag) s' t) : Keeps asked s' word t := by
  unfold Keeps
  rw [h]
  exact ⟨s', rfl, r⟩

theorem Follows.read_kept (r : Follows asked s' s) (u : Unopened s word)
    (kept : Word.unflagged? word = some word) (other : (word == Word.failingFlag) = false)
    (h : ∃ t', s'.readWord word = .ok t' ∧ Follows asked t' t) :
    Keeps asked s' word t := by
  apply Keeps.of_left kept other
  rw [(r.unopened u).step_eq]
  exact h

theorem Follows.readWord_long (r : Follows asked s' s) (u : Unopened s word) {name : Text}
    {value : Option Text} (shape : Word.ofText word = .long name value)
    (h : s.readWord word = .ok t) :
    Keeps asked s' word t := by
  simp only [Scan.readWord, shape] at h
  obtain ⟨g, read, rfl⟩ := map_eq_ok_iff.mp h
  by_cases flag : value = none ∧ Parameter.isFlagName name = true
  · obtain ⟨rfl, flag⟩ := flag
    have dropped : Word.unflagged? word = none := by
      simp only [Word.unflagged?, shape, if_pos flag]
    have spelled : (word == Word.failingFlag) = (name == "fail-on-divergence".toList) := by
      rw [Word.ofText_eq_long_none shape]
      rfl
    apply Keeps.of_dropped dropped
    rw [spelled]
    exact r.with_given (r.given.readLong_flag read flag)
  · have plain : value.isSome = true ∨ Parameter.isFlagName name = false := by
      cases value with
      | none => exact .inr (Bool.eq_false_iff.mpr fun named => flag ⟨rfl, named⟩)
      | some _ => exact .inl rfl
    have kept : Word.unflagged? word = some word := by
      cases value with
      | none =>
        have unnamed : ¬Parameter.isFlagName name = true := fun named => flag ⟨rfl, named⟩
        simp only [Word.unflagged?, shape, if_neg unnamed]
      | some _ => simp only [Word.unflagged?, shape]
    have other : (word == Word.failingFlag) = false := by
      apply Word.ne_failingFlag
      rw [shape]
      rintro ⟨⟩
      exact flag ⟨rfl, by decide⟩
    apply r.read_kept u kept other
    rw [← r.stage] at read
    obtain ⟨g', read', later⟩ := r.given.readLong read plain
    simp only [Scan.readWord, shape]
    exact ⟨_, map_eq_ok_iff.mpr ⟨g', read', rfl⟩, r.with_given_same later⟩

theorem Follows.readWord_letters (r : Follows asked s' s) (u : Unopened s word) {row : Text}
    (shape : Word.ofText word = .letters row) (h : s.readWord word = .ok t) :
    Keeps asked s' word t := by
  obtain ⟨nonempty, rfl⟩ := Word.ofText_eq_letters shape
  have other : ('-' :: row == Word.failingFlag) = false := by
    apply Word.ne_failingFlag
    rw [shape]
    rintro ⟨⟩
  simp only [Scan.readWord, shape] at h
  split at h
  · next number =>
    obtain ⟨awaited, digits⟩ := Bool.and_eq_true_iff.mp number
    have waiting : s.given.awaited? = some .offset := of_decide_eq_true awaited
    have kept : Word.unflagged? ('-' :: row) = some ('-' :: row) := by
      cases row with
      | nil => exact absurd rfl nonempty
      | cons c rest => simp only [Word.unflagged?, shape, Word.dropWhile_of_isNumber digits]
    apply r.read_kept u kept other
    simp only [Scan.readWord, shape, r.given.awaited?_eq, if_pos number]
    cases h
    exact ⟨_, rfl, r.with_given_same (r.given.supply waiting _)⟩
  · next notNumber =>
    obtain ⟨g, read, rfl⟩ := map_eq_ok_iff.mp h
    rw [← r.stage] at read
    obtain ⟨g', read', later⟩ := r.given.readLetters read
    cases left : row.dropWhile Parameter.isFlagLetter with
    | nil =>
      have dropped : Word.unflagged? ('-' :: row) = none := by
        simp only [Word.unflagged?, shape, left]
      rw [left] at read'
      cases read'
      apply Keeps.of_dropped dropped
      rw [other, Bool.or_false]
      exact r.with_given_same later
    | cons c rest =>
      have stripped : Word.unflagged? ('-' :: row) = some ('-' :: c :: rest) := by
        simp only [Word.unflagged?, shape, left]
      rw [left] at read'
      have shape' : Word.ofText ('-' :: c :: rest) = .letters (c :: rest) :=
        Word.ofText_letters (Given.ne_dash_of_readLetters read')
      have waiting : s'.given.awaited? = none := Given.awaited?_of_readLetters read'
      have step' : s'.step ('-' :: c :: rest) = .ok { s' with given := g' } := by
        rw [((r.unopened u).of_dash _).step_eq]
        simp only [Scan.readWord, shape', waiting]
        exact map_eq_ok_iff.mpr ⟨g', read', rfl⟩
      exact Keeps.of_left stripped other ⟨_, step', r.with_given_same later⟩

theorem Follows.readWord (r : Follows asked s' s) (u : Unopened s word)
    (h : s.readWord word = .ok t) :
    Keeps asked s' word t := by
  cases shape : Word.ofText word with
  | long name value => exact r.readWord_long u shape h
  | letters row => exact r.readWord_letters u shape h
  | dashes =>
    have kept : Word.unflagged? word = some word := by simp only [Word.unflagged?, shape]
    have other : (word == Word.failingFlag) = false := Word.ne_failingFlag (by simp [shape])
    apply r.read_kept u kept other
    simp only [Scan.readWord, shape] at h ⊢
    cases h
    exact ⟨_, rfl, ⟨r.stage, rfl, r.opening, r.before, r.given, r.failing⟩⟩
  | plain =>
    have kept : Word.unflagged? word = some word := by simp only [Word.unflagged?, shape]
    have other : (word == Word.failingFlag) = false := Word.ne_failingFlag (by simp [shape])
    apply r.read_kept u kept other
    simp only [Scan.readWord, shape, r.given.awaited?_eq] at h ⊢
    cases awaited : s.given.awaited? with
    | none =>
      rw [awaited] at h
      cases h
    | some p =>
      rw [awaited] at h
      cases h
      exact ⟨_, rfl, r.with_given_same (r.given.supply awaited word)⟩

theorem Follows.step_help (r : Follows asked s' s) {named : Bool} (stage : s.stage = .help named)
    (h : s.step word = .ok t) :
    Keeps asked s' word t := by
  have stage' : s'.stage = .help named := r.stage.trans stage
  simp only [Scan.step, stage, readTopic] at h
  split at h
  · next topic =>
    obtain ⟨kept, other⟩ := unflagged?_of_stageNamed (Bool.and_eq_true_iff.mp topic).2
    cases h
    apply Keeps.of_left kept other
    simp only [Scan.step, stage', readTopic, if_pos topic]
    have closed : Stage.help true = .program → s.before.failing = false := by rintro ⟨⟩
    exact ⟨_, rfl, ⟨rfl, r.ended, closed, r.before, r.given, r.failing⟩⟩
  · cases h

theorem Follows.step_opened (r : Follows asked s' s) {stage : Stage}
    (opened : s.opened? word = some stage) (h : s.step word = .ok t) :
    Keeps asked s' word t := by
  have opened' : s'.opened? word = some stage := by
    rw [← opened, opened?, opened?, r.stage, r.given.awaited?_eq]
  obtain ⟨program, name⟩ : s.stage = .program ∧ stageNamed? word = some stage := by
    unfold opened? at opened
    split at opened
    · next here => exact ⟨of_decide_eq_true (Bool.and_eq_true_iff.mp here).1, opened⟩
    · cases opened
  have program' : s'.stage = .program := r.stage.trans program
  obtain ⟨kept, other⟩ := unflagged?_of_stageNamed (Option.isSome_of_eq_some name)
  simp only [Scan.step, program, opened] at h
  split at h
  · cases h
  · next running =>
    cases h
    apply Keeps.of_left kept other
    rw [← r.ended] at running
    simp only [Scan.step, program', opened', if_neg running]
    have later : stage = .program → s.given.failing = false := by
      rintro rfl
      exact absurd name (stageNamed?_ne_program word)
    refine ⟨_, rfl, ⟨rfl, rfl, later, r.given, Given.follows_empty, ?_⟩⟩
    rw [← r.failing, r.opening program, Bool.false_or]
    exact Bool.or_false _

theorem Follows.step (r : Follows asked s' s) (h : s.step word = .ok t) :
    Keeps asked s' word t := by
  by_cases help : ∃ named, s.stage = .help named
  · obtain ⟨named, stage⟩ := help
    exact r.step_help stage h
  · cases opened : s.opened? word with
    | some stage => exact r.step_opened opened h
    | none =>
      have helpless := not_exists.mp help
      have running : s.ended = false := by
        rw [Bool.eq_false_iff]
        intro ended
        unfold Scan.step at h
        split at h
        · next named stage => exact helpless named stage
        · rw [if_pos ended] at h
          cases h
      have u : Unopened s word := ⟨opened, running, helpless⟩
      rw [u.step_eq] at h
      exact r.readWord u h

theorem read_append (s : Scan) (words more : List Text) :
    s.read (words ++ more) = (s.read words).bind fun t => t.read more := by
  induction words generalizing s with
  | nil => rfl
  | cons word words ih =>
    rw [List.cons_append, read_cons, read_cons]
    cases s.step word with
    | error refusal => rfl
    | ok t => exact ih t

theorem Follows.read (r : Follows asked s' s) {words : List Text} (h : s.read words = .ok t) :
    ∃ t', s'.read (words.filterMap Word.unflagged?) = .ok t' ∧
      Follows (asked || words.contains Word.failingFlag) t' t := by
  induction words generalizing s s' asked with
  | nil =>
    cases h
    exact ⟨s', rfl, by simpa using r⟩
  | cons word words ih =>
    obtain ⟨u, first, rest⟩ := read_cons_eq_ok_iff.mp h
    obtain ⟨u', read, next⟩ := r.step first
    obtain ⟨t', reads, last⟩ := ih next rest
    have split : (word :: words).filterMap Word.unflagged? =
        (Word.unflagged? word).toList ++ words.filterMap Word.unflagged? := by
      rw [List.filterMap_cons]
      cases Word.unflagged? word <;> rfl
    have either : (word :: words).contains Word.failingFlag =
        (word == Word.failingFlag || words.contains Word.failingFlag) := by
      rw [List.contains_cons, Bool.beq_comm]
    refine ⟨t', ?_, ?_⟩
    · rw [split, read_append, read]
      exact reads
    · rw [either, ← Bool.or_assoc]
      exact last

theorem finish_eq_ok_iff {i : Invocation} :
    s.finish = .ok i ↔ ∃ c before after reference dump, s.stage = .command c ∧
      s.before.close = .ok before ∧ s.given.close = .ok after ∧
      after.findSome? Argument.reference? = some reference ∧
      after.findSome? Argument.dump? = some dump ∧
      i = .ofArguments c before after reference dump := by
  unfold finish
  cases stage : s.stage with
  | program =>
    cases s.given.settle <;> simp [Except.bind]
  | help named => simp
  | command c =>
    cases closed : s.given.close with
    | error refusal => simp [Except.bind]
    | ok after =>
      cases reference : after.findSome? Argument.reference? with
      | none => simp [Except.bind, reference]
      | some path =>
        cases dump : after.findSome? Argument.dump? with
        | none => simp [Except.bind, reference, dump]
        | some path' =>
          simp only [Except.bind, reference, dump, map_eq_ok_iff]
          constructor
          · rintro ⟨before, ahead, rfl⟩
            exact ⟨c, before, after, path, path', rfl, ahead, rfl, reference, dump, rfl⟩
          · rintro ⟨_, before, _, _, _, ⟨⟩, ahead, ⟨⟩, found, found', rfl⟩
            cases reference.symm.trans found
            cases dump.symm.trans found'
            exact ⟨before, ahead, rfl⟩

end Scan

theorem Scan.Follows.finish {asked : Bool} {s s' : Scan} (r : Follows asked s' s) {i : Invocation}
    (h : s.finish = .ok i) : s'.finish = .ok i.unflagged ∧ i.failOnDivergence = asked := by
  obtain ⟨c, before, after, reference, dump, stage, ahead, closed, given, given', rfl⟩ :=
    finish_eq_ok_iff.mp h
  obtain ⟨closed', failing⟩ := r.given.close closed
  obtain ⟨ahead', failing'⟩ := r.before.close ahead
  have paths {field : Argument → Option Text} (verbose : field .verbose = none)
      (silent : field .silent = none) (failing : field .failOnDivergence = none) :=
    findSome?_withoutFlags verbose silent failing after
  constructor
  · rw [← Invocation.ofArguments_withoutFlags]
    exact finish_eq_ok_iff.mpr ⟨c, _, _, reference, dump, r.stage.trans stage, ahead', closed',
      (paths rfl rfl rfl).trans given, (paths rfl rfl rfl).trans given', rfl⟩
  · rw [← r.failing, ← failing, ← failing']
    rfl

theorem Invocation.ofWords_eq_ok_iff {words : List Text} {i : Invocation} :
    ofWords words = .ok i ↔ ∃ s, Scan.start.read words = .ok s ∧ s.finish = .ok i := by
  rw [ofWords]
  cases Scan.start.read words <;> simp [Except.bind]

end Lockstep.CommandLine
