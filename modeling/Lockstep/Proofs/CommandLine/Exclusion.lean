import Lockstep.Proofs.CommandLine.Reading

set_option autoImplicit false
set_option relaxedAutoImplicit false

/-!
Verbose and silent output. On each side of a command's name the two flags exclude each other, in whatever
form they are written. Across the name they do not: an accepted command line asks for both exactly when
one of them stands before the name and the other behind it.
-/

namespace Lockstep.CommandLine

def flagArguments : List Argument := [.verbose, .silent, .failOnDivergence]

def flagNamed? (name : Text) : Option Argument :=
  flagArguments.find? fun a => a.parameter.longNames.contains name

def flagLettered? (c : Char) : Option Argument :=
  flagArguments.find? fun a => a.parameter.letter? = some c

/-- The flags in a word: the one with its long name, or those of its letters up to the first letter that
is no flag. -/
def Word.flags (word : Text) : List Argument :=
  match ofText word with
  | .long name none => (flagNamed? name).toList
  | .letters row => (row.takeWhile Parameter.isFlagLetter).filterMap flagLettered?
  | _ => []

theorem flagNamed?_of_argument {p : Parameter} {a : Argument} {name value : Text}
    (flag : p.isFlag = true) (argument : p.argument value = .ok a)
    (named : p.longNames.contains name = true) : flagNamed? name = some a := by
  have member : name ∈ p.longNames := List.contains_iff_mem.mp named
  cases p <;> first | exact absurd flag (by decide) | cases argument
  all_goals
    obtain rfl := List.mem_singleton.mp member
    decide

theorem flagLettered?_of_argument {p : Parameter} {a : Argument} {c : Char} {value : Text}
    (flag : p.isFlag = true) (argument : p.argument value = .ok a) (lettered : p.letter? = some c) :
    flagLettered? c = some a := by
  cases p <;> first | exact absurd flag (by decide) | cases argument
  all_goals cases lettered
  all_goals decide

theorem flagNamed?_eq_none {name : Text} (other : Parameter.isFlagName name = false) :
    flagNamed? name = none := by
  have unnamed : ∀ p ∈ Parameter.flags, p.longNames.contains name = false := by
    simpa [Parameter.isFlagName] using other
  have flags : ∀ a ∈ flagArguments, a.parameter ∈ Parameter.flags := by decide
  apply List.find?_eq_none.mpr
  intro a member
  simp only [unnamed _ (flags a member), Bool.false_eq_true, not_false_eq_true]

namespace Given

variable {g s t : Given} {p : Parameter} {value : Text}

def flags (g : Given) : List Argument := g.arguments.filter Argument.isFlag

def Waits (g : Given) : Prop := ∀ p value, g.pending = some (p, value) → p.takesValue = true

structure Gains (g : Given) (added : List Argument) (s : Given) : Prop where
  waits : s.Waits
  flags_eq : s.flags = g.flags ++ added

theorem waits_of_settled (h : g.pending = none) : g.Waits := by
  intro p value pending
  rw [h] at pending
  cases pending

theorem Gains.trans {added more : List Argument} (first : Gains g added s)
    (second : Gains s more t) : Gains g (added ++ more) t := by
  refine ⟨second.waits, ?_⟩
  rw [second.flags_eq, first.flags_eq, List.append_assoc]

theorem enter_gains (takes : p.takesValue = true) (h : g.enter p value = .ok s) :
    Gains g [] s := by
  refine ⟨waits_of_settled (pending_of_enter h), ?_⟩
  obtain ⟨-, a, argument, rfl⟩ := enter_eq_ok_iff.mp h
  have plain : ¬a.isFlag = true := by
    rw [Argument.isFlag, Parameter.parameter_of_argument argument,
      Parameter.isFlag_of_takesValue takes]
    exact Bool.false_ne_true
  rw [flags, List.filter_append, List.filter_cons_of_neg plain]
  rfl

theorem enter_gains_flag (flag : p.isFlag = true) (h : g.enter p value = .ok s) :
    ∃ a, p.argument value = .ok a ∧ Gains g [a] s := by
  have settled := pending_of_enter h
  obtain ⟨-, a, argument, rfl⟩ := enter_eq_ok_iff.mp h
  have flagged : a.isFlag = true := by
    rw [Argument.isFlag, Parameter.parameter_of_argument argument, flag]
  refine ⟨a, argument, waits_of_settled settled, ?_⟩
  rw [flags, List.filter_append, List.filter_cons_of_pos flagged]
  rfl

theorem settle_gains (waits : g.Waits) (h : g.settle = .ok s) : Gains g [] s := by
  obtain ⟨arguments, pending⟩ := g
  rcases pending with - | ⟨p, - | value⟩
  · cases h
    exact ⟨waits, (List.append_nil _).symm⟩
  · cases h
  · exact enter_gains (waits p _ rfl) h

theorem give_gains (waits : g.Waits) (takes : p.takesValue = true)
    (h : g.give p value = .ok s) : Gains g [] s := by
  obtain ⟨t, settled, entered⟩ := give_eq_ok_iff.mp h
  exact (settle_gains waits settled).trans (enter_gains takes entered)

theorem give_gains_flag (waits : g.Waits) (flag : p.isFlag = true)
    (h : g.give p value = .ok s) : ∃ a, p.argument value = .ok a ∧ Gains g [a] s := by
  obtain ⟨t, settled, entered⟩ := give_eq_ok_iff.mp h
  obtain ⟨a, argument, gained⟩ := enter_gains_flag flag entered
  exact ⟨a, argument, (settle_gains waits settled).trans gained⟩

theorem await_gains (waits : g.Waits) (takes : p.takesValue = true)
    (h : g.await p = .ok s) : Gains g [] s := by
  obtain ⟨t, settled, rfl⟩ := await_eq_ok_iff.mp h
  refine ⟨?_, (settle_gains waits settled).flags_eq⟩
  rintro _ _ ⟨⟩
  exact takes

theorem supply_gains (waits : g.Waits) (h : g.awaited? = some p) (value : Text) :
    Gains g [] (g.supply p value) := by
  obtain ⟨arguments, pending⟩ := g
  rcases pending with - | ⟨q, - | value⟩
  · cases h
  · cases h
    refine ⟨?_, (List.append_nil _).symm⟩
    rintro _ _ ⟨⟩
    exact waits p none rfl
  · cases h

theorem readLong_gains (waits : g.Waits) {allowed : List Parameter} {name : Text}
    {value : Option Text} (h : g.readLong allowed name value = .ok s) :
    Gains g (if value = none then (flagNamed? name).toList else []) s := by
  obtain ⟨p, -, named, ⟨v, rfl, takes, given⟩ | ⟨rfl, takes, awaited⟩ | ⟨rfl, flag, given⟩⟩ :=
    readLong_cases h
  · exact give_gains waits takes given
  · have plain : Parameter.isFlagName name = false := by
      rw [(Parameter.longName_eq named).1, Parameter.isFlag_of_takesValue takes]
    rw [flagNamed?_eq_none plain]
    exact await_gains waits takes awaited
  · obtain ⟨a, argument, gained⟩ := give_gains_flag waits flag given
    rw [flagNamed?_of_argument flag argument named]
    exact gained

theorem readLetters_gains (waits : g.Waits) {allowed : List Parameter} {letters : Text}
    (h : g.readLetters allowed letters = .ok s) :
    Gains g ((letters.takeWhile Parameter.isFlagLetter).filterMap flagLettered?) s := by
  induction letters generalizing g with
  | nil =>
    cases h
    exact ⟨waits, (List.append_nil _).symm⟩
  | cons c rest ih =>
    obtain ⟨p, -, lettered, ⟨takes, given⟩ | ⟨flag, t, given, later⟩⟩ := readLetters_cases h
    · have plain : ¬Parameter.isFlagLetter c = true := by
        rw [Parameter.isFlagLetter_eq lettered, Parameter.isFlag_of_takesValue takes]
        exact Bool.false_ne_true
      rw [List.takeWhile_cons_of_neg plain]
      split at given
      · exact await_gains waits takes given
      · exact give_gains waits takes given
    · obtain ⟨a, argument, gained⟩ := give_gains_flag waits flag given
      have flagged : Parameter.isFlagLetter c = true := by
        rw [Parameter.isFlagLetter_eq lettered, flag]
      rw [List.takeWhile_cons_of_pos flagged,
        List.filterMap_cons_some (flagLettered?_of_argument flag argument lettered)]
      exact gained.trans (ih gained.waits later)

theorem flags_of_close (waits : g.Waits) {arguments : List Argument}
    (h : g.close = .ok arguments) :
    arguments.filter Argument.isFlag = g.flags ∧
      ¬(.verbose ∈ arguments ∧ .silent ∈ arguments) := by
  unfold close at h
  cases settled : g.settle with
  | error refusal =>
    rw [settled] at h
    cases h
  | ok t =>
    rw [settled, Except.bind] at h
    split at h
    · cases h
    · next apart =>
      cases h
      have gained := (settle_gains waits settled).flags_eq
      rw [List.append_nil] at gained
      exact ⟨gained, by simpa using apart⟩

end Given

/-- Words with the name of a command between those ahead of it and those behind it: the first place where
a command's name stands for itself and not for the value of a parameter. -/
structure Commands (words before : List Text) (c : Tool) (after : List Text) : Prop where
  words_eq : words = before ++ c.name :: after
  opens : ∃ s, Scan.start.read before = .ok s ∧ s.opened? c.name = some (.command c)

namespace Scan

variable {s t : Scan} {word : Text} {words : List Text} {c : Tool}

theorem readWord_gains (waits : s.given.Waits) (h : s.readWord word = .ok t) :
    s.given.Gains (Word.flags word) t.given ∧ t.stage = s.stage ∧ t.before = s.before := by
  unfold Word.flags
  cases shape : Word.ofText word with
  | dashes =>
    simp only [readWord, shape] at h
    cases h
    exact ⟨⟨waits, (List.append_nil _).symm⟩, rfl, rfl⟩
  | long name value =>
    simp only [readWord, shape] at h
    obtain ⟨g, read, rfl⟩ := map_eq_ok_iff.mp h
    have gained := Given.readLong_gains waits read
    cases value <;> exact ⟨gained, rfl, rfl⟩
  | letters row =>
    simp only [readWord, shape] at h
    split at h
    · next number =>
      obtain ⟨awaited, digits⟩ := Bool.and_eq_true_iff.mp number
      have plain : row.takeWhile Parameter.isFlagLetter = [] := by
        have whole := List.takeWhile_append_dropWhile (p := Parameter.isFlagLetter) (l := row)
        rwa [Word.dropWhile_of_isNumber digits, List.append_left_eq_self] at whole
      cases h
      refine ⟨?_, rfl, rfl⟩
      simp only [plain, List.filterMap_nil]
      exact Given.supply_gains waits (of_decide_eq_true awaited) word
    · obtain ⟨g, read, rfl⟩ := map_eq_ok_iff.mp h
      exact ⟨Given.readLetters_gains waits read, rfl, rfl⟩
  | plain =>
    simp only [readWord, shape] at h
    cases awaited : s.given.awaited? with
    | none =>
      rw [awaited] at h
      cases h
    | some p =>
      rw [awaited] at h
      cases h
      exact ⟨Given.supply_gains waits awaited word, rfl, rfl⟩

theorem step_gains (waits : s.given.Waits) (helpless : ∀ named, s.stage ≠ .help named)
    (unopened : s.opened? word = none) (h : s.step word = .ok t) :
    s.given.Gains (Word.flags word) t.given ∧ t.stage = s.stage ∧ t.before = s.before := by
  have running : s.ended = false := by
    rw [Bool.eq_false_iff]
    intro ended
    unfold step at h
    split at h
    · next named stage => exact helpless named stage
    · rw [if_pos ended] at h
      cases h
  have u : Unopened s word := ⟨unopened, running, helpless⟩
  rw [u.step_eq] at h
  exact readWord_gains waits h

theorem read_help {named : Bool} (stage : s.stage = .help named) (h : s.read words = .ok t) :
    ∃ named, t.stage = .help named := by
  induction words generalizing s named with
  | nil =>
    cases h
    exact ⟨named, stage⟩
  | cons word words ih =>
    obtain ⟨u, first, rest⟩ := read_cons_eq_ok_iff.mp h
    simp only [step, stage, readTopic] at first
    split at first
    · cases first
      exact ih rfl rest
    · cases first

theorem read_command (waits : s.given.Waits) (stage : s.stage = .command c)
    (h : s.read words = .ok t) :
    s.given.Gains (words.flatMap Word.flags) t.given ∧ t.stage = .command c ∧
      t.before = s.before := by
  induction words generalizing s with
  | nil =>
    cases h
    exact ⟨⟨waits, (List.append_nil _).symm⟩, stage, rfl⟩
  | cons word words ih =>
    obtain ⟨u, first, rest⟩ := read_cons_eq_ok_iff.mp h
    have helpless (named : Bool) : s.stage ≠ .help named := by simp [stage]
    have unopened : s.opened? word = none := by simp [opened?, stage]
    obtain ⟨gained, same, before⟩ := step_gains waits helpless unopened first
    obtain ⟨more, last, kept⟩ := ih gained.waits (same.trans stage) rest
    rw [List.flatMap_cons]
    exact ⟨gained.trans more, last, kept.trans before⟩

theorem exists_command (waits : s.given.Waits) (program : s.stage = .program)
    (h : s.read words = .ok t) (ends : t.stage = .command c) :
    ∃ before after u, words = before ++ c.name :: after ∧ s.read before = .ok u ∧
      u.opened? c.name = some (.command c) ∧
      s.given.Gains (before.flatMap Word.flags) t.before ∧
      Given.empty.Gains (after.flatMap Word.flags) t.given := by
  induction words generalizing s with
  | nil =>
    cases h
    rw [program] at ends
    cases ends
  | cons word words ih =>
    obtain ⟨v, first, rest⟩ := read_cons_eq_ok_iff.mp h
    cases opened : s.opened? word with
    | some stage =>
      have entered : v = ⟨stage, false, s.given, .empty⟩ := by
        simp only [step, program, opened] at first
        split at first
        · cases first
        · cases first
          rfl
      subst entered
      obtain ⟨-, -, named⟩ := opened?_eq_some_iff.mp opened
      cases stage with
      | program => exact absurd named (stageNamed?_ne_program word)
      | help asked =>
        obtain ⟨_, still⟩ := read_help rfl rest
        rw [ends] at still
        cases still
      | command d =>
        have settled : Given.empty.pending = none := rfl
        obtain ⟨gained, last, kept⟩ := read_command (Given.waits_of_settled settled) rfl rest
        obtain rfl : c = d := Stage.command.inj (ends.symm.trans last)
        obtain rfl := stageNamed?_eq_command_iff.mp named
        refine ⟨[], words, s, rfl, rfl, opened, ?_, gained⟩
        rw [kept]
        exact ⟨waits, (List.append_nil _).symm⟩
    | none =>
      have helpless (named : Bool) : s.stage ≠ .help named := by simp [program]
      obtain ⟨gained, same, -⟩ := step_gains waits helpless opened first
      obtain ⟨before, after, u, rfl, ahead, names, more, behind⟩ :=
        ih gained.waits (same.trans program) rest
      refine ⟨word :: before, after, u, rfl, ?_, names, ?_, behind⟩
      · exact read_cons_eq_ok_iff.mpr ⟨v, first, ahead⟩
      · rw [List.flatMap_cons]
        exact gained.trans more

end Scan

def flagsIn (words : List Text) : List Argument := words.flatMap Word.flags

theorem mem_flagsIn_of_close {g : Given} {words : List Text} {arguments : List Argument}
    (gained : Given.empty.Gains (flagsIn words) g) (h : g.close = .ok arguments) :
    (∀ a ∈ flagArguments, a ∈ flagsIn words ↔ a ∈ arguments) ∧
      ¬(.verbose ∈ flagsIn words ∧ .silent ∈ flagsIn words) := by
  obtain ⟨closed, apart⟩ := g.flags_of_close gained.waits h
  have same : arguments.filter Argument.isFlag = flagsIn words := by
    rw [closed, gained.flags_eq]
    rfl
  have flags : ∀ a ∈ flagArguments, a.isFlag = true := by decide
  have members (a : Argument) (flag : a ∈ flagArguments) : a ∈ flagsIn words ↔ a ∈ arguments := by
    rw [← same, List.mem_filter, and_iff_left (flags a flag)]
  refine ⟨members, ?_⟩
  rwa [members _ (by decide), members _ (by decide)]

namespace Invocation

/-- Output that is both verbose and silent. On each side of a command's name the two flags are refused
together, however they are written; what an accepted command line asks for has both exactly when one of
them stands ahead of the name and the other behind it. -/
theorem verbose_and_silent_iff {words : List Text} {i : Invocation}
    (accepted : ofWords words = .ok i) :
    ∃ before after, Commands words before i.task.tool after ∧
      (∀ side ∈ [before, after], ¬(.verbose ∈ flagsIn side ∧ .silent ∈ flagsIn side)) ∧
      (i.verbose = true ∧ i.silent = true ↔
        .verbose ∈ flagsIn before ∧ .silent ∈ flagsIn after ∨
          .silent ∈ flagsIn before ∧ .verbose ∈ flagsIn after) := by
  obtain ⟨t, read, ends⟩ := ofWords_eq_ok_iff.mp accepted
  obtain ⟨c, ahead, behind, reference, dump, stage, closed, closed', -, -, rfl⟩ :=
    Scan.finish_eq_ok_iff.mp ends
  have waits : Scan.start.given.Waits := Given.waits_of_settled rfl
  obtain ⟨before, after, u, split, read', opened, gained, gained'⟩ :=
    Scan.exists_command waits rfl read stage
  have tool : (Task.ofArguments behind c).tool = c := by cases c <;> rfl
  obtain ⟨members, apart⟩ := mem_flagsIn_of_close gained closed
  obtain ⟨members', apart'⟩ := mem_flagsIn_of_close gained' closed'
  refine ⟨before, after, ?_, ?_, ?_⟩
  · rw [ofArguments, tool]
    exact ⟨split, u, read', opened⟩
  · exact List.forall_mem_cons.mpr ⟨apart, List.forall_mem_singleton.mpr apart'⟩
  · have verbose : Argument.verbose ∈ flagArguments := by decide
    have silent : Argument.silent ∈ flagArguments := by decide
    simp only [ofArguments, Bool.or_eq_true, List.contains_iff_mem, ← members _ verbose,
      ← members' _ verbose, ← members _ silent, ← members' _ silent]
    tauto

/-- The flags on both sides of a command's name, the second in a row of letters. -/
def dividedWords : List Text :=
  ["-v", "spike", "-sr", "ref.log", "-d", "t.dump"].map String.toList

theorem verbose_and_silent_iff_dividedWords :
    ∃ i before after, ofWords dividedWords = .ok i ∧ Commands dividedWords before .spike after ∧
      i.verbose = true ∧ i.silent = true ∧
      (.verbose ∈ flagsIn before ∧ .silent ∈ flagsIn after ∨
        .silent ∈ flagsIn before ∧ .verbose ∈ flagsIn after) := by
  obtain ⟨i, accepted, task, verbose, silent⟩ :
      ∃ i, ofWords dividedWords = .ok i ∧ i.task = .spike ∧ i.verbose = true ∧ i.silent = true :=
    ⟨_, rfl, rfl, rfl, rfl⟩
  obtain ⟨before, after, named, -, both⟩ := verbose_and_silent_iff accepted
  rw [task] at named
  exact ⟨i, before, after, accepted, named, verbose, silent, both.mp ⟨verbose, silent⟩⟩

/-- A command line with one of the flags ahead of the command's name and the other behind it is accepted,
and asks for output that is verbose and silent at once. -/
theorem verbose_and_silent_across_command :
    ∃ i, ofWords (["-v", "spike", "-s", "-r", "ref.log", "-d", "t.dump"].map String.toList) = .ok i ∧
      i.verbose = true ∧ i.silent = true := by
  exact ⟨_, rfl, rfl, rfl⟩

end Invocation

end Lockstep.CommandLine
