import Lockstep.Proofs.CommandLine.Exclusion
import Lockstep.Proofs.Text.Numeral
import Mathlib.Data.List.TakeWhile

set_option autoImplicit false
set_option relaxedAutoImplicit false

/-!
Command lines in their plain spelling, with each option in a word of its own and its value behind an
equals sign. Such a command line is accepted, and asks for just what its options say, in whatever order
they stand and on whichever side of the command's name those of the program are.
-/

namespace Lockstep

def Report.Format.name : Report.Format → Text
  | .text => "text".toList
  | .raw => "raw".toList
  | .json => "json".toList

def MatchRule.name : MatchRule → Text
  | .exact => "exact".toList
  | .contains => "contains".toList

namespace CommandLine

/-- The options of a command besides the paths, none where one is left out. -/
inductive TaskOptions where
  | spike
  | verilator (offset : Option Int) (marker exclude : Option Text) (rule : Option MatchRule)
  | joints (referencePattern dumpPattern : Option Text) (rule : Option MatchRule)
deriving DecidableEq

/-- All that can be asked of the program, none for an option that is left out. -/
structure Options where
  verbose : Bool
  silent : Bool
  failOnDivergence : Bool
  format : Option Report.Format
  referencePath : Text
  dumpPath : Text
  task : TaskOptions
deriving DecidableEq

namespace TaskOptions

def command : TaskOptions → Tool
  | .spike => .spike
  | .verilator .. => .verilator
  | .joints .. => .joints

/-- The task that options ask for, with the defaults of those left out. -/
def task : TaskOptions → Task
  | .spike => .spike
  | .verilator offset marker exclude rule =>
    .verilator offset (marker.getD "Writing".toList) (exclude.getD "timestamp".toList)
      (rule.getD .contains)
  | .joints reference dump rule =>
    .joints (reference.getD Pattern.jointText) (dump.getD Pattern.counterText) (rule.getD .exact)

def argument? : TaskOptions → Parameter → Option Argument
  | .verilator offset _ _ _, .offset => offset.map .offset
  | .verilator _ marker _ _, .marker => marker.map .marker
  | .verilator _ _ exclude _, .exclude => exclude.map .exclude
  | .verilator _ _ _ rule, .rule => rule.map .rule
  | .joints reference _ _, .referencePattern => reference.map .referencePattern
  | .joints _ dump _, .dumpPattern => dump.map .dumpPattern
  | .joints _ _ rule, .rule => rule.map .rule
  | _, _ => none

end TaskOptions

namespace Options

/-- The argument for a parameter, where the options say anything on it. -/
def argument? (o : Options) : Parameter → Option Argument
  | .verbose => if o.verbose then some .verbose else none
  | .silent => if o.silent then some .silent else none
  | .failOnDivergence => if o.failOnDivergence then some .failOnDivergence else none
  | .format => o.format.map .format
  | .reference => some (.reference o.referencePath)
  | .dump => some (.dump o.dumpPath)
  | p => o.task.argument? p

def parameters (o : Options) : List Parameter :=
  Parameter.shared ++ Parameter.ofCommand o.task.command

def arguments (o : Options) : List Argument :=
  o.parameters.filterMap o.argument?

def invocation (o : Options) : Invocation where
  verbose := o.verbose
  silent := o.silent
  failOnDivergence := o.failOnDivergence
  format := o.format.getD .text
  referencePath := o.referencePath
  dumpPath := o.dumpPath
  task := o.task.task

end Options

namespace Argument

def value? : Argument → Option Text
  | .verbose | .silent | .failOnDivergence => none
  | .format f => some f.name
  | .reference path => some path
  | .dump path => some path
  | .offset distance => some (Text.signedDecimal distance)
  | .marker text => some text
  | .exclude text => some text
  | .rule r => some r.name
  | .referencePattern source => some source
  | .dumpPattern source => some source

/-- A word spells an argument when it is a long name behind two dashes, with an equals sign and the
value behind it where there is a value. -/
def Spelled (a : Argument) (word : Text) : Prop :=
  ∃ name ∈ a.parameter.longNames,
    word = '-' :: '-' :: (name ++ (a.value?.map ('=' :: ·)).getD [])

/-- An argument is legal when paths are not empty and a distance fits a signed word of 64 bits. -/
def Legal : Argument → Prop
  | .reference path | .dump path => path ≠ []
  | .offset distance => -2 ^ 63 ≤ distance ∧ distance < 2 ^ 63
  | _ => True

end Argument

namespace Options

/-- Options are legal when their arguments are and output is not both verbose and silent. -/
structure Legal (o : Options) : Prop where
  arguments : ∀ a ∈ o.arguments, a.Legal
  quiet : ¬(o.verbose = true ∧ o.silent = true)

/-- The arguments of options ahead of the command's name and behind it: each of them once, in any order,
and ahead of the name only what is no business of the command. -/
structure Arranged (o : Options) (before after : List Argument) : Prop where
  perm : (before ++ after).Perm o.arguments
  shared : ∀ a ∈ before, a.parameter ∈ Parameter.shared

end Options

variable {a : Argument} {p q : Parameter} {name word : Text}

theorem distance?_signedDecimal {n : Int} (least : -2 ^ 63 ≤ n) (greatest : n < 2 ^ 63) :
    distance? (Text.signedDecimal n) = some n := by
  have word : (Alignment.wordLimit : Int) = 2 ^ 63 - 1 := by decide
  rw [distance?, Text.integer?_signedDecimal, word]
  apply Option.filter_eq_some_iff.mpr
  refine ⟨rfl, decide_eq_true ⟨?_, ?_⟩⟩ <;> omega

theorem Argument.Legal.argument_value (legal : a.Legal) :
    a.parameter.takesValue = a.value?.isSome ∧
      a.parameter.argument (a.value?.getD []) = .ok a := by
  cases a with
  | verbose | silent | failOnDivergence => exact ⟨rfl, rfl⟩
  | marker text | exclude text | referencePattern text | dumpPattern text => exact ⟨rfl, rfl⟩
  | format f => cases f <;> exact ⟨rfl, rfl⟩
  | rule r => cases r <;> exact ⟨rfl, rfl⟩
  | reference path | dump path =>
    have nonempty : path ≠ [] := legal
    exact ⟨rfl, by simp [parameter, value?, Parameter.argument, nonempty]⟩
  | offset distance =>
    obtain ⟨least, greatest⟩ := legal
    refine ⟨rfl, ?_⟩
    simp only [parameter, value?, Option.getD_some, Parameter.argument,
      distance?_signedDecimal least greatest]

namespace Parameter

def all : List Parameter :=
  [.verbose, .silent, .format, .failOnDivergence, .reference, .dump, .offset, .marker, .exclude,
   .rule, .referencePattern, .dumpPattern, .help, .version]

theorem mem_all (p : Parameter) : p ∈ all := by
  cases p <;> decide

theorem eq_of_longName (hp : name ∈ p.longNames) (hq : name ∈ q.longNames) : p = q := by
  have apart : ∀ p ∈ all, ∀ q ∈ all, ∀ name ∈ p.longNames, name ∈ q.longNames → p = q := by decide
  exact apart p (mem_all p) q (mem_all q) name hp hq

theorem longName_plain (h : name ∈ p.longNames) : name ≠ [] ∧ '=' ∉ name := by
  have plain : ∀ p ∈ all, ∀ name ∈ p.longNames, name ≠ [] ∧ '=' ∉ name := by decide
  exact plain p (mem_all p) name h

theorem find?_longName {allowed : List Parameter} (h : p ∈ allowed) (named : name ∈ p.longNames) :
    allowed.find? (fun p => p.longNames.contains name) = some p := by
  have test : p.longNames.contains name = true := List.contains_iff_mem.mpr named
  cases found : allowed.find? fun p => p.longNames.contains name with
  | none => exact absurd test (by simpa using List.find?_eq_none.mp found p h)
  | some q =>
    have other : q.longNames.contains name = true := by
      have passed := List.find?_some found
      exact passed
    rw [eq_of_longName named (List.contains_iff_mem.mp other)]

end Parameter

theorem Argument.Spelled.ofText_eq (h : a.Spelled word) :
    (∃ rest, word = '-' :: rest) ∧
      ∃ name ∈ a.parameter.longNames, Word.ofText word = .long name a.value? := by
  obtain ⟨name, named, rfl⟩ := h
  obtain ⟨nonempty, plain⟩ := Parameter.longName_plain named
  refine ⟨⟨_, rfl⟩, name, named, ?_⟩
  have all : ∀ c ∈ name, (c != '=') = true := by
    intro c member
    simp only [bne_iff_ne]
    rintro rfl
    exact plain member
  obtain ⟨c, rest, rfl⟩ := List.exists_cons_of_ne_nil nonempty
  rw [List.cons_append, Word.ofText]
  · rw [← List.cons_append, List.span_eq_takeWhile_dropWhile]
    cases a.value? with
    | none =>
      simp only [Option.map_none, Option.getD_none, List.append_nil]
      rw [List.takeWhile_eq_self_iff.mpr all, List.dropWhile_eq_nil_iff.mpr all]
    | some value =>
      simp only [Option.map_some, Option.getD_some]
      rw [List.takeWhile_append_of_pos all, List.dropWhile_append_of_pos all]
      simp
  · simp

theorem Given.readLong_spelled {g : Given} {allowed : List Parameter} (settled : g.pending = none)
    (legal : a.Legal) (h : a.parameter ∈ allowed) (named : name ∈ a.parameter.longNames)
    (fresh : ∀ b ∈ g.arguments, b.parameter ≠ a.parameter) :
    g.readLong allowed name a.value? = .ok ⟨g.arguments ++ [a], none⟩ := by
  obtain ⟨takes, argument⟩ := legal.argument_value
  have settle : g.settle = .ok g := by rw [settle, settled]
  have entered (value : Text) (same : a.value?.getD [] = value) :
      g.give a.parameter value = .ok ⟨g.arguments ++ [a], none⟩ := by
    rw [same] at argument
    exact give_eq_ok_iff.mpr ⟨g, settle, enter_eq_ok_iff.mpr ⟨fresh, a, argument, rfl⟩⟩
  simp only [readLong, Parameter.find?_longName h named, takes]
  cases value : a.value? with
  | none => exact entered [] (by rw [value]; rfl)
  | some v => exact entered v (by rw [value]; rfl)

namespace Scan

variable {s : Scan}

/-- A reading at which words are read for parameters: nothing is pending, parameters have not ended, and
no help is asked. -/
structure Open (s : Scan) : Prop where
  settled : s.given.pending = none
  running : s.ended = false
  helpless : ∀ named, s.stage ≠ .help named

theorem Open.step_spelled (h : s.Open) (legal : a.Legal) (allowed : a.parameter ∈ s.stage.parameters)
    (fresh : ∀ b ∈ s.given.arguments, b.parameter ≠ a.parameter) (spelled : a.Spelled word) :
    s.step word = .ok { s with given := ⟨s.given.arguments ++ [a], none⟩ } := by
  obtain ⟨⟨rest, rfl⟩, name, named, shape⟩ := spelled.ofText_eq
  have unopened : s.opened? ('-' :: rest) = none := by
    rw [opened?, stageNamed?_of_dash, ite_self]
  have u : Unopened s ('-' :: rest) := ⟨unopened, h.running, h.helpless⟩
  rw [u.step_eq]
  simp only [readWord, shape,
    Given.readLong_spelled h.settled legal allowed named fresh]
  rfl

theorem Open.read_spelled (h : s.Open) {arguments : List Argument} {words : List Text}
    (spelled : List.Forall₂ Argument.Spelled arguments words) (legal : ∀ a ∈ arguments, a.Legal)
    (allowed : ∀ a ∈ arguments, a.parameter ∈ s.stage.parameters)
    (apart : ((s.given.arguments ++ arguments).map Argument.parameter).Nodup) :
    s.read words = .ok { s with given := ⟨s.given.arguments ++ arguments, none⟩ } := by
  induction spelled generalizing s with
  | nil =>
    obtain ⟨stage, ended, before, given⟩ := s
    obtain ⟨arguments, pending⟩ := given
    obtain rfl : pending = none := h.settled
    rw [List.append_nil]
    rfl
  | @cons a word arguments words first _ ih =>
    obtain ⟨legalFirst, legalRest⟩ := List.forall_mem_cons.mp legal
    obtain ⟨allowedFirst, allowedRest⟩ := List.forall_mem_cons.mp allowed
    have split : s.given.arguments ++ a :: arguments = s.given.arguments ++ [a] ++ arguments := by
      simp
    have fresh : ∀ b ∈ s.given.arguments, b.parameter ≠ a.parameter := by
      rw [List.map_append, List.nodup_append] at apart
      intro b member
      exact apart.2.2 _ (List.mem_map_of_mem member) _ (List.mem_map_of_mem List.mem_cons_self)
    rw [read_cons, h.step_spelled legalFirst allowedFirst fresh first]
    rw [split] at apart ⊢
    exact ih ⟨rfl, h.running, h.helpless⟩ legalRest allowedRest apart

end Scan

theorem TaskOptions.parameter_of_argument? {task : TaskOptions} (h : task.argument? p = some a) :
    a.parameter = p ∧ p ∈ Parameter.ofCommand task.command := by
  unfold argument? at h
  split at h
  case h_8 => cases h
  all_goals
    obtain ⟨_, -, rfl⟩ := Option.map_eq_some_iff.mp h
    exact ⟨rfl, by simp [command, Parameter.ofCommand]⟩

namespace Options

variable {o : Options} {before after : List Argument}

theorem parameter_of_argument? (h : o.argument? p = some a) :
    a.parameter = p ∧ p ∈ o.parameters := by
  have shared {p : Parameter} (h : p ∈ Parameter.shared) : p ∈ o.parameters :=
    List.mem_append_left _ h
  have own {p : Parameter} (h : p ∈ Parameter.ofCommand o.task.command) : p ∈ o.parameters :=
    List.mem_append_right _ h
  have paths (c : Tool) : .reference ∈ Parameter.ofCommand c ∧ .dump ∈ Parameter.ofCommand c := by
    cases c <;> decide
  unfold argument? at h
  split at h
  · obtain ⟨-, ⟨⟩⟩ := Option.ite_none_right_eq_some.mp h
    exact ⟨rfl, shared (by decide)⟩
  · obtain ⟨-, ⟨⟩⟩ := Option.ite_none_right_eq_some.mp h
    exact ⟨rfl, shared (by decide)⟩
  · obtain ⟨-, ⟨⟩⟩ := Option.ite_none_right_eq_some.mp h
    exact ⟨rfl, shared (by decide)⟩
  · obtain ⟨_, -, rfl⟩ := Option.map_eq_some_iff.mp h
    exact ⟨rfl, shared (by decide)⟩
  · cases h
    exact ⟨rfl, own (paths _).1⟩
  · cases h
    exact ⟨rfl, own (paths _).2⟩
  · obtain ⟨parameter, member⟩ := TaskOptions.parameter_of_argument? h
    exact ⟨parameter, own member⟩

theorem mem_arguments_iff : a ∈ o.arguments ↔ o.argument? a.parameter = some a := by
  rw [arguments, List.mem_filterMap]
  constructor
  · rintro ⟨p, -, given⟩
    rw [(parameter_of_argument? given).1]
    exact given
  · intro given
    exact ⟨a.parameter, (parameter_of_argument? given).2, given⟩

theorem nodup_arguments (o : Options) : (o.arguments.map Argument.parameter).Nodup := by
  have distinct : o.parameters.Nodup := by
    unfold parameters
    cases o.task.command <;> decide
  rw [arguments, List.map_filterMap]
  refine List.Pairwise.filterMap _ ?_ distinct
  intro p q other r hp r' hq
  obtain ⟨a, given, rfl⟩ := Option.map_eq_some_iff.mp hp
  obtain ⟨b, given', rfl⟩ := Option.map_eq_some_iff.mp hq
  rwa [(parameter_of_argument? given).1, (parameter_of_argument? given').1]

theorem Arranged.mem_iff (h : o.Arranged before after) :
    a ∈ before ∨ a ∈ after ↔ o.argument? a.parameter = some a := by
  rw [← List.mem_append, h.perm.mem_iff, mem_arguments_iff]

theorem Arranged.mem_after_iff (h : o.Arranged before after)
    (own : a.parameter ∉ Parameter.shared) : a ∈ after ↔ o.argument? a.parameter = some a := by
  rw [← h.mem_iff]
  exact (or_iff_right fun ahead => own (h.shared a ahead)).symm

/-- What arguments give for a field of one parameter is what options say on that parameter, where they
are all the arguments for it. -/
theorem findSome?_eq_bind {α : Type} {field : Argument → Option α} {arguments : List Argument}
    (only : ∀ a, (field a).isSome = true → a.parameter = p)
    (members : ∀ a, a.parameter = p → (a ∈ arguments ↔ o.argument? p = some a)) :
    arguments.findSome? field = (o.argument? p).bind field := by
  cases given : arguments.findSome? field with
  | none =>
    symm
    rw [Option.bind_eq_none_iff]
    intro a said
    exact List.findSome?_eq_none_iff.mp given a
      ((members a (parameter_of_argument? said).1).mpr said)
  | some v =>
    obtain ⟨a, member, value⟩ := List.exists_of_findSome?_eq_some given
    have parameter : a.parameter = p := only a (by rw [value]; rfl)
    rw [(members a parameter).mp member]
    exact value.symm

theorem Arranged.findSome?_after {α : Type} {field : Argument → Option α}
    (h : o.Arranged before after) (own : p ∉ Parameter.shared)
    (only : ∀ a, (field a).isSome = true → a.parameter = p) :
    after.findSome? field = (o.argument? p).bind field := by
  refine findSome?_eq_bind only ?_
  rintro a rfl
  exact h.mem_after_iff own

theorem Arranged.ofArguments_eq (h : o.Arranged before after) :
    Task.ofArguments after o.task.command = o.task.task := by
  have offset : after.findSome? Argument.offset? = _ :=
    h.findSome?_after (p := .offset) (by decide) (by rintro ⟨⟩ ⟨⟩; rfl)
  have marker : after.findSome? Argument.marker? = _ :=
    h.findSome?_after (p := .marker) (by decide) (by rintro ⟨⟩ ⟨⟩; rfl)
  have exclude : after.findSome? Argument.exclude? = _ :=
    h.findSome?_after (p := .exclude) (by decide) (by rintro ⟨⟩ ⟨⟩; rfl)
  have rule : after.findSome? Argument.rule? = _ :=
    h.findSome?_after (p := .rule) (by decide) (by rintro ⟨⟩ ⟨⟩; rfl)
  have reference : after.findSome? Argument.referencePattern? = _ :=
    h.findSome?_after (p := .referencePattern) (by decide) (by rintro ⟨⟩ ⟨⟩; rfl)
  have dump : after.findSome? Argument.dumpPattern? = _ :=
    h.findSome?_after (p := .dumpPattern) (by decide) (by rintro ⟨⟩ ⟨⟩; rfl)
  cases task : o.task with
  | spike => rfl
  | verilator offset' marker' exclude' rule' =>
    simp only [argument?, TaskOptions.argument?, task] at offset marker exclude rule
    simp only [TaskOptions.command, Task.ofArguments, offset, marker, exclude, rule]
    cases offset' <;> cases marker' <;> cases exclude' <;> cases rule' <;> rfl
  | joints reference' dump' rule' =>
    simp only [argument?, TaskOptions.argument?, task] at reference dump rule
    simp only [TaskOptions.command, Task.ofArguments, reference, dump, rule]
    cases reference' <;> cases dump' <;> cases rule' <;> rfl

theorem Arranged.invocation_eq (h : o.Arranged before after) :
    .ofArguments o.task.command before after o.referencePath o.dumpPath = o.invocation := by
  have flagged {a : Argument} {b : Bool} (said : o.argument? a.parameter = some a ↔ b = true) :
      (before.contains a || after.contains a) = b := by
    rw [Bool.eq_iff_iff, Bool.or_eq_true, List.contains_iff_mem, List.contains_iff_mem, h.mem_iff]
    exact said
  have format : (after ++ before).findSome? Argument.format? = o.format := by
    have only (a : Argument) (given : a.format?.isSome = true) : a.parameter = .format := by
      cases a <;> first | rfl | cases given
    rw [findSome?_eq_bind (o := o) only]
    · cases given : o.format <;> simp [argument?, given, Argument.format?]
    · intro a parameter
      rw [List.mem_append, or_comm, h.mem_iff, parameter]
  have verbose : (before.contains .verbose || after.contains .verbose) = o.verbose :=
    flagged (by simp [Argument.parameter, argument?])
  have silent : (before.contains .silent || after.contains .silent) = o.silent :=
    flagged (by simp [Argument.parameter, argument?])
  have failing : (before.contains .failOnDivergence || after.contains .failOnDivergence) =
      o.failOnDivergence := flagged (by simp [Argument.parameter, argument?])
  rw [Invocation.ofArguments, invocation, verbose, silent, failing, format, h.ofArguments_eq]

end Options

theorem Given.close_of_settled {arguments : List Argument}
    (quiet : ¬(.verbose ∈ arguments ∧ .silent ∈ arguments)) :
    Given.close ⟨arguments, none⟩ = .ok arguments := by
  simpa [close, settle, Except.bind] using quiet

theorem Scan.step_name (before : List Argument) (c : Tool) :
    Scan.step ⟨.program, false, .empty, ⟨before, none⟩⟩ c.name =
      .ok ⟨.command c, false, ⟨before, none⟩, .empty⟩ := by
  have opened : Scan.opened? ⟨.program, false, .empty, ⟨before, none⟩⟩ c.name =
      some (.command c) :=
    opened?_eq_some_iff.mpr ⟨rfl, rfl, stageNamed?_eq_command_iff.mpr rfl⟩
  simp only [step, opened]
  rfl

theorem Scan.read_arranged {o : Options} (legal : o.Legal) {before after : List Argument}
    (arranged : o.Arranged before after) {words words' : List Text}
    (ahead : List.Forall₂ Argument.Spelled before words)
    (behind : List.Forall₂ Argument.Spelled after words') :
    Scan.start.read (words ++ o.task.command.name :: words') =
      .ok ⟨.command o.task.command, false, ⟨before, none⟩, ⟨after, none⟩⟩ := by
  have distinct : ((before ++ after).map Argument.parameter).Nodup :=
    (arranged.perm.map _).nodup_iff.mpr o.nodup_arguments
  rw [List.map_append, List.nodup_append] at distinct
  have given (a : Argument) (member : a ∈ before ∨ a ∈ after) : a ∈ o.arguments :=
    Options.mem_arguments_iff.mpr (arranged.mem_iff.mp member)
  have read : Scan.start.read words = .ok ⟨.program, false, .empty, ⟨before, none⟩⟩ := by
    refine Open.read_spelled ⟨rfl, rfl, by rintro _ ⟨⟩⟩ ahead ?_ ?_ distinct.1
    · intro a member
      exact legal.arguments a (given a (.inl member))
    · intro a member
      exact List.mem_cons_of_mem _ (arranged.shared a member)
  have read' : Scan.read ⟨.command o.task.command, false, ⟨before, none⟩, .empty⟩ words' =
      .ok ⟨.command o.task.command, false, ⟨before, none⟩, ⟨after, none⟩⟩ := by
    refine Open.read_spelled ⟨rfl, rfl, by rintro _ ⟨⟩⟩ behind ?_ ?_ distinct.2.1
    · intro a member
      exact legal.arguments a (given a (.inr member))
    · intro a member
      have said := Options.mem_arguments_iff.mp (given a (.inr member))
      exact (Options.parameter_of_argument? said).2
  rw [read_append, read, Except.bind, read_cons, step_name, Except.bind, read']

namespace Invocation

/-- A command line in plain spelling is accepted, and asks for what its options say. The options of the
command stand behind its name, those of the program on either side, all of them in any order; what is left
out has its default. -/
theorem ofWords_spelled {o : Options} (legal : o.Legal) {before after : List Argument}
    (arranged : o.Arranged before after) {words words' : List Text}
    (ahead : List.Forall₂ Argument.Spelled before words)
    (behind : List.Forall₂ Argument.Spelled after words') :
    ofWords (words ++ o.task.command.name :: words') = .ok o.invocation := by
  have quiet (side : List Argument) (part : ∀ a ∈ side, a ∈ before ∨ a ∈ after) :
      Given.close ⟨side, none⟩ = .ok side := by
    apply Given.close_of_settled
    rintro ⟨verbose, silent⟩
    have verbose := arranged.mem_iff.mp (part _ verbose)
    have silent := arranged.mem_iff.mp (part _ silent)
    simp only [Argument.parameter, Options.argument?, Option.ite_none_right_eq_some]
      at verbose silent
    exact legal.quiet ⟨verbose.1, silent.1⟩
  have closed := quiet before fun a member => .inl member
  have closed' := quiet after fun a member => .inr member
  have reference : after.findSome? Argument.reference? = some o.referencePath :=
    arranged.findSome?_after (p := .reference) (by decide) (by rintro ⟨⟩ ⟨⟩; rfl)
  have dump : after.findSome? Argument.dump? = some o.dumpPath :=
    arranged.findSome?_after (p := .dump) (by decide) (by rintro ⟨⟩ ⟨⟩; rfl)
  have finished : Scan.finish ⟨.command o.task.command, false, ⟨before, none⟩, ⟨after, none⟩⟩ =
      .ok o.invocation :=
    Scan.finish_eq_ok_iff.mpr ⟨o.task.command, before, after, o.referencePath, o.dumpPath, rfl,
      closed, closed', reference, dump, arranged.invocation_eq.symm⟩
  have read := Scan.read_arranged legal arranged ahead behind
  exact ofWords_eq_ok_iff.mpr ⟨_, read, finished⟩

/-- Options with values that look like options, and a distance at the limit of its word. -/
def awkwardOptions : Options where
  verbose := true
  silent := false
  failOnDivergence := true
  format := some .json
  referencePath := "--silent".toList
  dumpPath := "spike".toList
  task := .verilator (some (-2 ^ 63)) (some []) (some "a=b".toList) none

def awkwardWords : List Text :=
  ["--format=json", "--verbose", "verilator", "--exclude=a=b", "--offset=-9223372036854775808",
   "--decoder-dump=spike", "--fail-on-divergence", "--marker=", "--ref_file=--silent"].map
    String.toList

theorem ofWords_spelled_awkwardOptions :
    awkwardOptions.Legal ∧ ofWords awkwardWords = .ok awkwardOptions.invocation := by
  have given : awkwardOptions.arguments = [.verbose, .format .json, .failOnDivergence,
      .reference "--silent".toList, .dump "spike".toList, .offset (-2 ^ 63), .marker [],
      .exclude "a=b".toList] := by decide
  have legal : awkwardOptions.Legal := by
    refine ⟨?_, by decide⟩
    rw [given]
    simp [Argument.Legal]
  have arranged : awkwardOptions.Arranged [.format .json, .verbose]
      [.exclude "a=b".toList, .offset (-2 ^ 63), .dump "spike".toList, .failOnDivergence, .marker [],
        .reference "--silent".toList] := ⟨by decide, by decide⟩
  have accepted := ofWords_spelled legal arranged
    (.cons ⟨"format".toList, by decide, rfl⟩ (.cons ⟨"verbose".toList, by decide, rfl⟩ .nil))
    (.cons ⟨"exclude".toList, by decide, rfl⟩ (.cons ⟨"offset".toList, by decide, rfl⟩
      (.cons ⟨"decoder-dump".toList, by decide, rfl⟩
        (.cons ⟨"fail-on-divergence".toList, by decide, rfl⟩
          (.cons ⟨"marker".toList, by decide, rfl⟩ (.cons ⟨"ref_file".toList, by decide, rfl⟩ .nil))))))
  exact ⟨legal, accepted⟩

end Invocation

end CommandLine

end Lockstep
