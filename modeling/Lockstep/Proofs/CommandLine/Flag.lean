import Lockstep.CommandLine.Scan
import Mathlib.Data.List.TakeDrop

set_option autoImplicit false
set_option relaxedAutoImplicit false

/-!
The flags of the command line, which say how much is told beside a report and which status a comparison
ends with. Neither the comparison that arguments ask for nor the form of its report depends on flags.
-/

namespace Lockstep.CommandLine

namespace Parameter

/-- The parameters that bear neither on the comparison nor on the form of its report. -/
def flags : List Parameter := [.verbose, .silent, .failOnDivergence]

def isFlag (p : Parameter) : Bool := flags.contains p

def isFlagName (name : Text) : Bool := flags.any fun p => p.longNames.contains name

def isFlagLetter (c : Char) : Bool := flags.any fun p => p.letter? = some c

theorem parameter_of_argument {p : Parameter} {value : Text} {a : Argument}
    (h : p.argument value = .ok a) : a.parameter = p := by
  cases p <;> simp only [argument] at h <;> (try split at h) <;> cases h <;> rfl

theorem isFlag_of_takesValue {p : Parameter} (h : p.takesValue = true) : p.isFlag = false := by
  cases p <;> first | rfl | exact absurd h (by decide)

theorem isFlag_of_argument {p : Parameter} {value : Text} {a : Argument}
    (valueless : p.takesValue = false) (h : p.argument value = .ok a) : p.isFlag = true := by
  cases p <;> first | rfl | exact absurd valueless (by decide) | cases h

theorem longName_eq {p : Parameter} {name : Text} (h : p.longNames.contains name = true) :
    isFlagName name = p.isFlag ∧
      (name == "fail-on-divergence".toList) = (p == .failOnDivergence) := by
  have named : name ∈ p.longNames := List.contains_iff_mem.mp h
  clear h
  cases p <;> simp only [longNames, List.mem_cons, List.not_mem_nil, or_false] at named
  all_goals rcases named with rfl | rfl
  all_goals decide

theorem isFlagLetter_eq {p : Parameter} {c : Char} (h : p.letter? = some c) :
    isFlagLetter c = p.isFlag := by
  cases p <;> cases h <;> decide

end Parameter

def Argument.isFlag (a : Argument) : Bool := a.parameter.isFlag

def withoutFlags (arguments : List Argument) : List Argument :=
  arguments.filter fun a => !a.isFlag

theorem Argument.isFlag_cases {a : Argument} (h : a.isFlag = true) :
    a = .verbose ∨ a = .silent ∨ a = .failOnDivergence := by
  cases a <;> first | decide | cases h

theorem findSome?_withoutFlags {α : Type} {field : Argument → Option α}
    (verbose : field .verbose = none) (silent : field .silent = none)
    (failing : field .failOnDivergence = none) (arguments : List Argument) :
    (withoutFlags arguments).findSome? field = arguments.findSome? field := by
  induction arguments with
  | nil => rfl
  | cons a arguments ih =>
    unfold withoutFlags at ih ⊢
    rw [List.filter_cons, List.findSome?_cons]
    cases flag : a.isFlag with
    | true =>
      have nothing : field a = none := by
        rcases Argument.isFlag_cases flag with rfl | rfl | rfl <;> assumption
      rw [nothing]
      exact ih
    | false => rw [if_pos (by decide), List.findSome?_cons, ih]

theorem contains_withoutFlags {a : Argument} (flag : a.isFlag = true) (arguments : List Argument) :
    (withoutFlags arguments).contains a = false := by
  rw [Bool.eq_false_iff]
  intro member
  have plain := (List.mem_filter.mp (List.contains_iff_mem.mp member)).2
  rw [flag] at plain
  cases plain

theorem Task.ofArguments_withoutFlags (arguments : List Argument) (command : Tool) :
    Task.ofArguments (withoutFlags arguments) command = Task.ofArguments arguments command := by
  have same {α : Type} {field : Argument → Option α} (verbose : field .verbose = none)
      (silent : field .silent = none) (failing : field .failOnDivergence = none) :=
    findSome?_withoutFlags verbose silent failing arguments
  cases command with
  | spike => rfl
  | verilator =>
    rw [Task.ofArguments, same rfl rfl rfl, same rfl rfl rfl, same rfl rfl rfl, same rfl rfl rfl,
      Task.ofArguments]
  | joints =>
    rw [Task.ofArguments, same rfl rfl rfl, same rfl rfl rfl, same rfl rfl rfl, Task.ofArguments]

namespace Invocation

def unflagged (i : Invocation) : Invocation :=
  { i with verbose := false, silent := false, failOnDivergence := false }

theorem ofArguments_withoutFlags (command : Tool) (before after : List Argument)
    (reference dump : Text) :
    ofArguments command (withoutFlags before) (withoutFlags after) reference dump =
      (ofArguments command before after reference dump).unflagged := by
  have split : withoutFlags (after ++ before) = withoutFlags after ++ withoutFlags before :=
    List.filter_append _ _
  have format : (withoutFlags after ++ withoutFlags before).findSome? Argument.format? =
      (after ++ before).findSome? Argument.format? := by
    rw [← split]
    exact findSome?_withoutFlags rfl rfl rfl _
  have verbose := contains_withoutFlags (a := .verbose) (by decide)
  have silent := contains_withoutFlags (a := .silent) (by decide)
  have failing := contains_withoutFlags (a := .failOnDivergence) (by decide)
  simp only [ofArguments, unflagged, verbose, silent, failing, format,
    Task.ofArguments_withoutFlags, Bool.or_self]

end Invocation

namespace Word

def unflagged? (word : Text) : Option Text :=
  match ofText word with
  | .long name none => if Parameter.isFlagName name then none else some word
  | .letters row =>
    match row.dropWhile Parameter.isFlagLetter with
    | [] => none
    | c :: rest => some ('-' :: c :: rest)
  | _ => some word

def failingFlag : Text := "--fail-on-divergence".toList

theorem ne_failingFlag {word : Text} (h : ofText word ≠ .long "fail-on-divergence".toList none) :
    (word == failingFlag) = false := by
  apply beq_eq_false_iff_ne.mpr
  rintro rfl
  exact h (by decide)

theorem ofText_eq_long_none {word name : Text} (h : ofText word = .long name none) :
    word = '-' :: '-' :: name := by
  unfold ofText at h
  split at h
  · cases h
  · next rest _ =>
    rw [List.span_eq_takeWhile_dropWhile] at h
    cases behind : rest.dropWhile (· != '=') with
    | nil =>
      have whole := List.takeWhile_append_dropWhile (p := (· != '=')) (l := rest)
      rw [behind, List.append_nil] at whole
      rw [behind, whole] at h
      cases h
      rfl
    | cons d value =>
      have stops := List.head?_dropWhile_not (· != '=') rest
      rw [behind] at stops
      have equals : d = '=' := by simpa using stops
      rw [behind, equals] at h
      cases h
  · cases h
  · cases h

theorem ofText_letters {c : Char} {rest : Text} (h : c ≠ '-') :
    ofText ('-' :: c :: rest) = .letters (c :: rest) := by
  unfold ofText
  split <;> simp_all

theorem ofText_eq_letters {word row : Text} (h : ofText word = .letters row) :
    row ≠ [] ∧ word = '-' :: row := by
  unfold ofText at h
  split at h
  · cases h
  · split at h <;> cases h
  · cases h
    exact ⟨List.cons_ne_nil _ _, rfl⟩
  · cases h

theorem dropWhile_of_isNumber {row : Text} (h : isNumber row = true) :
    row.dropWhile Parameter.isFlagLetter = row := by
  cases row with
  | nil => rfl
  | cons c rest =>
    have digit : c.isDigit = true := by
      by_contra other
      unfold isNumber numeric at h
      simp only [if_neg other, Bool.not_true, Bool.and_false, Bool.false_and, Bool.false_eq_true,
        if_false] at h
    have plain : ¬Parameter.isFlagLetter c = true := by
      intro flag
      obtain ⟨p, member, test⟩ := List.any_eq_true.mp flag
      have lettered : p.letter? = some c := of_decide_eq_true test
      have letters : Parameter.flags.all (fun p => p.letter?.all fun c => !c.isDigit) = true := by
        decide
      have other := List.all_eq_true.mp letters p member
      rw [lettered, Option.all_some, digit] at other
      cases other
    exact List.dropWhile_cons_of_neg plain

end Word

def stageNames : List Text :=
  ["help".toList, "spike".toList, "verilator".toList, "joints".toList]

theorem mem_stageNames {word : Text} (h : (stageNamed? word).isSome = true) :
    word ∈ stageNames := by
  unfold stageNamed? at h
  split at h
  · next help =>
    rw [help]
    exact List.mem_cons_self
  · rw [Option.isSome_map] at h
    obtain ⟨c, found⟩ := Option.isSome_iff_exists.mp h
    have named : c.name = word := by simpa using List.find?_some found
    rw [← named]
    cases c <;> decide

theorem stageNamed?_of_dash (rest : Text) : stageNamed? ('-' :: rest) = none := by
  rw [← Option.not_isSome_iff_eq_none]
  intro opens
  have heads : ∀ word ∈ stageNames, word.head? ≠ some '-' := by decide
  exact heads _ (mem_stageNames opens) rfl

theorem stageNamed?_ne_program (word : Text) : stageNamed? word ≠ some .program := by
  unfold stageNamed?
  split
  · rintro ⟨⟩
  · cases commandNamed? word <;> rintro ⟨⟩

theorem unflagged?_of_stageNamed {word : Text} (h : (stageNamed? word).isSome = true) :
    Word.unflagged? word = some word ∧ (word == Word.failingFlag) = false := by
  have kept : ∀ word ∈ stageNames,
      Word.unflagged? word = some word ∧ (word == Word.failingFlag) = false := by decide
  exact kept word (mem_stageNames h)

end Lockstep.CommandLine
