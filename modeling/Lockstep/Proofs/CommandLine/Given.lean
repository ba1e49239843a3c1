import Lockstep.Proofs.CommandLine.Flag

set_option autoImplicit false
set_option relaxedAutoImplicit false

/-!
What is given with flags and without them. Entering a flag is no step for a reading without flags, except
that it may leave a value pending which the flag has made the other reading enter.
-/

namespace Lockstep.CommandLine

namespace Given

variable {g g' s : Given} {p : Parameter} {value : Text} {asked : Bool}

def unflagged (g : Given) : Given := ⟨withoutFlags g.arguments, g.pending⟩

def failing (g : Given) : Bool := g.arguments.contains .failOnDivergence

theorem enter_eq_ok_iff : g.enter p value = .ok s ↔
    (∀ a ∈ g.arguments, a.parameter ≠ p) ∧
      ∃ a, p.argument value = .ok a ∧ s = ⟨g.arguments ++ [a], none⟩ := by
  have twice : (g.arguments.any fun a => a.parameter = p) = true ↔
      ¬∀ a ∈ g.arguments, a.parameter ≠ p := by simp
  unfold enter
  split
  next given => simp [twice.mp given]
  next fresh =>
    have apart := Decidable.not_not.mp (mt twice.mpr fresh)
    rw [and_iff_right apart]
    cases p.argument value with
    | error refusal => simp [Except.map]
    | ok a => simp [Except.map, eq_comm]

theorem pending_of_enter (h : g.enter p value = .ok s) : s.pending = none := by
  obtain ⟨-, a, -, rfl⟩ := enter_eq_ok_iff.mp h
  rfl

theorem enter_unflagged (h : g.enter p value = .ok s) (takes : p.takesValue = true) :
    g.unflagged.enter p value = .ok s.unflagged ∧ s.failing = g.failing := by
  obtain ⟨fresh, a, argument, rfl⟩ := enter_eq_ok_iff.mp h
  have parameter := Parameter.parameter_of_argument argument
  have plain : a.isFlag = false := by
    rw [Argument.isFlag, parameter, Parameter.isFlag_of_takesValue takes]
  have other : a ≠ .failOnDivergence := by
    rintro rfl
    exact absurd plain (by decide)
  constructor
  · refine enter_eq_ok_iff.mpr ⟨?_, a, argument, ?_⟩
    · intro b member
      exact fresh b (List.mem_filter.mp member).1
    · simp [unflagged, withoutFlags, plain]
  · simp [failing, other.symm]

theorem enter_flag (h : g.enter p value = .ok s) (flag : p.isFlag = true) :
    s.unflagged = ⟨g.unflagged.arguments, none⟩ ∧
      s.failing = (g.failing || p == .failOnDivergence) := by
  obtain ⟨-, a, argument, rfl⟩ := enter_eq_ok_iff.mp h
  have parameter := Parameter.parameter_of_argument argument
  have flagged : a.isFlag = true := by rw [Argument.isFlag, parameter, flag]
  have same : decide (Argument.failOnDivergence = a) = (p == .failOnDivergence) := by
    rw [← parameter]
    cases a <;> rfl
  constructor
  · simp [unflagged, withoutFlags, flagged]
  · simp [← same, failing]

theorem settle_unflagged (takes : ∀ p value, g.pending = some (p, value) → p.takesValue = true)
    (h : g.settle = .ok s) :
    g.unflagged.settle = .ok s.unflagged ∧ s.pending = none ∧ s.failing = g.failing := by
  obtain ⟨arguments, pending⟩ := g
  rcases pending with - | ⟨p, - | value⟩
  · cases h
    exact ⟨rfl, rfl, rfl⟩
  · cases h
  · obtain ⟨entered, same⟩ := enter_unflagged h (takes p _ rfl)
    exact ⟨entered, pending_of_enter h, same⟩

/-- `g'` is what is given besides the flags of `g`, except that a value which a flag made `g` enter may
still be pending; `asked` tells whether `g` has the flag for the exit status. -/
structure Follows (asked : Bool) (g' g : Given) : Prop where
  takes : ∀ p value, g.pending = some (p, value) → p.takesValue = true
  lag : g' = g.unflagged ∨ (g.pending = none ∧ g'.settle = .ok g.unflagged)
  failing_eq : g.failing = asked

theorem follows_of_settled (h : g.pending = none) : Follows g.failing g.unflagged g := by
  refine ⟨?_, .inl rfl, rfl⟩
  intro p value pending
  rw [h] at pending
  cases pending

theorem follows_empty : Follows false empty empty := by
  have settled : empty.pending = none := rfl
  exact follows_of_settled settled

theorem Follows.settle (r : Follows asked g' g) (h : g.settle = .ok s) :
    g'.settle = .ok s.unflagged ∧ s.pending = none ∧ s.failing = asked := by
  rw [← r.failing_eq]
  rcases r.lag with rfl | ⟨settled, later⟩
  · exact settle_unflagged r.takes h
  · unfold Given.settle at h
    rw [settled] at h
    cases h
    exact ⟨later, settled, rfl⟩

theorem Follows.awaited?_eq (r : Follows asked g' g) : g'.awaited? = g.awaited? := by
  rcases r.lag with rfl | ⟨settled, later⟩
  · rfl
  · obtain ⟨arguments, pending⟩ := g'
    unfold awaited?
    rw [settled]
    rcases pending with - | ⟨p, - | value⟩
    · rfl
    · cases later
    · rfl

theorem give_eq_ok_iff :
    g.give p value = .ok s ↔ ∃ t, g.settle = .ok t ∧ t.enter p value = .ok s := by
  unfold give
  cases g.settle <;> simp [Except.bind]

theorem await_eq_ok_iff :
    g.await p = .ok s ↔ ∃ t, g.settle = .ok t ∧ s = ⟨t.arguments, some (p, none)⟩ := by
  unfold await
  cases g.settle <;> simp [Except.map, eq_comm]

theorem Follows.give (r : Follows asked g' g) (h : g.give p value = .ok s)
    (takes : p.takesValue = true) : ∃ s', g'.give p value = .ok s' ∧ Follows asked s' s := by
  obtain ⟨t, settled, entered⟩ := give_eq_ok_iff.mp h
  obtain ⟨later, -, same⟩ := r.settle settled
  obtain ⟨besides, still⟩ := enter_unflagged entered takes
  refine ⟨s.unflagged, give_eq_ok_iff.mpr ⟨t.unflagged, later, besides⟩, ?_⟩
  rw [← same, ← still]
  exact follows_of_settled (pending_of_enter entered)

theorem Follows.give_flag (r : Follows asked g' g) (h : g.give p value = .ok s)
    (flag : p.isFlag = true) : Follows (asked || p == .failOnDivergence) g' s := by
  obtain ⟨t, settled, entered⟩ := give_eq_ok_iff.mp h
  obtain ⟨later, done, same⟩ := r.settle settled
  obtain ⟨besides, failing⟩ := enter_flag entered flag
  have nothing := pending_of_enter entered
  refine ⟨?_, .inr ⟨nothing, ?_⟩, ?_⟩
  · intro p value pending
    rw [nothing] at pending
    cases pending
  · rw [later, besides, ← done]
    rfl
  · rw [failing, same]

theorem Follows.await (r : Follows asked g' g) (h : g.await p = .ok s)
    (takes : p.takesValue = true) : ∃ s', g'.await p = .ok s' ∧ Follows asked s' s := by
  obtain ⟨t, settled, rfl⟩ := await_eq_ok_iff.mp h
  obtain ⟨later, -, same⟩ := r.settle settled
  refine ⟨_, await_eq_ok_iff.mpr ⟨t.unflagged, later, rfl⟩, ?_, .inl rfl, same⟩
  rintro _ _ ⟨⟩
  exact takes

theorem Follows.supply (r : Follows asked g' g) (h : g.awaited? = some p) (value : Text) :
    Follows asked (g'.supply p value) (g.supply p value) := by
  obtain ⟨arguments, pending⟩ := g
  rcases pending with - | ⟨q, - | value⟩
  · cases h
  · cases h
    rcases r.lag with rfl | ⟨settled, -⟩
    · refine ⟨?_, .inl rfl, r.failing_eq⟩
      rintro _ _ ⟨⟩
      exact r.takes p none rfl
    · cases settled
  · cases h

theorem Follows.close (r : Follows asked g' g) {arguments : List Argument}
    (h : g.close = .ok arguments) :
    g'.close = .ok (withoutFlags arguments) ∧
      arguments.contains .failOnDivergence = asked := by
  unfold Given.close at h ⊢
  cases settled : g.settle with
  | error refusal =>
    rw [settled] at h
    cases h
  | ok t =>
    obtain ⟨later, -, same⟩ := r.settle settled
    rw [settled, Except.bind] at h
    rw [later, Except.bind]
    split at h
    · cases h
    · cases h
      have quiet : Argument.verbose ∉ t.unflagged.arguments := by
        intro member
        exact absurd (List.mem_filter.mp member).2 (by decide)
      refine ⟨?_, same⟩
      rw [if_neg (by simp [quiet])]
      rfl

theorem readLong_cases {allowed : List Parameter} {name : Text} {value : Option Text}
    (h : g.readLong allowed name value = .ok s) :
    ∃ p, allowed.find? (fun p => p.longNames.contains name) = some p ∧
      p.longNames.contains name = true ∧
      ((∃ v, value = some v ∧ p.takesValue = true ∧ g.give p v = .ok s) ∨
        (value = none ∧ p.takesValue = true ∧ g.await p = .ok s) ∨
        (value = none ∧ p.isFlag = true ∧ g.give p [] = .ok s)) := by
  cases found : allowed.find? fun p => p.longNames.contains name with
  | none =>
    simp only [readLong, found] at h
    cases h
  | some p =>
    have named : p.longNames.contains name = true := by
      have test := List.find?_some found
      exact test
    refine ⟨p, rfl, named, ?_⟩
    cases takes : p.takesValue <;> cases value <;> simp only [readLong, found, takes] at h
    · obtain ⟨t, -, entered⟩ := give_eq_ok_iff.mp h
      obtain ⟨-, a, argument, -⟩ := enter_eq_ok_iff.mp entered
      have flag := Parameter.isFlag_of_argument takes argument
      exact .inr (.inr ⟨rfl, flag, h⟩)
    · cases h
    · exact .inr (.inl ⟨rfl, rfl, h⟩)
    · exact .inl ⟨_, rfl, rfl, h⟩

theorem Follows.readLong (r : Follows asked g' g) {allowed : List Parameter} {name : Text}
    {value : Option Text} (h : g.readLong allowed name value = .ok s)
    (plain : value.isSome = true ∨ Parameter.isFlagName name = false) :
    ∃ s', g'.readLong allowed name value = .ok s' ∧ Follows asked s' s := by
  obtain ⟨p, found, named, with_ | awaited | flagged⟩ := readLong_cases h
  · obtain ⟨v, rfl, takes, given⟩ := with_
    simp only [Given.readLong, found, takes]
    exact r.give given takes
  · obtain ⟨rfl, takes, given⟩ := awaited
    simp only [Given.readLong, found, takes]
    exact r.await given takes
  · obtain ⟨rfl, flag, -⟩ := flagged
    have other := plain.resolve_left (by decide)
    rw [(Parameter.longName_eq named).1, flag] at other
    cases other

theorem Follows.readLong_flag (r : Follows asked g' g) {allowed : List Parameter} {name : Text}
    (h : g.readLong allowed name none = .ok s) (flag : Parameter.isFlagName name = true) :
    Follows (asked || name == "fail-on-divergence".toList) g' s := by
  obtain ⟨p, -, named, ⟨_, ⟨⟩, -⟩ | ⟨-, takes, -⟩ | ⟨-, isFlag, given⟩⟩ := readLong_cases h
  · rw [(Parameter.longName_eq named).1] at flag
    rw [Parameter.isFlag_of_takesValue takes] at flag
    cases flag
  · rw [(Parameter.longName_eq named).2]
    exact r.give_flag given isFlag

/-- What the letters from one on can be read as: a parameter with the rest as its value or with its value
to come, or a flag and the rest read by itself. -/
theorem readLetters_cases {allowed : List Parameter} {c : Char} {rest : Text}
    (h : g.readLetters allowed (c :: rest) = .ok s) :
    ∃ p, allowed.find? (fun p => p.letter? = some c) = some p ∧ p.letter? = some c ∧
      ((p.takesValue = true ∧
          (if rest.isEmpty then g.await p else g.give p (dropEquals rest)) = .ok s) ∨
        (p.isFlag = true ∧ ∃ t, g.give p [] = .ok t ∧ t.readLetters allowed rest = .ok s)) := by
  cases found : allowed.find? fun p => p.letter? = some c with
  | none =>
    simp only [readLetters, found] at h
    cases h
  | some p =>
    have lettered : p.letter? = some c := by simpa using List.find?_some found
    refine ⟨p, rfl, lettered, ?_⟩
    cases takes : p.takesValue with
    | true =>
      simp only [readLetters, found, takes] at h
      exact .inl ⟨rfl, h⟩
    | false =>
      cases given : g.give p [] with
      | error refusal =>
        simp only [readLetters, found, takes, given] at h
        cases h
      | ok t =>
        simp only [readLetters, found, takes, given] at h
        obtain ⟨_, -, entered⟩ := give_eq_ok_iff.mp given
        obtain ⟨-, a, argument, -⟩ := enter_eq_ok_iff.mp entered
        exact .inr ⟨Parameter.isFlag_of_argument takes argument, t, rfl, h⟩

theorem ne_dash_of_readLetters {allowed : List Parameter} {c : Char} {rest : Text}
    (h : g.readLetters allowed (c :: rest) = .ok s) : c ≠ '-' := by
  obtain ⟨p, -, lettered, -⟩ := readLetters_cases h
  rintro rfl
  cases p <;> cases lettered

theorem awaited?_of_settle (h : g.settle = .ok s) : g.awaited? = none := by
  obtain ⟨arguments, pending⟩ := g
  rcases pending with - | ⟨p, - | value⟩
  · rfl
  · cases h
  · rfl

theorem awaited?_of_readLetters {allowed : List Parameter} {c : Char} {rest : Text}
    (h : g.readLetters allowed (c :: rest) = .ok s) : g.awaited? = none := by
  obtain ⟨p, -, -, ⟨-, given⟩ | ⟨-, t, given, -⟩⟩ := readLetters_cases h
  · split at given
    · obtain ⟨t, settled, -⟩ := await_eq_ok_iff.mp given
      exact awaited?_of_settle settled
    · obtain ⟨t, settled, -⟩ := give_eq_ok_iff.mp given
      exact awaited?_of_settle settled
  · obtain ⟨t, settled, -⟩ := give_eq_ok_iff.mp given
    exact awaited?_of_settle settled

theorem Follows.readLetters (r : Follows asked g' g) {allowed : List Parameter} {letters : Text}
    (h : g.readLetters allowed letters = .ok s) :
    ∃ s', g'.readLetters allowed (letters.dropWhile Parameter.isFlagLetter) = .ok s' ∧
      Follows asked s' s := by
  induction letters generalizing g with
  | nil =>
    cases h
    exact ⟨g', rfl, r⟩
  | cons c rest ih =>
    obtain ⟨p, found, lettered, ⟨takes, given⟩ | ⟨flag, t, given, later⟩⟩ := readLetters_cases h
    · have plain : ¬Parameter.isFlagLetter c = true := by
        rw [Parameter.isFlagLetter_eq lettered, Parameter.isFlag_of_takesValue takes]
        exact Bool.false_ne_true
      rw [List.dropWhile_cons_of_neg plain]
      simp only [Given.readLetters, found, takes, if_true]
      split at given
      · next last =>
        simp only [if_pos last]
        exact r.await given takes
      · next more =>
        simp only [if_neg more]
        exact r.give given takes
    · have dropped : Parameter.isFlagLetter c = true := by
        rw [Parameter.isFlagLetter_eq lettered, flag]
      rw [List.dropWhile_cons_of_pos dropped]
      have other : (p == .failOnDivergence) = false := by
        apply beq_eq_false_iff_ne.mpr
        rintro rfl
        cases lettered
      have next := r.give_flag given flag
      rw [other, Bool.or_false] at next
      exact ih next later

end Given

end Lockstep.CommandLine
