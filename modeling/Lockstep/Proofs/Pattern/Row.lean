import Lockstep.Pattern.Matcher

set_option autoImplicit false
set_option relaxedAutoImplicit false

/-!
Rows of matchers as functions of texts. What a matcher without conditions on its place makes of a
line depends, at every place, on the text from there only; its rows are then read off one function
of texts, and a search finds the leftmost place where that function has a value.
-/

namespace Lockstep.Pattern

def rowOf (φ : Text → Option Seen) : Text → Row
  | [] => [φ []]
  | c :: t => φ (c :: t) :: rowOf φ t

theorem head?_rowOf (φ : Text → Option Seen) (line : Text) :
    (rowOf φ line).head?.join = φ line := by
  cases line <;> rfl

theorem map_along (x : Option Seen) (before : Option Char) (line : Text) :
    (Place.along before line).map (fun _ => x) = rowOf (fun _ => x) line := by
  induction line generalizing before with
  | nil => rfl
  | cons c t ih => rw [Place.along, List.map_cons, ih, rowOf]

theorem zipWith_along (note : Seen → Text → Seen) (φ : Text → Option Seen) (before : Option Char)
    (line : Text) :
    List.zipWith (fun p s => s.map fun seen => note seen p.after) (Place.along before line)
        (rowOf φ line) =
      rowOf (fun t => (φ t).map fun seen => note seen t) line := by
  induction line generalizing before with
  | nil => rfl
  | cons c t ih => rw [Place.along, rowOf, List.zipWith_cons_cons, ih, rowOf]

theorem zipWith_rowOf (f : Option Seen → Option Seen → Option Seen) (φ ψ : Text → Option Seen)
    (line : Text) :
    List.zipWith f (rowOf φ line) (rowOf ψ line) = rowOf (fun t => f (φ t) (ψ t)) line := by
  induction line with
  | nil => rfl
  | cons c t ih => rw [rowOf, rowOf, List.zipWith_cons_cons, ih, rowOf]

def takeOne (chars : CharSet) (φ : Text → Option Seen) : Text → Option Seen
  | [] => none
  | c :: t => if chars.contains c then φ t else none

/-- Takes characters of a set as long as that leads on, and as many as it can. -/
def takeRun (chars : CharSet) (φ : Text → Option Seen) : Text → Option Seen
  | [] => φ []
  | c :: t => (if chars.contains c then takeRun chars φ t else none).or (φ (c :: t))

theorem stepRow_rowOf (chars : CharSet) (φ : Text → Option Seen) (before : Option Char)
    (line : Text) :
    Matcher.stepRow chars (Place.along before line) (rowOf φ line) =
      rowOf (takeOne chars φ) line := by
  induction line generalizing before with
  | nil => rfl
  | cons c t ih =>
    rw [Place.along, rowOf, Matcher.stepRow, ih, head?_rowOf]
    rfl

theorem runRow_rowOf (chars : CharSet) (φ : Text → Option Seen) (before : Option Char)
    (line : Text) :
    Matcher.runRow true chars (Place.along before line) (rowOf φ line) =
      rowOf (takeRun chars φ) line := by
  induction line generalizing before with
  | nil => simp [Place.along, rowOf, Matcher.runRow, Place.startsIn, takeRun, prefer]
  | cons c t ih =>
    simp only [Place.along, rowOf, Matcher.runRow, ih, head?_rowOf]
    rfl

theorem takeRun_of_isSome {chars : CharSet} {φ : Text → Option Seen}
    (total : ∀ t, (φ t).isSome = true) (t : Text) :
    takeRun chars φ t = φ (t.dropWhile chars.contains) := by
  induction t with
  | nil => rfl
  | cons c t ih =>
    rw [takeRun]
    by_cases taken : chars.contains c = true
    · rw [if_pos taken, ih, List.dropWhile_cons_of_pos taken, Option.or_of_isSome (total _)]
    · rw [if_neg taken, List.dropWhile_cons_of_neg taken, Option.none_or]

theorem takeRun_of_none {chars : CharSet} {φ : Text → Option Seen}
    (idle : ∀ c t, chars.contains c = true → φ (c :: t) = none) (t : Text) :
    takeRun chars φ t = φ (t.dropWhile chars.contains) := by
  induction t with
  | nil => rfl
  | cons c t ih =>
    rw [takeRun]
    by_cases taken : chars.contains c = true
    · rw [if_pos taken, ih, List.dropWhile_cons_of_pos taken, idle c t taken, Option.or_none]
    · rw [if_neg taken, List.dropWhile_cons_of_neg taken, Option.none_or]

theorem Matcher.row_seq (x y : Matcher) (places : List Place) (k : Row) :
    (Matcher.seq x y).row places k = x.row places (y.row places k) := rfl

/-- The function of texts by which a matcher changes the one for what follows it. -/
def Matcher.ActsBy (m : Matcher) (F : (Text → Option Seen) → Text → Option Seen) : Prop :=
  ∀ φ before line, m.row (Place.along before line) (rowOf φ line) = rowOf (F φ) line

namespace Matcher.ActsBy

theorem empty : Matcher.empty.ActsBy id := fun _ _ _ => rfl

theorem one (chars : CharSet) : (Matcher.one chars).ActsBy (takeOne chars) :=
  fun φ before line => stepRow_rowOf chars φ before line

theorem run (chars : CharSet) :
    (Matcher.run true chars).ActsBy fun φ => takeOne chars (takeRun chars φ) := by
  intro φ before line
  rw [Matcher.row, runRow_rowOf, stepRow_rowOf]

theorem enter : Matcher.enter.ActsBy fun φ t => (φ t).map fun seen => seen.enterAt t :=
  fun φ before line => zipWith_along Seen.enterAt φ before line

theorem leave : Matcher.leave.ActsBy fun φ t => (φ t).map fun seen => seen.leaveAt t :=
  fun φ before line => zipWith_along Seen.leaveAt φ before line

theorem alt {x y : Matcher} {F G : (Text → Option Seen) → Text → Option Seen}
    (hx : x.ActsBy F) (hy : y.ActsBy G) :
    (Matcher.alt x y).ActsBy fun φ t => (F φ t).or (G φ t) := by
  intro φ before line
  rw [Matcher.row, hx, hy, zipWith_rowOf]

end Matcher.ActsBy

/-- The value of a function at the leftmost place of a line where it has one. -/
def leftmost (φ : Text → Option Seen) : Text → Option Seen
  | [] => φ []
  | c :: t => (φ (c :: t)).or (leftmost φ t)

theorem find?_rowOf (φ : Text → Option Seen) (line : Text) :
    ((rowOf φ line).find? Option.isSome).join = leftmost φ line := by
  induction line with
  | nil => cases h : φ [] <;> simp [rowOf, leftmost, h]
  | cons c t ih =>
    rw [rowOf, leftmost]
    cases h : φ (c :: t) with
    | none => rw [List.find?_cons_of_neg (by simp), ih, Option.none_or]
    | some seen => rw [List.find?_cons_of_pos (by simp), Option.some_or, Option.join_some]

theorem Matcher.search_eq_leftmost {m : Matcher} {φ : Text → Option Seen}
    (h : ∀ before line, m.row (Place.along before line) (rowOf (fun _ => some ⟨none, none⟩) line) =
      rowOf φ line) (line : Text) : m.search line = leftmost φ line := by
  rw [Matcher.search, map_along, h, find?_rowOf]

theorem isSome_leftmost_iff {φ : Text → Option Seen} {line : Text} :
    (leftmost φ line).isSome = true ↔
      ∃ before rest, line = before ++ rest ∧ (φ rest).isSome = true := by
  induction line with
  | nil =>
    rw [leftmost]
    constructor
    · exact fun found => ⟨[], [], rfl, found⟩
    · rintro ⟨before, rest, split, found⟩
      obtain ⟨rfl, rfl⟩ := List.append_eq_nil_iff.mp split.symm
      exact found
  | cons c t ih =>
    rw [leftmost, Option.isSome_or, Bool.or_eq_true, ih]
    constructor
    · rintro (here | ⟨before, rest, rfl, found⟩)
      · exact ⟨[], c :: t, rfl, here⟩
      · exact ⟨c :: before, rest, rfl, found⟩
    · rintro ⟨before, rest, split, found⟩
      cases before with
      | nil =>
        obtain rfl : c :: t = rest := split
        exact .inl found
      | cons d before =>
        obtain ⟨rfl, rfl⟩ := List.cons.inj split
        exact .inr ⟨before, rest, rfl, found⟩

theorem leftmost_eq_some_iff {φ : Text → Option Seen} {line : Text} {seen : Seen} :
    leftmost φ line = some seen ↔
      ∃ before rest, line = before ++ rest ∧ φ rest = some seen ∧
        ∀ before' rest', line = before' ++ rest' → (φ rest').isSome →
          before.length ≤ before'.length := by
  induction line with
  | nil =>
    rw [leftmost]
    constructor
    · intro found
      exact ⟨[], [], rfl, found, fun _ _ _ _ => Nat.zero_le _⟩
    · rintro ⟨before, rest, split, found, -⟩
      obtain ⟨rfl, rfl⟩ := List.append_eq_nil_iff.mp split.symm
      exact found
  | cons c t ih =>
    rw [leftmost]
    cases here : φ (c :: t) with
    | some other =>
      rw [Option.some_or, Option.some.injEq]
      constructor
      · rintro rfl
        exact ⟨[], c :: t, rfl, here, fun _ _ _ _ => Nat.zero_le _⟩
      · rintro ⟨before, rest, split, found, least⟩
        have start := least [] (c :: t) rfl (by rw [here]; rfl)
        obtain rfl := List.eq_nil_of_length_eq_zero (Nat.le_zero.mp start)
        obtain rfl : c :: t = rest := split
        exact Option.some.inj (here.symm.trans found)
    | none =>
      rw [Option.none_or, ih]
      constructor
      · rintro ⟨before, rest, rfl, found, least⟩
        refine ⟨c :: before, rest, rfl, found, ?_⟩
        intro before' rest' split some
        cases before' with
        | nil =>
          obtain rfl : c :: (before ++ rest) = rest' := split
          rw [here] at some
          cases some
        | cons d before' =>
          exact Nat.succ_le_succ (least before' rest' (List.cons.inj split).2 some)
      · rintro ⟨before, rest, split, found, least⟩
        cases before with
        | nil =>
          obtain rfl : c :: t = rest := split
          rw [here] at found
          cases found
        | cons d before =>
          obtain ⟨rfl, rfl⟩ := List.cons.inj split
          refine ⟨before, rest, rfl, found, ?_⟩
          intro before' rest' split' some
          exact Nat.le_of_succ_le_succ (least (c :: before') rest' (congrArg (c :: ·) split') some)

end Lockstep.Pattern
