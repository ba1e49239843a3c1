import Lockstep.Text.Basic
import Mathlib.Data.List.TakeWhile

set_option autoImplicit false
set_option relaxedAutoImplicit false

/-!
What is found in a text: its blanks at both ends, and the places where another text occurs.

Trimming takes away blanks at both ends and nothing else.
-/

namespace Lockstep.Text

theorem exists_trimStart_eq (t : Text) :
    ∃ left : Text, (∀ c ∈ left, isBlank c = true) ∧ t = left ++ trimStart t :=
  ⟨t.takeWhile isBlank, fun _ hc => List.mem_takeWhile_imp hc, List.takeWhile_append_dropWhile.symm⟩

theorem exists_trimEnd_eq (t : Text) :
    ∃ right : Text, (∀ c ∈ right, isBlank c = true) ∧ t = trimEnd t ++ right := by
  obtain ⟨left, blank, split⟩ := exists_trimStart_eq t.reverse
  refine ⟨left.reverse, fun c hc => blank c (List.mem_reverse.mp hc), ?_⟩
  rw [trimEnd, ← List.reverse_append, ← trimStart, ← split, List.reverse_reverse]

theorem exists_trim_eq (t : Text) :
    ∃ left right : Text, (∀ c ∈ left, isBlank c = true) ∧ (∀ c ∈ right, isBlank c = true) ∧
      t = left ++ trim t ++ right := by
  obtain ⟨left, blankLeft, hl⟩ := exists_trimStart_eq t
  obtain ⟨right, blankRight, hr⟩ := exists_trimEnd_eq (trimStart t)
  refine ⟨left, right, blankLeft, blankRight, ?_⟩
  rw [trim, List.append_assoc, ← hr, ← hl]

theorem trim_isInfix (t : Text) : trim t <:+: t := by
  obtain ⟨left, right, -, -, split⟩ := exists_trim_eq t
  exact ⟨left, right, split.symm⟩

theorem trimStart_of_head? {t : Text} (h : ∀ c, t.head? = some c → isBlank c = false) :
    trimStart t = t := by
  cases t with
  | nil => rfl
  | cons c cs => rw [trimStart, List.dropWhile_cons_of_neg (by simp [h c rfl])]

theorem trimStart_of_forall_not_blank {t : Text} (h : ∀ c ∈ t, isBlank c = false) :
    trimStart t = t :=
  trimStart_of_head? fun c hc => h c (List.mem_of_mem_head? hc)

theorem trimEnd_append {core right : Text} (hr : ∀ c ∈ right, isBlank c = true)
    (hc : ∀ c ∈ core, isBlank c = false) : trimEnd (core ++ right) = core := by
  have blank : ∀ c ∈ right.reverse, isBlank c = true := by
    intro c hmem
    exact hr c (List.mem_reverse.mp hmem)
  have solid : ∀ c ∈ core.reverse, isBlank c = false := by
    intro c hmem
    exact hc c (List.mem_reverse.mp hmem)
  rw [trimEnd, List.reverse_append, List.dropWhile_append_of_pos blank, ← trimStart,
    trimStart_of_forall_not_blank solid, List.reverse_reverse]

theorem trim_append {left core right : Text} (hl : ∀ c ∈ left, isBlank c = true)
    (hr : ∀ c ∈ right, isBlank c = true) (hc : ∀ c ∈ core, isBlank c = false) :
    trim (left ++ core ++ right) = core := by
  rw [trim, trimStart, List.append_assoc, List.dropWhile_append_of_pos hl]
  cases core with
  | nil =>
    have gone : right.dropWhile isBlank = [] := List.dropWhile_eq_nil_iff.mpr hr
    rw [List.nil_append, gone]
    rfl
  | cons c cs =>
    rw [List.cons_append, List.dropWhile_cons_of_neg (by simp [hc c List.mem_cons_self])]
    exact trimEnd_append hr hc

theorem trim_eq_nil_iff {t : Text} : t.trim = [] ↔ ∀ c ∈ t, isBlank c = true := by
  constructor
  · intro gone
    obtain ⟨left, right, hl, hr, split⟩ := exists_trim_eq t
    rw [gone, List.append_nil] at split
    rw [split]
    exact fun c hc => (List.mem_append.mp hc).elim (hl c) (hr c)
  · intro blank
    have kept : trim (t ++ [] ++ []) = [] := trim_append blank (by simp) (by simp)
    rwa [List.append_nil, List.append_nil] at kept

theorem not_blank_of_head?_trimStart {t : Text} {c : Char} (h : (trimStart t).head? = some c) :
    isBlank c = false := by
  have head := List.head?_dropWhile_not isBlank t
  rw [← trimStart, h] at head
  simpa using head

theorem not_blank_of_head?_trim {t : Text} {c : Char} (h : (trim t).head? = some c) :
    isBlank c = false := by
  obtain ⟨right, -, split⟩ := exists_trimEnd_eq (trimStart t)
  apply not_blank_of_head?_trimStart (t := t)
  rw [split, List.head?_append, ← trim, h, Option.some_or]

theorem not_blank_of_getLast?_trim {t : Text} {c : Char} (h : (trim t).getLast? = some c) :
    isBlank c = false := by
  rw [trim, trimEnd, List.getLast?_reverse] at h
  exact not_blank_of_head?_trimStart h

theorem trim_eq_self_iff {t : Text} :
    trim t = t ↔ (∀ c, t.head? = some c → isBlank c = false) ∧
      ∀ c, t.getLast? = some c → isBlank c = false := by
  constructor
  · intro trimmed
    rw [← trimmed]
    exact ⟨fun _ => not_blank_of_head?_trim, fun _ => not_blank_of_getLast?_trim⟩
  · rintro ⟨front, back⟩
    rw [trim, trimStart_of_head? front, trimEnd, ← trimStart, trimStart_of_head?,
      List.reverse_reverse]
    intro c hc
    rw [List.head?_reverse] at hc
    exact back c hc

theorem trim_trim (t : Text) : trim (trim t) = trim t :=
  trim_eq_self_iff.mpr ⟨fun _ => not_blank_of_head?_trim, fun _ => not_blank_of_getLast?_trim⟩

theorem trim_cons_of_blank {c : Char} (blank : isBlank c = true) (t : Text) :
    trim (c :: t) = trim t := by
  rw [trim, trimStart, List.dropWhile_cons_of_pos blank, ← trimStart, ← trim]

/-!
A text occurs in another exactly when it is a stretch of it, and a text splits at a separator
exactly when it consists of two texts with the separator between them, the first of these being as
short as can be.
-/

theorem occursIn_iff_isInfix (part t : Text) : occursIn part t = true ↔ part <:+: t := by
  induction t with
  | nil => simp [occursIn, List.isEmpty_iff]
  | cons c t ih =>
    rw [occursIn, Bool.or_eq_true, List.isPrefixOf_iff_prefix, ih, List.infix_cons_iff]

theorem cons_infix_append_iff {c : Char} {w a b : Text} (absent : c ∉ a) :
    c :: w <:+: a ++ b ↔ c :: w <:+: b := by
  constructor
  · intro h
    rcases List.infix_append_iff.mp h with inside | behind | ⟨w₁, w₂, split, ends, begins⟩
    · exact absurd (inside.subset List.mem_cons_self) absent
    · exact behind
    · cases w₁ with
      | nil =>
        rw [split]
        exact begins.isInfix
      | cons d w₁ =>
        obtain ⟨rfl, -⟩ := List.cons.inj split
        exact absurd (ends.subset List.mem_cons_self) absent
  · exact fun h => h.trans (List.suffix_append a b).isInfix

theorem infix_append_append_iff {w a m b : Text} (nonempty : m ≠ []) (apart : ∀ c ∈ w, c ∉ m) :
    w <:+: a ++ (m ++ b) ↔ w <:+: a ∨ w <:+: b := by
  constructor
  · intro h
    rcases List.infix_append_iff.mp h with before | behind | ⟨w₁, w₂, rfl, ends, begins⟩
    · exact .inl before
    · cases w with
      | nil => exact .inl (List.nil_infix)
      | cons c w => exact .inr ((cons_infix_append_iff (apart c List.mem_cons_self)).mp behind)
    · cases w₂ with
      | nil =>
        rw [List.append_nil]
        exact .inl ends.isInfix
      | cons c w₂ =>
        obtain ⟨d, m, rfl⟩ := List.exists_cons_of_ne_nil nonempty
        rw [List.cons_append, List.cons_prefix_cons] at begins
        obtain ⟨rfl, -⟩ := begins
        exact absurd List.mem_cons_self (apart c (by simp))
  · rintro (before | behind)
    · exact before.trans (List.prefix_append a _).isInfix
    · exact behind.trans ((List.suffix_append m b).trans (List.suffix_append a _)).isInfix

theorem prefix_of_append_eq_append_cons {x : Char} {w rest a b : Text}
    (h : w ++ rest = a ++ x :: b) (absent : x ∉ w) : w <+: a := by
  rcases List.append_eq_append_iff.mp h with ⟨back, rfl, -⟩ | ⟨back, rfl, tail⟩
  · exact List.prefix_append w back
  · cases back with
    | nil => exact ⟨[], by simp⟩
    | cons d back =>
      obtain ⟨rfl, -⟩ := List.cons.inj tail
      exact absurd (List.mem_append_right a List.mem_cons_self) absent

theorem after?_eq_some_iff {lead t rest : Text} : after? lead t = some rest ↔ t = lead ++ rest := by
  induction lead generalizing t with
  | nil => simp [after?, eq_comm]
  | cons a lead ih =>
    cases t with
    | nil => simp [after?]
    | cons b t =>
      rw [after?, List.cons_append, List.cons.injEq]
      split
      · rename_i same
        rw [ih]
        simp [same]
      · rename_i other
        simp [Ne.symm other]

theorem splitFirst?_eq_some_iff {separator t a b : Text} :
    splitFirst? separator t = some (a, b) ↔
      t = a ++ (separator ++ b) ∧
        ∀ a' b', t = a' ++ (separator ++ b') → a.length ≤ a'.length := by
  induction t generalizing a with
  | nil =>
    rw [splitFirst?]
    constructor
    · intro h
      obtain ⟨rest, found, split⟩ := Option.map_eq_some_iff.mp h
      obtain ⟨rfl, rfl⟩ := Prod.mk.inj split
      have here : [] = separator ++ rest := after?_eq_some_iff.mp found
      exact ⟨here, fun a' b' _ => Nat.zero_le _⟩
    · rintro ⟨h, -⟩
      obtain ⟨ha, hb⟩ := List.append_eq_nil_iff.mp h.symm
      obtain ⟨hs, hr⟩ := List.append_eq_nil_iff.mp hb
      subst ha hs hr
      rfl
  | cons c t ih =>
    rw [splitFirst?]
    cases found : after? separator (c :: t) with
    | some rest =>
      have here := after?_eq_some_iff.mp found
      simp only [Option.some.injEq, Prod.mk.injEq]
      constructor
      · rintro ⟨rfl, rfl⟩
        exact ⟨here, fun a' b' _ => Nat.zero_le _⟩
      · rintro ⟨whole, least⟩
        have empty : a = [] := List.eq_nil_of_length_eq_zero (Nat.le_zero.mp (least [] rest here))
        subst empty
        exact ⟨rfl, List.append_cancel_left (here.symm.trans whole)⟩
    | none =>
      have nowhere (b' : Text) : c :: t ≠ separator ++ b' := by
        intro here
        rw [after?_eq_some_iff.mpr here] at found
        cases found
      simp only [Option.map_eq_some_iff, Prod.exists, Prod.mk.injEq]
      constructor
      · rintro ⟨a₀, b₀, later, rfl, rfl⟩
        obtain ⟨rfl, least⟩ := ih.mp later
        refine ⟨rfl, ?_⟩
        intro a' b' whole
        cases a' with
        | nil => exact absurd whole (nowhere b')
        | cons d a' => exact Nat.succ_le_succ (least a' b' (List.cons.inj whole).2)
      · rintro ⟨whole, least⟩
        cases a with
        | nil => exact absurd whole (nowhere b)
        | cons d a =>
          obtain ⟨rfl, rest⟩ := List.cons.inj whole
          have least' : ∀ a' b', t = a' ++ (separator ++ b') → a.length ≤ a'.length := by
            intro a' b' other
            have longer := least (c :: a') b' (congrArg (c :: ·) other)
            exact Nat.le_of_succ_le_succ longer
          exact ⟨a, b, ih.mpr ⟨rest, least'⟩, rfl, rfl⟩

theorem splitFirst?_append {separator t a b : Text} (h : splitFirst? separator t = some (a, b))
    (b' : Text) : splitFirst? separator (a ++ (separator ++ b')) = some (a, b') := by
  obtain ⟨rfl, least⟩ := splitFirst?_eq_some_iff.mp h
  refine splitFirst?_eq_some_iff.mpr ⟨rfl, ?_⟩
  intro a' back split
  apply Nat.le_of_not_lt
  intro earlier
  have front : a' ++ separator <+: a ++ separator ++ b' := by
    rw [List.append_assoc, split]
    exact ⟨back, List.append_assoc ..⟩
  have shorter : (a' ++ separator).length ≤ (a ++ separator).length := by
    simp only [List.length_append]
    omega
  obtain ⟨u, hu⟩ := List.prefix_of_prefix_length_le front (List.prefix_append _ _) shorter
  have other : a ++ (separator ++ b) = a' ++ (separator ++ (u ++ b)) := by
    rw [← List.append_assoc, ← hu]
    simp only [List.append_assoc]
  exact Nat.not_lt_of_le (least a' (u ++ b) other) earlier

theorem splitFirst?_singleton_eq_some_iff {x : Char} {t a b : Text} :
    splitFirst? [x] t = some (a, b) ↔ t = a ++ x :: b ∧ x ∉ a := by
  rw [splitFirst?_eq_some_iff]
  constructor
  · rintro ⟨rfl, least⟩
    refine ⟨rfl, ?_⟩
    intro hx
    obtain ⟨front, back, rfl⟩ := List.append_of_mem hx
    have shorter := least front (back ++ x :: b) (by simp)
    simp only [List.length_append, List.length_cons] at shorter
    omega
  · rintro ⟨rfl, absent⟩
    refine ⟨rfl, ?_⟩
    intro a' b' other
    apply Nat.le_of_not_lt
    intro longer
    have at' : (a ++ x :: b)[a'.length]? = some x := by simp [other]
    rw [List.getElem?_append_left longer] at at'
    exact absent (List.mem_of_getElem? at')

theorem append_cons_inj {x : Char} {a b a' b' : Text} (absent : x ∉ a) (absent' : x ∉ a')
    (h : a ++ x :: b = a' ++ x :: b') : a = a' ∧ b = b' := by
  have front : splitFirst? [x] (a ++ x :: b) = some (a, b) :=
    splitFirst?_singleton_eq_some_iff.mpr ⟨rfl, absent⟩
  have front' : splitFirst? [x] (a ++ x :: b) = some (a', b') :=
    splitFirst?_singleton_eq_some_iff.mpr ⟨h, absent'⟩
  exact Prod.mk.inj (Option.some.inj (front.symm.trans front'))

theorem splitFirst?_singleton_append {x : Char} {t a b a' : Text}
    (h : splitFirst? [x] (a ++ t) = some (a, b)) (absent : x ∉ a') :
    splitFirst? [x] (a' ++ t) = some (a', b) := by
  obtain ⟨whole, -⟩ := splitFirst?_singleton_eq_some_iff.mp h
  rw [List.append_cancel_left whole]
  exact splitFirst?_singleton_eq_some_iff.mpr ⟨rfl, absent⟩

end Lockstep.Text
