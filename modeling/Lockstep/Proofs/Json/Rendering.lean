import Lockstep.Proofs.Json.Decoder
import Mathlib.Data.List.TakeWhile

set_option autoImplicit false
set_option relaxedAutoImplicit false

/-!
Values as they are written and read back. Every character comes back from its escape and every number
from its numeral, so that the decoder finds the value that was written and stops right behind it.
-/

namespace Lockstep.Json

@[elab_as_elim]
theorem members_induction {motive : Json → Prop} (null : motive null) (bool : ∀ b, motive (bool b))
    (number : ∀ n, motive (number n)) (string : ∀ t, motive (string t))
    (object : ∀ members, (∀ m ∈ members, motive m.2) → motive (object members)) (j : Json) :
    motive j :=
  @Json.rec motive (fun members => ∀ m ∈ members, motive m.2) (fun m => motive m.2) null bool
    number string object nofun
    (fun _ _ first others => List.forall_mem_cons.mpr ⟨first, others⟩) (fun _ _ value => value) j

mutual

def value : Json → Value
  | null => .null
  | bool b => .bool b
  | number n => .number n
  | string t => .string t
  | object members => .object (memberValues members)

def memberValues : List (Text × Json) → List (Text × Value)
  | [] => []
  | (name, j) :: members => (name, j.value) :: memberValues members

end

theorem of_control {p : Char → Prop} (all : ∀ n < 0x20, p (Char.ofNat n)) {c : Char}
    (control : c < ' ') : p c := by
  have holds := all c.toNat control
  rwa [Char.ofNat_toNat] at holds

theorem char?_controlEscape {c : Char} (control : c < ' ') (rest : Text) :
    char? (controlEscape c ++ rest) = some (c, rest) := by
  refine of_control (p := fun c => char? (controlEscape c ++ rest) = some (c, rest)) ?_ control
  intro n below
  interval_cases n <;> rfl

theorem char?_escapeChar (c : Char) (rest : Text) :
    char? (escapeChar c ++ rest) = some (c, rest) := by
  unfold escapeChar
  split_ifs with quote slash feed returns tab back form control
  any_goals
    subst c
    rfl
  · exact char?_controlEscape control rest
  · simp [char?, quote, slash, control]

theorem chars?_escape (t rest : Text) {fuel : Nat} (h : t.length < fuel) :
    chars? fuel (t.flatMap escapeChar ++ '"' :: rest) = some (t, rest) := by
  induction t generalizing fuel with
  | nil =>
    cases fuel with
    | zero => cases h
    | succ fuel => rfl
  | cons c t ih =>
    cases fuel with
    | zero => cases h
    | succ fuel =>
      rw [List.flatMap_cons, List.append_assoc, chars?, char?_escapeChar]
      simp only [ih (Nat.lt_of_succ_lt_succ h), Option.map_some]

theorem length_le_escape (t : Text) : t.length ≤ (t.flatMap escapeChar).length := by
  induction t with
  | nil => exact Nat.le_refl 0
  | cons c t ih =>
    have nonempty : 0 < (escapeChar c).length := by
      apply List.length_pos_of_ne_nil
      intro empty
      have read := char?_escapeChar c []
      rw [empty] at read
      cases read
    rw [List.flatMap_cons, List.length_append, List.length_cons]
    omega

theorem string?_renderString (t rest : Text) :
    string? (renderString t ++ rest) = some (t, rest) := by
  rw [renderString, List.cons_append, List.append_assoc, List.singleton_append, string?]
  apply chars?_escape
  have escaped := length_le_escape t
  rw [List.length_append, List.length_cons]
  omega

/-- A text ends the numeral before it when it does not go on like one. -/
def EndsNumber (rest : Text) : Prop :=
  ∀ c ∈ rest.head?, c.isDigit = false ∧ c ≠ '.' ∧ c ≠ 'e' ∧ c ≠ 'E'

theorem digits?_append {digits rest : Text} (nonempty : digits ≠ [])
    (all : ∀ c ∈ digits, c.isDigit = true) (ends : EndsNumber rest) :
    digits? (digits ++ rest) = some (digits, rest) := by
  have none : rest.takeWhile Char.isDigit = [] ∧ rest.dropWhile Char.isDigit = rest := by
    cases rest with
    | nil => exact ⟨rfl, rfl⟩
    | cons c rest =>
      have other : ¬c.isDigit = true := by simp [(ends c rfl).1]
      exact ⟨List.takeWhile_cons_of_neg other, List.dropWhile_cons_of_neg other⟩
  rw [digits?, List.takeWhile_append_of_pos all, List.dropWhile_append_of_pos all, none.1, none.2,
    List.append_nil]
  simp [nonempty]

theorem fraction?_of_ends {rest : Text} (ends : EndsNumber rest) :
    fraction? rest = some ([], rest) := by
  unfold fraction?
  split
  · exact absurd rfl (ends _ rfl).2.1
  · rfl

theorem exponent?_of_ends {rest : Text} (ends : EndsNumber rest) :
    exponent? rest = some (0, rest) := by
  unfold exponent?
  split
  · exact absurd rfl (ends _ rfl).2.2.1
  · exact absurd rfl (ends _ rfl).2.2.2
  · rfl

theorem whole?_decimal (n : Nat) {rest : Text} (ends : EndsNumber rest) :
    whole? (Text.decimal n ++ rest) = some (Text.decimal n, rest) := by
  unfold whole?
  split
  · rename_i t behind split
    have zero : n = 0 := by
      apply Text.eq_zero_of_head?_decimal
      rw [← List.head?_append_of_ne_nil _ (Text.decimal_ne_nil n), split]
      rfl
    subst zero
    have same : rest = behind := (List.cons.inj split).2
    rw [same]
    rfl
  · exact digits?_append (Text.decimal_ne_nil n) (fun c => Text.isDigit_of_mem_decimal) ends

theorem magnitude?_decimal (n : Nat) {rest : Text} (ends : EndsNumber rest) :
    magnitude? (Text.decimal n ++ rest) = some ((n : ℚ), rest) := by
  have exact : Nat.ofDigitChars 10 (Text.decimal n) 0 = n := Nat.ofDigitChars_ten_toDigits
  have unscaled : scaled n 0 = n := congrArg Nat.cast (Nat.mul_one n)
  simp only [magnitude?, whole?_decimal n ends, fraction?_of_ends ends, exponent?_of_ends ends,
    Option.bind_some, Option.map_some, List.append_nil, List.length_nil, Nat.cast_zero,
    Int.sub_zero, exact, unscaled]

theorem skipSpace_cons {c : Char} (h : isSpace c = false) (t : Text) :
    skipSpace (c :: t) = c :: t := by
  exact List.dropWhile_cons_of_neg (by simp [h])

theorem value?_decimal (n fuel : Nat) {rest : Text} (ends : EndsNumber rest) :
    value? (fuel + 1) (Text.decimal n ++ rest) = some (.number n, rest) := by
  have read := magnitude?_decimal n ends
  obtain ⟨c, digits, split, digit⟩ := Text.exists_decimal_eq_cons n
  rw [split, List.cons_append] at read ⊢
  have other (d : Char) (h : d.isDigit = false) : c ≠ d := by
    rintro rfl
    rw [digit] at h
    cases h
  have solid : isSpace c = false := by simp [isSpace, other]
  rw [value?, skipSpace_cons solid]
  simp [number?, other, read]

theorem value?_renderString (t rest : Text) (fuel : Nat) :
    value? (fuel + 1) (renderString t ++ rest) = some (.string t, rest) := by
  have read := string?_renderString t rest
  rw [renderString, List.cons_append] at read ⊢
  rw [value?, skipSpace_cons (by decide)]
  simp only [read, Option.map_some]

theorem member?_renderString {α : Type} (element? : Text → Option (α × Text)) (name t : Text) :
    member? element? (renderString name ++ ':' :: t) =
      (element? t).map fun (a, rest) => ((name, a), rest) := by
  have read := string?_renderString name (':' :: t)
  rw [renderString, List.cons_append] at read ⊢
  rw [member?, skipSpace_cons (by decide), read]
  rfl

theorem ends_renderMembers (members : List (Text × Json)) (rest : Text) :
    EndsNumber (renderMembers members ++ rest) := by
  cases members <;> rintro _ ⟨⟩ <;> decide

/-- A value is read back by a reader when the reader finds it wherever the text behind it cannot belong to
a number. -/
def ReadBy (read? : Text → Option (Value × Text)) (j : Json) : Prop :=
  ∀ rest, EndsNumber rest → read? (j.render ++ rest) = some (j.value, rest)

theorem elements?_renderMembers {read? : Text → Option (Value × Text)} (name : Text) (j : Json)
    (members : List (Text × Json)) (first : ReadBy read? j)
    (others : ∀ m ∈ members, ReadBy read? m.2) {fuel : Nat} (enough : members.length < fuel)
    (rest : Text) :
    elements? (member? read?) '\x7d' fuel
        (renderString name ++ ':' :: (j.render ++ (renderMembers members ++ rest))) =
      some ((name, j.value) :: memberValues members, rest) := by
  induction members generalizing name j fuel with
  | nil =>
    cases fuel with
    | zero => cases enough
    | succ fuel =>
      rw [elements?, member?_renderString, first _ (ends_renderMembers [] rest)]
      rfl
  | cons m members ih =>
    obtain ⟨name', j'⟩ := m
    cases fuel with
    | zero => cases enough
    | succ fuel =>
      have behind := ih name' j' (others _ List.mem_cons_self)
        (fun m member => others m (List.mem_cons_of_mem _ member)) (Nat.lt_of_succ_lt_succ enough)
      rw [elements?, member?_renderString, first _ (ends_renderMembers _ rest), Option.map_some,
        Option.bind_some]
      simp only [renderMembers, List.cons_append, List.append_assoc]
      rw [skipSpace_cons (by decide)]
      simp only [behind, Option.map_some, memberValues, Char.reduceEq, if_false, if_true]

theorem length_lt_renderMembers (members : List (Text × Json)) :
    members.length < (renderMembers members).length := by
  induction members with
  | nil => exact Nat.one_pos
  | cons m members ih =>
    simp only [renderMembers, List.length_cons, List.length_append]
    omega

theorem sequence?_renderMembers {read? : Text → Option (Value × Text)} (name : Text) (j : Json)
    (members : List (Text × Json)) (read : ∀ m ∈ (name, j) :: members, ReadBy read? m.2)
    (rest : Text) :
    sequence? (member? read?) '\x7d'
        (renderString name ++ ':' :: (j.render ++ (renderMembers members ++ rest))) =
      some ((name, j.value) :: memberValues members, rest) := by
  obtain ⟨first, others⟩ := List.forall_mem_cons.mp read
  have longer := length_lt_renderMembers members
  have enough : members.length <
      (renderString name ++ ':' :: (j.render ++ (renderMembers members ++ rest))).length := by
    simp only [List.length_append, List.length_cons]
    omega
  exact elements?_renderMembers name j members first others enough rest

theorem length_render_lt (members : List (Text × Json)) :
    ∀ m ∈ members, m.2.render.length < (render (object members)).length := by
  have within : ∀ m ∈ members, m.2.render.length < (renderMembers members).length := by
    induction members with
    | nil => exact nofun
    | cons m members ih =>
      rw [List.forall_mem_cons]
      simp only [renderMembers, List.length_cons, List.length_append]
      constructor
      · omega
      · intro m' member
        have behind := ih m' member
        omega
  cases members with
  | nil => exact nofun
  | cons m members => exact within

theorem value?_render (j : Json) {fuel : Nat} (enough : j.render.length ≤ fuel) :
    ReadBy (value? (fuel + 1)) j := by
  induction j using members_induction generalizing fuel with intro rest ends
  | null => rfl
  | bool b => cases b <;> rfl
  | number n => exact value?_decimal n fuel ends
  | string t => exact value?_renderString t rest fuel
  | object members ih =>
    cases members with
    | nil => rfl
    | cons m members =>
      obtain ⟨name, j⟩ := m
      have shorter := length_render_lt ((name, j) :: members)
      cases fuel with
      | zero => cases enough
      | succ fuel =>
        have read : ∀ m ∈ (name, j) :: members, ReadBy (value? (fuel + 1)) m.2 := by
          intro m member
          have less := shorter m member
          exact ih m member (by omega)
        have inside := sequence?_renderMembers name j members read rest
        rw [render, List.cons_append, value?, skipSpace_cons (by decide)]
        simp only [List.append_assoc, List.cons_append, inside, Option.map_some]
        rfl

theorem ends_of_space {blanks : Text} (space : ∀ c ∈ blanks, isSpace c = true) :
    EndsNumber blanks := by
  intro c first
  have blank := space c (List.mem_of_mem_head? first)
  simp only [isSpace, Bool.or_eq_true, decide_eq_true_eq] at blank
  rcases blank with ((rfl | rfl) | rfl) | rfl <;> decide

theorem decode?_render (j : Json) {blanks : Text} (space : ∀ c ∈ blanks, isSpace c = true) :
    decode? (j.render ++ blanks) = some j.value := by
  have enough : j.render.length ≤ (j.render ++ blanks).length := by
    rw [List.length_append]
    omega
  have nothing : skipSpace blanks = [] := List.dropWhile_eq_nil_iff.mpr space
  rw [decode?, value?_render j enough blanks (ends_of_space space), Option.bind_some]
  simp only [nothing, List.isEmpty_nil, if_true]

example : decode? " [ -1.50e1 , \"\\ud83d\\ude00\\/\\n\", \x7b\"a\" :[ ]\x7d,null]\n".toList =
    some (.array [.number (-15), .string "😀/\n".toList, .object [("a".toList, .array [])],
      .null]) := by
  cbv

example : decode? "[01]".toList = none ∧ decode? "\"\n\"".toList = none ∧
    decode? "\"\\ud83d\"".toList = none ∧ decode? "[1,]".toList = none := by
  decide

theorem not_mem_escapeChar (c : Char) : '\n' ∉ escapeChar c := by
  unfold escapeChar
  split_ifs with quote slash feed returns tab back form control
  any_goals decide
  · exact of_control (p := fun c => '\n' ∉ controlEscape c) (by decide) control
  · rw [List.mem_singleton]
    exact Ne.symm feed

theorem not_mem_renderString (t : Text) : '\n' ∉ renderString t := by
  have escaped : '\n' ∉ t.flatMap escapeChar := by
    intro member
    obtain ⟨c, -, inside⟩ := List.mem_flatMap.mp member
    exact not_mem_escapeChar c inside
  simp [renderString, escaped]

theorem not_mem_renderMembers {members : List (Text × Json)}
    (values : ∀ m ∈ members, '\n' ∉ m.2.render) : '\n' ∉ renderMembers members := by
  induction members with
  | nil => decide
  | cons m members ih =>
    obtain ⟨first, others⟩ := List.forall_mem_cons.mp values
    simp [renderMembers, not_mem_renderString, first, ih others]

theorem not_mem_render (j : Json) : '\n' ∉ j.render := by
  induction j using members_induction with
  | null => decide
  | bool b => cases b <;> decide
  | number n =>
    intro member
    exact absurd (Text.isDigit_of_mem_decimal member) (by decide)
  | string t => exact not_mem_renderString t
  | object members values =>
    have inside := not_mem_renderMembers values
    cases members with
    | nil => decide
    | cons m members =>
      simp only [renderMembers, render, List.mem_cons, not_or] at inside ⊢
      exact ⟨by decide, inside.2⟩

end Lockstep.Json
