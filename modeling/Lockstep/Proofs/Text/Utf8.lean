import Lockstep.Text.Basic
import Mathlib.Algebra.Group.Nat.Defs
import Mathlib.Data.List.Infix
import Mathlib.Tactic.SplitIfs

set_option autoImplicit false
set_option relaxedAutoImplicit false

/-!
The decoder against the characters' encodings. A first byte fixes how many bytes a character has; the
decoder that has read the first bytes of an encoding expects exactly the bytes that complete one.
-/

namespace Lockstep.Text

def tailByte (n : Nat) : UInt8 := UInt8.ofNat (n % 64 + 128)

/-- The bytes that carry the last `count` times six bits of a number. -/
def tailBytes : Nat → Nat → List UInt8
  | 0, _ => []
  | count + 1, n => tailByte (n / 64 ^ count) :: tailBytes count n

theorem toNat_tailByte (n : Nat) : (tailByte n).toNat = n % 64 + 128 := by
  rw [tailByte, UInt8.toNat_ofNat', Nat.mod_eq_of_lt (by omega)]

theorem length_tailBytes (count n : Nat) : (tailBytes count n).length = count := by
  induction count with
  | zero => rfl
  | succ count ih => rw [tailBytes, List.length_cons, ih]

theorem tailByte_of_bounds {b : UInt8} (value : Nat) (lower : 0x80 ≤ b) (upper : b ≤ 0xBF) :
    tailByte (value * 64 + (b.toNat - 0x80)) = b := by
  rw [UInt8.le_iff_toNat_le] at lower upper
  simp only [UInt8.reduceToNat] at lower upper
  apply UInt8.toNat_inj.mp
  rw [toNat_tailByte]
  omega

theorem tailByte_bounds (n : Nat) : 0x80 ≤ tailByte n ∧ tailByte n ≤ 0xBF := by
  simp only [UInt8.le_iff_toNat_le, toNat_tailByte, UInt8.reduceToNat]
  omega

theorem toNat_ofNat_of_isValidChar {n : Nat} (h : n.isValidChar) : (Char.ofNat n).toNat = n := by
  rw [Char.ofNat, dif_pos h]
  rfl

theorem encodeChar_of_lt {c : Char} (h : c.toNat < 0x80) :
    String.utf8EncodeChar c = [UInt8.ofNat c.toNat] := by
  simp only [String.utf8EncodeChar, Char.toNat_val]
  rw [if_pos (by omega)]

theorem encodeChar_ne_nil (c : Char) : String.utf8EncodeChar c ≠ [] := by
  have size : 0 < (String.utf8EncodeChar c).length := by
    rw [String.length_utf8EncodeChar]
    exact Char.utf8Size_pos c
  exact List.ne_nil_of_length_pos size

/-- The characters from `first` to `last` have `count` bytes behind the first, which bears a mark. -/
inductive Width : (count mark first last : Nat) → Prop
  | two : Width 1 0xC0 0x80 0x7FF
  | three : Width 2 0xE0 0x800 0xFFFF
  | four : Width 3 0xF0 0x10000 0x10FFFF

theorem encodeChar_of_width {count mark first last : Nat} (w : Width count mark first last)
    {c : Char} (lower : first ≤ c.toNat) (upper : c.toNat ≤ last) :
    String.utf8EncodeChar c =
      UInt8.ofNat (c.toNat / 64 ^ count + mark) :: tailBytes count c.toNat := by
  cases w <;> simp only [String.utf8EncodeChar, Char.toNat_val]
  · rw [if_neg (by omega), if_pos upper, Nat.mod_eq_of_lt (a := c.toNat / 64) (by omega)]
    simp [tailBytes, tailByte]
  · rw [if_neg (by omega), if_neg (by omega), if_pos upper,
      Nat.mod_eq_of_lt (a := c.toNat / 4096) (by omega)]
    simp [tailBytes, tailByte]
  · rw [if_neg (by omega), if_neg (by omega), if_neg (by omega),
      Nat.mod_eq_of_lt (a := c.toNat / 262144) (by omega)]
    simp [tailBytes, tailByte]

theorem exists_width {c : Char} (h : 0x80 ≤ c.toNat) :
    ∃ count mark first last, Width count mark first last ∧ first ≤ c.toNat ∧ c.toNat ≤ last := by
  have valid : c.toNat.isValidChar := c.valid
  simp only [Nat.isValidChar] at valid
  by_cases two : c.toNat ≤ 0x7FF
  · exact ⟨_, _, _, _, .two, h, two⟩
  · by_cases three : c.toNat ≤ 0xFFFF
    · exact ⟨_, _, _, _, .three, by omega, three⟩
    · exact ⟨_, _, _, _, .four, by omega, by omega⟩

/-- A first byte that calls for more is the mark of a width with the upper bits of a number, and the
bytes it admits next are those of the characters of that width: overlong forms, surrogates and numbers
past the last character are left out by the bounds. -/
theorem exists_width_of_lead {b : UInt8} {count value : Nat} {low high : UInt8}
    (h : lead b = ([], .more count value low high)) :
    ∃ mark first last, Width count mark first last ∧ b.toNat = value + mark ∧
      (first ≤ value * 64 ^ count + 64 ^ count - 1 ∧ value * 64 ^ count ≤ last) ∧
      (0x80 ≤ low ∧ low ≤ high ∧ high ≤ 0xBF) ∧
      ∀ n, n / 64 ^ count = value →
        ((low ≤ tailByte (n / 64 ^ (count - 1)) ∧ tailByte (n / 64 ^ (count - 1)) ≤ high) ↔
          n.isValidChar ∧ first ≤ n ∧ n ≤ last) := by
  have size : b.toNat < 256 := b.toNat_lt
  simp only [UInt8.le_iff_toNat_le, toNat_tailByte, Nat.isValidChar]
  unfold lead at h
  split_ifs at h <;>
    simp only [Prod.mk.injEq, reduceCtorEq, List.cons_ne_self, and_false, Expecting.more.injEq] at h
  all_goals
    obtain ⟨-, rfl, rfl, rfl, rfl⟩ := h
    simp only [UInt8.le_iff_toNat_le, UInt8.lt_iff_toNat_lt, ← UInt8.toNat_inj, UInt8.reduceToNat,
      Nat.reduceSub, Nat.reducePow, Nat.div_one] at *
  · exact ⟨_, _, _, .two, by omega, by omega, by omega, fun n hn => by omega⟩
  · exact ⟨_, _, _, .three, by omega, by omega, by omega, fun n hn => by omega⟩
  · exact ⟨_, _, _, .three, by omega, by omega, by omega, fun n hn => by omega⟩
  · exact ⟨_, _, _, .three, by omega, by omega, by omega, fun n hn => by omega⟩
  · exact ⟨_, _, _, .four, by omega, by omega, by omega, fun n hn => by omega⟩
  · exact ⟨_, _, _, .four, by omega, by omega, by omega, fun n hn => by omega⟩
  · exact ⟨_, _, _, .four, by omega, by omega, by omega, fun n hn => by omega⟩

theorem lead_cases (b : UInt8) :
    (b < 0x80 ∧ lead b = ([Char.ofNat b.toNat], .start)) ∨
      (∃ count value low high, lead b = ([], .more count value low high)) ∨
      ((b.toNat < 0xC2 ∨ 0xF4 < b.toNat) ∧ lead b = ([replacement], .start)) := by
  simp only [lead, UInt8.le_iff_toNat_le, UInt8.lt_iff_toNat_lt, ← UInt8.toNat_inj,
    UInt8.reduceToNat]
  split_ifs with ascii
  · exact .inl ⟨ascii, rfl⟩
  · exact .inr (.inl ⟨_, _, _, _, rfl⟩)
  · exact .inr (.inl ⟨_, _, _, _, rfl⟩)
  · exact .inr (.inl ⟨_, _, _, _, rfl⟩)
  · exact .inr (.inl ⟨_, _, _, _, rfl⟩)
  · exact .inr (.inl ⟨_, _, _, _, rfl⟩)
  · exact .inr (.inl ⟨_, _, _, _, rfl⟩)
  · exact .inr (.inl ⟨_, _, _, _, rfl⟩)
  · exact .inr (.inr ⟨by omega, rfl⟩)

theorem lead_of_width {count mark first last n : Nat} (w : Width count mark first last)
    (valid : n.isValidChar) (lower : first ≤ n) (upper : n ≤ last) :
    ∃ low high,
      lead (UInt8.ofNat (n / 64 ^ count + mark)) = ([], .more count (n / 64 ^ count) low high) ∧
      low ≤ tailByte (n / 64 ^ (count - 1)) ∧ tailByte (n / 64 ^ (count - 1)) ≤ high := by
  have byte : (UInt8.ofNat (n / 64 ^ count + mark)).toNat = n / 64 ^ count + mark := by
    rw [UInt8.toNat_ofNat', Nat.mod_eq_of_lt]
    cases w <;> omega
  have range : 0xC2 ≤ n / 64 ^ count + mark ∧ n / 64 ^ count + mark ≤ 0xF4 := by
    cases w <;> omega
  rcases lead_cases (UInt8.ofNat (n / 64 ^ count + mark)) with ⟨ascii, -⟩ | more | ⟨outside, -⟩
  · simp only [UInt8.lt_iff_toNat_lt, byte, UInt8.reduceToNat] at ascii
    omega
  · obtain ⟨count', value, low, high, hlead⟩ := more
    obtain ⟨mark', first', last', w', hb, ⟨_, _⟩, -, window⟩ := exists_width_of_lead hlead
    have sum : n / 64 ^ count + mark = value + mark' := byte.symm.trans hb
    obtain ⟨rfl, hv⟩ : count = count' ∧ value = n / 64 ^ count := by
      clear byte hb hlead window
      cases w <;> cases w' <;> omega
    subst hv
    refine ⟨low, high, hlead, (window n rfl).mpr ⟨valid, ?_⟩⟩
    cases w <;> cases w' <;> omega
  · rw [byte] at outside
    omega

theorem decodeFrom_cons (state : Expecting) (b : UInt8) (rest : List UInt8) :
    decodeFrom state (b :: rest) = (state.next b).1 ++ decodeFrom (state.next b).2 rest := by
  cases state <;> rfl

theorem decode_cons (b : UInt8) (rest : List UInt8) :
    decode (b :: rest) = (lead b).1 ++ decodeFrom (lead b).2 rest := rfl

theorem decode_cons_of_lt {b : UInt8} (h : b < 0x80) (rest : List UInt8) :
    decode (b :: rest) = Char.ofNat b.toNat :: decode rest := by
  rw [decode_cons, lead, if_pos h]
  rfl

def joined (value : Nat) (b : UInt8) : Nat := value * 64 + (b.toNat - 0x80)

theorem next_of_inside {low high b : UInt8} (lower : low ≤ b) (upper : b ≤ high)
    (count value : Nat) :
    (Expecting.more (count + 1) value low high).next b =
      if count = 0 then ([Char.ofNat (joined value b)], .start)
      else ([], .more count (joined value b) 0x80 0xBF) := by
  cases count <;> simp only [Expecting.next, if_pos (And.intro lower upper)] <;> rfl

theorem next_of_outside {low high b : UInt8} (h : ¬(low ≤ b ∧ b ≤ high)) (count value : Nat) :
    (Expecting.more count value low high).next b = (replacement :: (lead b).1, (lead b).2) := by
  simp only [Expecting.next, if_neg h]

theorem decodeFrom_cons_of_outside {low high b : UInt8} (h : ¬(low ≤ b ∧ b ≤ high))
    (count value : Nat) (rest : List UInt8) :
    decodeFrom (.more count value low high) (b :: rest) = replacement :: decode (b :: rest) := by
  rw [decodeFrom_cons, next_of_outside h, List.cons_append, decode_cons]

def Expecting.AboveAscii : Expecting → Prop
  | .start => True
  | .more _ _ low _ => 0x80 ≤ low

theorem aboveAscii_lead (b : UInt8) : (lead b).2.AboveAscii := by
  rcases lead_cases b with ⟨-, first⟩ | ⟨count, value, low, high, first⟩ | ⟨-, first⟩
  · rw [first]
    trivial
  · obtain ⟨_, _, _, -, -, -, bounds, -⟩ := exists_width_of_lead first
    rw [first]
    exact bounds.1
  · rw [first]
    trivial

theorem aboveAscii_next (state : Expecting) (b : UInt8) : (state.next b).2.AboveAscii := by
  cases state with
  | start => exact aboveAscii_lead b
  | more count value low high =>
    simp only [Expecting.next]
    split
    · split
      · trivial
      · exact UInt8.le_refl _
    · exact aboveAscii_lead b

/-- A byte below 0x80 is a character by itself after any bytes: what is unfinished before it is
replaced, and what comes behind it is read as if it came first. -/
theorem decodeFrom_append_cons {state : Expecting} (above : state.AboveAscii) {x : UInt8}
    (h : x < 0x80) (a b : List UInt8) :
    decodeFrom state (a ++ x :: b) = decodeFrom state a ++ Char.ofNat x.toNat :: decode b := by
  induction a generalizing state with
  | nil =>
    have first := decode_cons_of_lt h b
    cases state with
    | start => exact first
    | more count value low high =>
      have outside : ¬(low ≤ x ∧ x ≤ high) := by
        intro inside
        have low_lt := UInt8.lt_of_le_of_lt inside.1 h
        exact UInt8.not_le.mpr low_lt above
      rw [List.nil_append, decodeFrom_cons_of_outside outside, first]
      rfl
  | cons c a ih =>
    have later := ih (aboveAscii_next state c)
    rw [List.cons_append, decodeFrom_cons, decodeFrom_cons, later, List.append_assoc]

theorem decode_append_cons {x : UInt8} (h : x < 0x80) (a b : List UInt8) :
    decode (a ++ x :: b) = decode a ++ Char.ofNat x.toNat :: decode b := by
  have above : Expecting.start.AboveAscii := trivial
  exact decodeFrom_append_cons above h a b

def Begins (part : List UInt8) : Prop := ∃ c, part <+: String.utf8EncodeChar c

/-- After the bytes `part` the decoder calls for `count + 1` more, and what it admits spells the
characters whose upper bits are `value`. -/
structure Pending (part : List UInt8) (count value : Nat) (low high : UInt8) : Prop where
  awaits : ∀ rest, decode (part ++ rest) = decodeFrom (.more (count + 1) value low high) rest
  bounds : 0x80 ≤ low ∧ low ≤ high ∧ high ≤ 0xBF
  spells : ∀ n, n / 64 ^ (count + 1) = value →
    low ≤ tailByte (n / 64 ^ count) → tailByte (n / 64 ^ count) ≤ high →
    n.isValidChar ∧ String.utf8EncodeChar (Char.ofNat n) = part ++ tailBytes (count + 1) n

theorem pending_of_lead {b : UInt8} {count value : Nat} {low high : UInt8}
    (h : lead b = ([], .more count value low high)) :
    ∃ less, count = less + 1 ∧ Pending [b] less value low high := by
  obtain ⟨mark, first, last, w, byte, -, bounds, window⟩ := exists_width_of_lead h
  obtain ⟨less, rfl⟩ : ∃ less, count = less + 1 := by cases w <;> exact ⟨_, rfl⟩
  refine ⟨less, rfl, ?_, bounds, ?_⟩
  · intro rest
    rw [List.singleton_append, decode_cons, h, List.nil_append]
  · intro n upper lower higher
    obtain ⟨valid, least, most⟩ := (window n upper).mp ⟨lower, higher⟩
    have number := toNat_ofNat_of_isValidChar valid
    have first := encodeChar_of_width w (c := Char.ofNat n) (by omega) (by omega)
    refine ⟨valid, ?_⟩
    rw [first, number, upper, ← byte, UInt8.ofNat_toNat, List.singleton_append]

theorem joined_div (value : Nat) {b : UInt8} (upper : b ≤ 0xBF) : joined value b / 64 = value := by
  have size : b.toNat ≤ 0xBF := UInt8.le_iff_toNat_le.mp upper
  unfold joined
  omega

theorem div_pow_succ (n count : Nat) : n / 64 ^ (count + 1) = n / 64 ^ count / 64 := by
  rw [Nat.pow_succ, Nat.div_div_eq_div_mul]

theorem joined_tailByte (n count : Nat) :
    joined (n / 64 ^ (count + 1)) (tailByte (n / 64 ^ count)) = n / 64 ^ count := by
  have bits := toNat_tailByte (n / 64 ^ count)
  unfold joined
  rw [div_pow_succ]
  omega

section

variable {part : List UInt8} {count value : Nat} {low high b : UInt8}

theorem Pending.spells_byte (p : Pending part count value low high) (lower : low ≤ b)
    (upper : b ≤ high) {n : Nat} (h : n / 64 ^ count = joined value b) :
    n.isValidChar ∧ String.utf8EncodeChar (Char.ofNat n) = part ++ b :: tailBytes count n := by
  have least : 0x80 ≤ b := UInt8.le_trans p.bounds.1 lower
  have most : b ≤ 0xBF := UInt8.le_trans upper p.bounds.2.2
  have tail : tailByte (n / 64 ^ count) = b := by
    rw [h]
    exact tailByte_of_bounds value least most
  have above : n / 64 ^ (count + 1) = value := by
    rw [div_pow_succ, h]
    exact joined_div value most
  have spelled := p.spells n above (by rwa [tail]) (by rwa [tail])
  rwa [tailBytes, tail] at spelled

theorem Pending.begins (p : Pending part count value low high) (lower : low ≤ b)
    (upper : b ≤ high) : Begins (part ++ [b]) := by
  have power : 0 < 64 ^ count := Nat.pow_pos (by decide)
  obtain ⟨n, upperBits⟩ : ∃ n, n / 64 ^ count = joined value b :=
    ⟨joined value b * 64 ^ count, Nat.mul_div_cancel _ power⟩
  obtain ⟨-, spelled⟩ := p.spells_byte lower upper upperBits
  refine ⟨Char.ofNat n, tailBytes count n, ?_⟩
  rw [spelled, List.append_assoc, List.singleton_append]

theorem Pending.step (p : Pending part (count + 1) value low high) (lower : low ≤ b)
    (upper : b ≤ high) : Pending (part ++ [b]) count (joined value b) 0x80 0xBF := by
  refine ⟨?_, by decide, ?_⟩
  · intro rest
    have more : count + 1 ≠ 0 := Nat.succ_ne_zero count
    rw [List.append_assoc, List.singleton_append, p.awaits, decodeFrom_cons,
      next_of_inside lower upper, if_neg more, List.nil_append]
  · intro n upperBits _ _
    have spelled := p.spells_byte lower upper upperBits
    rwa [List.append_assoc, List.singleton_append]

theorem Pending.finish (p : Pending part 0 value low high) (lower : low ≤ b) (upper : b ≤ high)
    (rest : List UInt8) :
    decode (part ++ b :: rest) = Char.ofNat (joined value b) :: decode rest := by
  rw [p.awaits, decodeFrom_cons, next_of_inside lower upper, if_pos rfl]
  rfl

theorem Pending.decode_stop (p : Pending part count value low high) {rest : List UInt8}
    (stops : ∀ b after, rest = b :: after → ¬(low ≤ b ∧ b ≤ high)) :
    decode (part ++ rest) = replacement :: decode rest := by
  rw [p.awaits]
  cases rest with
  | nil => rfl
  | cons b after => exact decodeFrom_cons_of_outside (stops b after rfl) _ _ _

theorem Pending.decode_tail {n : Nat} (p : Pending part count (n / 64 ^ (count + 1)) low high)
    (lower : low ≤ tailByte (n / 64 ^ count)) (upper : tailByte (n / 64 ^ count) ≤ high)
    (rest : List UInt8) :
    decode (part ++ (tailBytes (count + 1) n ++ rest)) = Char.ofNat n :: decode rest := by
  induction count generalizing part low high with
  | zero =>
    have whole : joined (n / 64 ^ (0 + 1)) (tailByte (n / 64 ^ 0)) = n := by
      rw [joined_tailByte, Nat.pow_zero, Nat.div_one]
    rw [tailBytes, tailBytes, List.singleton_append, p.finish lower upper, whole]
  | succ count ih =>
    have bounds := tailByte_bounds (n / 64 ^ count)
    have next := p.step lower upper
    rw [joined_tailByte] at next
    have completed := ih next bounds.1 bounds.2
    rwa [List.append_assoc, List.singleton_append] at completed

theorem Pending.of_prefix {n : Nat} {more : List UInt8} (p : Pending part count value low high)
    (lower : low ≤ tailByte (n / 64 ^ count)) (upper : tailByte (n / 64 ^ count) ≤ high)
    (h : more <+: tailBytes (count + 1) n) (short : more.length ≤ count) :
    ∃ count value low high, Pending (part ++ more) count value low high := by
  induction count generalizing part value low high more with
  | zero =>
    have empty : more = [] := List.eq_nil_of_length_eq_zero (by omega)
    rw [empty, List.append_nil]
    exact ⟨_, _, _, _, p⟩
  | succ count ih =>
    cases more with
    | nil =>
      rw [List.append_nil]
      exact ⟨_, _, _, _, p⟩
    | cons b more =>
      rw [tailBytes, List.cons_prefix_cons] at h
      obtain ⟨rfl, h⟩ := h
      have bounds := tailByte_bounds (n / 64 ^ count)
      have fewer : more.length ≤ count := Nat.le_of_succ_le_succ short
      have later := ih (p.step lower upper) bounds.1 bounds.2 h fewer
      rwa [List.append_assoc, List.singleton_append] at later

end

/-- The encoding of a character past the ASCII ones is a first byte that the decoder goes on from and
the bytes that it goes on with. -/
theorem exists_pending {c : Char} (h : 0x80 ≤ c.toNat) :
    ∃ b count low high, String.utf8EncodeChar c = b :: tailBytes (count + 1) c.toNat ∧
      Pending [b] count (c.toNat / 64 ^ (count + 1)) low high ∧
      low ≤ tailByte (c.toNat / 64 ^ count) ∧ tailByte (c.toNat / 64 ^ count) ≤ high := by
  obtain ⟨count, mark, first, last, w, lower, upper⟩ := exists_width h
  obtain ⟨low, high, hlead, least, most⟩ := lead_of_width w c.valid lower upper
  obtain ⟨less, rfl, p⟩ := pending_of_lead hlead
  exact ⟨_, less, low, high, encodeChar_of_width w lower upper, p, least, most⟩

theorem decode_encodeChar_append (c : Char) (rest : List UInt8) :
    decode (String.utf8EncodeChar c ++ rest) = c :: decode rest := by
  by_cases ascii : c.toNat < 0x80
  · have byte : (UInt8.ofNat c.toNat).toNat = c.toNat := by
      rw [UInt8.toNat_ofNat', Nat.mod_eq_of_lt (by omega)]
    have first : UInt8.ofNat c.toNat < 0x80 := by
      rw [UInt8.lt_iff_toNat_lt, byte]
      exact ascii
    rw [encodeChar_of_lt ascii, List.singleton_append, decode_cons_of_lt first, byte,
      Char.ofNat_toNat]
  · obtain ⟨b, count, low, high, bytes, p, lower, upper⟩ := exists_pending (Nat.le_of_not_lt ascii)
    have whole := p.decode_tail lower upper rest
    rw [Char.ofNat_toNat] at whole
    rwa [bytes, List.cons_append]

theorem decode_encode (t : Text) : decode (encode t) = t := by
  induction t with
  | nil => rfl
  | cons c t ih => rw [encode, List.flatMap_cons, decode_encodeChar_append, ← encode, ih]

end Lockstep.Text
