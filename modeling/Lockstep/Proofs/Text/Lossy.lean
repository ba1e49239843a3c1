import Lockstep.Proofs.Text.Utf8

set_option autoImplicit false
set_option relaxedAutoImplicit false

/-!
What decoding any bytes means: characters are read off their encodings, and where no character stands,
a replacement character takes the place of the longest bytes that could have begun one. Exactly one
text is read off any bytes in this way, and the decoder finds it.
-/

namespace Lockstep.Text

/-- At the start of `part ++ rest` stands no character, and `part` is the longest start of one there, or
a single byte when there is none. -/
structure MaximalSubpart (part rest : List UInt8) : Prop where
  unconvertible : ∀ c, ¬String.utf8EncodeChar c <+: part ++ rest
  nonempty : part ≠ []
  begins : Begins part ∨ part.length = 1
  longest : ∀ b after, rest = b :: after → ¬Begins (part ++ [b])

/-- The text that bytes stand for when what makes no character is replaced. -/
inductive Lossy : List UInt8 → Text → Prop
  | nil : Lossy [] []
  | char {bytes : List UInt8} {t : Text} (c : Char) (h : Lossy bytes t) :
      Lossy (String.utf8EncodeChar c ++ bytes) (c :: t)
  | subpart {part rest : List UInt8} {t : Text} (maximal : MaximalSubpart part rest)
      (h : Lossy rest t) : Lossy (part ++ rest) (replacement :: t)

theorem encodeChar_ofNat {b : UInt8} (h : b < 0x80) :
    String.utf8EncodeChar (Char.ofNat b.toNat) = [b] := by
  have small : b.toNat < 0x80 := UInt8.lt_iff_toNat_lt.mp h
  have number : (Char.ofNat b.toNat).toNat = b.toNat :=
    toNat_ofNat_of_isValidChar (Or.inl (by omega))
  rw [encodeChar_of_lt (by omega), number, UInt8.ofNat_toNat]

theorem decode_append_of_begins {part rest : List UInt8} (maximal : MaximalSubpart part rest)
    (h : Begins part) : decode (part ++ rest) = replacement :: decode rest := by
  obtain ⟨c, start⟩ := h
  have notWhole : part ≠ String.utf8EncodeChar c := by
    intro whole
    exact maximal.unconvertible c ⟨rest, by rw [whole]⟩
  have wide : 0x80 ≤ c.toNat := by
    by_contra ascii
    rw [encodeChar_of_lt (Nat.lt_of_not_le ascii)] at start notWhole
    have filled : 0 < part.length := List.length_pos_of_ne_nil maximal.nonempty
    exact notWhole (start.eq_of_length_le filled)
  obtain ⟨b, count, low, high, bytes, first, lower, upper⟩ := exists_pending wide
  rw [bytes] at start notWhole
  obtain ⟨more, rfl⟩ : ∃ more, part = b :: more := by
    cases part with
    | nil => exact absurd rfl maximal.nonempty
    | cons a more => exact ⟨more, by rw [(List.cons_prefix_cons.mp start).1]⟩
  have start := (List.cons_prefix_cons.mp start).2
  have short : more.length ≤ count := by
    by_contra long
    have size := length_tailBytes (count + 1) c.toNat
    have whole := start.eq_of_length_le (by omega)
    exact notWhole (by rw [whole])
  obtain ⟨_, _, _, _, p⟩ := first.of_prefix lower upper start short
  apply p.decode_stop
  intro b after behind ⟨least, most⟩
  exact maximal.longest b after behind (p.begins least most)

theorem decode_append_of_not_begins {part rest : List UInt8} (maximal : MaximalSubpart part rest)
    (h : ¬Begins part) : decode (part ++ rest) = replacement :: decode rest := by
  obtain ⟨b, rfl⟩ := List.length_eq_one_iff.mp (maximal.begins.resolve_left h)
  rcases lead_cases b with ⟨ascii, -⟩ | ⟨count, value, low, high, more⟩ | ⟨-, refused⟩
  · have whole := encodeChar_ofNat ascii
    exact absurd ⟨Char.ofNat b.toNat, [], by rw [whole, List.append_nil]⟩ h
  · obtain ⟨less, -, p⟩ := pending_of_lead more
    obtain ⟨c, start⟩ := p.begins (UInt8.le_refl low) p.bounds.2.1
    exact absurd ⟨c, (List.prefix_append _ _).trans start⟩ h
  · rw [List.singleton_append, decode_cons, refused]
    rfl

theorem MaximalSubpart.decode_append {part rest : List UInt8} (maximal : MaximalSubpart part rest) :
    decode (part ++ rest) = replacement :: decode rest := by
  by_cases h : Begins part
  · exact decode_append_of_begins maximal h
  · exact decode_append_of_not_begins maximal h

theorem Lossy.eq_decode {bytes : List UInt8} {t : Text} (h : Lossy bytes t) : t = decode bytes := by
  induction h with
  | nil => rfl
  | char c h ih => rw [decode_encodeChar_append, ih]
  | subpart maximal h ih => rw [maximal.decode_append, ih]

theorem exists_maximalSubpart {part rest : List UInt8}
    (unconvertible : ∀ c, ¬String.utf8EncodeChar c <+: part ++ rest) (nonempty : part ≠ [])
    (begins : Begins part ∨ part.length = 1) :
    ∃ more after, rest = more ++ after ∧ MaximalSubpart (part ++ more) after := by
  induction rest generalizing part with
  | nil =>
    refine ⟨[], [], rfl, ?_⟩
    rw [List.append_nil]
    exact ⟨unconvertible, nonempty, begins, by rintro b after ⟨⟩⟩
  | cons b rest ih =>
    by_cases longer : Begins (part ++ [b])
    · have regroup : part ++ b :: rest = part ++ [b] ++ rest := List.append_cons part b rest
      rw [regroup] at unconvertible
      obtain ⟨more, after, rfl, maximal⟩ := ih unconvertible (by simp) (.inl longer)
      refine ⟨b :: more, after, rfl, ?_⟩
      rwa [List.append_cons]
    · refine ⟨[], b :: rest, rfl, ?_⟩
      rw [List.append_nil]
      refine ⟨unconvertible, nonempty, begins, ?_⟩
      rintro _ _ ⟨⟩
      exact longer

theorem exists_lossy (bytes : List UInt8) : ∃ t, Lossy bytes t := by
  induction size : bytes.length using Nat.strong_induction_on generalizing bytes with
  | h n ih =>
    subst size
    cases bytes with
    | nil => exact ⟨[], .nil⟩
    | cons b rest =>
      by_cases convertible : ∃ c, String.utf8EncodeChar c <+: b :: rest
      · obtain ⟨c, after, whole⟩ := convertible
        have filled := List.length_pos_of_ne_nil (encodeChar_ne_nil c)
        have shorter : after.length < (b :: rest).length := by
          rw [← whole, List.length_append]
          omega
        obtain ⟨t, read⟩ := ih _ shorter after rfl
        exact ⟨c :: t, whole ▸ .char c read⟩
      · have unconvertible : ∀ c, ¬String.utf8EncodeChar c <+: [b] ++ rest :=
          not_exists.mp convertible
        have single : [b] ≠ [] := List.cons_ne_nil b []
        obtain ⟨more, after, rfl, maximal⟩ := exists_maximalSubpart unconvertible single (.inr rfl)
        have shorter : after.length < (b :: (more ++ after)).length := by
          rw [List.length_cons, List.length_append]
          omega
        obtain ⟨t, read⟩ := ih _ shorter after rfl
        exact ⟨replacement :: t, .subpart maximal read⟩

theorem lossy_iff (bytes : List UInt8) (t : Text) : Lossy bytes t ↔ t = decode bytes := by
  constructor
  · exact Lossy.eq_decode
  · rintro rfl
    obtain ⟨t, read⟩ := exists_lossy bytes
    exact read.eq_decode ▸ read

theorem decode_eq_nil_iff (bytes : List UInt8) : decode bytes = [] ↔ bytes = [] := by
  constructor
  · intro h
    have read : Lossy bytes [] := (lossy_iff bytes []).mpr h.symm
    cases read
    rfl
  · rintro rfl
    rfl

/-- A character below 0x80 in the decoded text is a byte of its own, and what comes behind it in the
text is decoded from what comes behind that byte. -/
theorem exists_of_decode_eq {bytes : List UInt8} {s t : Text} {c : Char}
    (h : decode bytes = s ++ c :: t) (ascii : c.toNat < 0x80) :
    ∃ a b, bytes = a ++ UInt8.ofNat c.toNat :: b ∧ decode b = t := by
  have read : Lossy bytes (s ++ c :: t) := (lossy_iff _ _).mpr h.symm
  clear h
  generalize whole : s ++ c :: t = u at read
  induction read generalizing s with
  | nil => cases s <;> cases whole
  | @char bytes u d read ih =>
    cases s with
    | nil =>
      obtain ⟨rfl, rfl⟩ := List.cons.inj whole
      exact ⟨[], bytes, by rw [encodeChar_of_lt ascii]; rfl, read.eq_decode.symm⟩
    | cons _ s =>
      obtain ⟨a, b, rfl, behind⟩ := ih (List.cons.inj whole).2
      exact ⟨String.utf8EncodeChar d ++ a, b, by rw [List.append_assoc], behind⟩
  | @subpart part rest u maximal read ih =>
    cases s with
    | nil =>
      have same : c = replacement := (List.cons.inj whole).1
      rw [same] at ascii
      exact absurd ascii (by decide)
    | cons _ s =>
      obtain ⟨a, b, rfl, behind⟩ := ih (List.cons.inj whole).2
      exact ⟨part ++ a, b, by rw [List.append_assoc], behind⟩

end Lockstep.Text
