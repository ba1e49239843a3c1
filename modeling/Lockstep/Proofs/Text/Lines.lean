import Lockstep.Proofs.Text.Lossy
import Lockstep.Text.Basic
import Mathlib.Data.List.DropRight

set_option autoImplicit false
set_option relaxedAutoImplicit false

/-!
Lines before and after decoding. A line is decoded from its own bytes only, yet the lines of a file are
those of its decoded text: line ends stand apart from any bytes that make no character.
-/

namespace Lockstep.Text

/-- What stands between the line feeds of a text, and behind the last one if anything does. -/
def segments (t : Text) : List Text :=
  if (t.splitOn '\n').getLast? = some [] then (t.splitOn '\n').dropLast else t.splitOn '\n'

def breakLines (t : Text) : List Text :=
  (segments t).map fun line => line.rdropWhile (· = '\r')

/-- A property of all bytes is one of no bytes, of a last line that nothing ends, and of a line with its
end before bytes that have the property. -/
@[elab_as_elim]
theorem line_induction {motive : List UInt8 → Prop} (nil : motive [])
    (last : ∀ a, a ≠ [] → lineFeed ∉ a → motive a)
    (line : ∀ a b, lineFeed ∉ a → motive b → motive (a ++ lineFeed :: b)) (bytes : List UInt8) :
    motive bytes := by
  induction size : bytes.length using Nat.strong_induction_on generalizing bytes with
  | h n ih =>
    subst size
    by_cases ended : lineFeed ∈ bytes
    · obtain ⟨a, b, rfl, first⟩ := List.eq_append_cons_of_mem ended
      have shorter : b.length < (a ++ lineFeed :: b).length := by
        rw [List.length_append, List.length_cons]
        omega
      exact line a b first (ih _ shorter b rfl)
    · by_cases empty : bytes = []
      · rw [empty]
        exact nil
      · exact last bytes empty ended

theorem pieces_cons (x : UInt8) (bytes : List UInt8) :
    pieces (x :: bytes) = putByte x (pieces bytes) := rfl

theorem pieces_append_lineFeed {a : List UInt8} (absent : lineFeed ∉ a) (b : List UInt8) :
    pieces (a ++ lineFeed :: b) = (a ++ [lineFeed]) :: pieces b := by
  induction a with
  | nil =>
    rw [List.nil_append, pieces_cons]
    cases pieces b <;> rfl
  | cons x a ih =>
    have other : x ≠ lineFeed := (List.ne_of_not_mem_cons absent).symm
    rw [List.cons_append, pieces_cons, ih (List.not_mem_of_not_mem_cons absent), putByte,
      if_neg other, List.cons_append]

theorem pieces_of_not_mem {a : List UInt8} (nonempty : a ≠ []) (absent : lineFeed ∉ a) :
    pieces a = [a] := by
  induction a with
  | nil => exact absurd rfl nonempty
  | cons x a ih =>
    have other : x ≠ lineFeed := (List.ne_of_not_mem_cons absent).symm
    rw [pieces_cons]
    cases a with
    | nil => rfl
    | cons y a =>
      rw [ih (List.cons_ne_nil y a) (List.not_mem_of_not_mem_cons absent), putByte, if_neg other]

theorem dropLineEnd_append_lineFeed (a : List UInt8) :
    dropLineEnd (a ++ [lineFeed]) = dropLineEnd a := by
  have ended : (decide (lineFeed = lineFeed) || decide (lineFeed = carriageReturn)) = true := rfl
  exact List.rdropWhile_concat_pos _ _ _ ended

theorem lines_append_lineFeed {a : List UInt8} (absent : lineFeed ∉ a) (b : List UInt8) :
    lines (a ++ lineFeed :: b) = decode (dropLineEnd a) :: lines b := by
  rw [lines, pieces_append_lineFeed absent, List.map_cons, dropLineEnd_append_lineFeed, lines]

theorem lines_of_not_mem {a : List UInt8} (nonempty : a ≠ []) (absent : lineFeed ∉ a) :
    lines a = [decode (dropLineEnd a)] := by
  rw [lines, pieces_of_not_mem nonempty absent]
  rfl

theorem segments_append_lineFeed {s : Text} (absent : '\n' ∉ s) (t : Text) :
    segments (s ++ '\n' :: t) = s :: segments t := by
  have nonempty := List.splitOn_ne_nil '\n' t
  rw [segments, List.splitOn_append_cons_self_of_not_mem absent t,
    List.getLast?_cons_of_ne_nil nonempty, List.dropLast_cons_of_ne_nil nonempty, segments]
  split <;> rfl

theorem segments_of_not_mem {s : Text} (nonempty : s ≠ []) (absent : '\n' ∉ s) :
    segments s = [s] := by
  have last : ¬[s].getLast? = some [] := by simpa using nonempty
  rw [segments, List.splitOn_eq_singleton absent, if_neg last]

theorem segments_flatMap {lines : List Text} (unbroken : ∀ line ∈ lines, '\n' ∉ line) :
    segments (lines.flatMap fun line => line ++ ['\n']) = lines := by
  induction lines with
  | nil => rfl
  | cons line lines ih =>
    have first := unbroken line List.mem_cons_self
    have others := ih fun line' member => unbroken line' (List.mem_cons_of_mem line member)
    rw [List.flatMap_cons, List.append_assoc, List.singleton_append,
      segments_append_lineFeed first, others]

theorem count_flatMap {lines : List Text} (unbroken : ∀ line ∈ lines, '\n' ∉ line) :
    (lines.flatMap fun line => line ++ ['\n']).count '\n' = lines.length := by
  induction lines with
  | nil => rfl
  | cons line lines ih =>
    have first := List.count_eq_zero_of_not_mem (unbroken line List.mem_cons_self)
    have others := ih fun line' member => unbroken line' (List.mem_cons_of_mem line member)
    rw [List.flatMap_cons, List.count_append, others, List.count_append, first, List.length_cons,
      List.count_singleton_self]
    omega

theorem lineFeed_mem_decode_iff (bytes : List UInt8) : '\n' ∈ decode bytes ↔ lineFeed ∈ bytes := by
  constructor
  · intro h
    obtain ⟨s, t, split⟩ := List.append_of_mem h
    obtain ⟨a, b, rfl, -⟩ := exists_of_decode_eq split (by decide)
    exact List.mem_append_right a List.mem_cons_self
  · intro h
    obtain ⟨a, b, rfl⟩ := List.append_of_mem h
    rw [decode_append_cons (by decide)]
    exact List.mem_append_right _ List.mem_cons_self

/-- Carriage returns at the end of a line are dropped alike from its bytes and from its text: bytes
that make no character neither hide one nor yield one. -/
theorem decode_dropLineEnd {a : List UInt8} (absent : lineFeed ∉ a) :
    decode (dropLineEnd a) = (decode a).rdropWhile (· = '\r') := by
  induction a using List.reverseRecOn with
  | nil => rfl
  | append_singleton a x ih =>
    have inside : x ≠ lineFeed := by
      rintro rfl
      exact absent (List.mem_append_right a List.mem_cons_self)
    by_cases returns : x = carriageReturn
    · have dropped : dropLineEnd (a ++ [x]) = dropLineEnd a :=
        List.rdropWhile_concat_pos _ _ _ (by simp [returns])
      have ends : decode (a ++ [x]) = decode a ++ ['\r'] := by
        rw [returns, decode_append_cons (by decide)]
        rfl
      have before : lineFeed ∉ a := fun h => absent (List.mem_append_left _ h)
      rw [dropped, ends, List.rdropWhile_concat_pos _ _ _ rfl, ih before]
    · have kept : dropLineEnd (a ++ [x]) = a ++ [x] :=
        List.rdropWhile_concat_neg _ _ _ (by simp [returns, inside])
      rw [kept]
      symm
      rw [List.rdropWhile_eq_self_iff]
      intro nonempty last
      have split := List.dropLast_append_getLast nonempty
      rw [of_decide_eq_true last] at split
      obtain ⟨b, after, bytes, nothing⟩ := exists_of_decode_eq split.symm (by decide)
      rw [(decode_eq_nil_iff after).mp nothing] at bytes
      have ends : [x] = [UInt8.ofNat '\r'.toNat] := List.append_inj_right' bytes rfl
      exact returns (List.cons.inj ends).1

theorem lines_eq_breakLines_decode (bytes : List UInt8) :
    lines bytes = breakLines (decode bytes) := by
  induction bytes using line_induction with
  | nil => rfl
  | last a nonempty absent =>
    have text := mt (decode_eq_nil_iff a).mp nonempty
    have inside := mt (lineFeed_mem_decode_iff a).mp absent
    rw [lines_of_not_mem nonempty absent, breakLines, segments_of_not_mem text inside,
      decode_dropLineEnd absent]
    rfl
  | line a b absent ih =>
    have inside := mt (lineFeed_mem_decode_iff a).mp absent
    have split : decode (a ++ lineFeed :: b) = decode a ++ '\n' :: decode b :=
      decode_append_cons (by decide) a b
    rw [lines_append_lineFeed absent, split, breakLines, segments_append_lineFeed inside,
      List.map_cons, ← breakLines, decode_dropLineEnd absent, ih]

theorem not_mem_decode_dropLineEnd {a : List UInt8} (absent : lineFeed ∉ a) :
    '\n' ∉ decode (dropLineEnd a) := by
  intro member
  have kept : lineFeed ∈ dropLineEnd a := (lineFeed_mem_decode_iff _).mp member
  exact absent ((List.rdropWhile_prefix _ a).subset kept)

theorem exists_of_mem_lines {bytes : List UInt8} :
    ∀ line ∈ lines bytes, ∃ a, lineFeed ∉ a ∧ decode (dropLineEnd a) = line := by
  induction bytes using line_induction with
  | nil => exact nofun
  | last a nonempty absent =>
    rw [lines_of_not_mem nonempty absent, List.forall_mem_singleton]
    exact ⟨a, absent, rfl⟩
  | line a b absent ih =>
    rw [lines_append_lineFeed absent, List.forall_mem_cons]
    exact ⟨⟨a, absent, rfl⟩, ih⟩

theorem not_mem_of_mem_lines {bytes : List UInt8} : ∀ line ∈ lines bytes, '\n' ∉ line := by
  intro line member
  obtain ⟨a, absent, rfl⟩ := exists_of_mem_lines line member
  exact not_mem_decode_dropLineEnd absent

theorem lines_append (a b : List UInt8) :
    lines (a ++ lineFeed :: b) = lines (a ++ [lineFeed]) ++ lines b := by
  induction a using line_induction with
  | nil =>
    rw [lines_append_lineFeed List.not_mem_nil, lines_append_lineFeed List.not_mem_nil]
    rfl
  | last a nonempty absent =>
    rw [lines_append_lineFeed absent, lines_append_lineFeed absent]
    rfl
  | line a rest absent ih =>
    rw [List.append_assoc, List.append_assoc, List.cons_append, List.cons_append,
      lines_append_lineFeed absent, lines_append_lineFeed absent, ih, List.cons_append]

theorem length_lines (bytes : List UInt8) :
    (lines bytes).length = bytes.count lineFeed +
      if bytes = [] ∨ bytes.getLast? = some lineFeed then 0 else 1 := by
  induction bytes using line_induction with
  | nil => rfl
  | last a nonempty absent =>
    have unended : ¬(a = [] ∨ a.getLast? = some lineFeed) := by
      rintro (empty | ended)
      · exact nonempty empty
      · exact absent (List.mem_of_getLast? ended)
    rw [lines_of_not_mem nonempty absent, List.count_eq_zero_of_not_mem absent, if_neg unended]
    rfl
  | line a b absent ih =>
    have ends : (a ++ lineFeed :: b = [] ∨ (a ++ lineFeed :: b).getLast? = some lineFeed) ↔
        (b = [] ∨ b.getLast? = some lineFeed) := by
      cases b with
      | nil => simp
      | cons y b => simp
    rw [lines_append_lineFeed absent, List.length_cons, ih, List.count_append,
      List.count_eq_zero_of_not_mem absent, List.count_cons_self, if_congr ends rfl rfl]
    omega

/-- Reading the lines of a file and decoding it commute. The lines of any bytes are those of their
decoded text, encoded again or as it is, where decoding puts one replacement for each longest part of
the bytes that makes no character. Such parts never take a line feed, a carriage return or a byte
behind them with them: both are cut off from whatever surrounds them, each line is read from its own
bytes, and the line feeds alone give the number of lines. -/
theorem lines_encode_decode (bytes rest : List UInt8) :
    lines (encode (decode bytes)) = lines bytes ∧
      lines bytes = breakLines (decode bytes) ∧
      (∀ t, Lossy bytes t ↔ t = decode bytes) ∧
      decode (bytes ++ lineFeed :: rest) = decode bytes ++ '\n' :: decode rest ∧
      decode (bytes ++ carriageReturn :: rest) = decode bytes ++ '\r' :: decode rest ∧
      lines (bytes ++ lineFeed :: rest) = lines (bytes ++ [lineFeed]) ++ lines rest ∧
      (lines bytes).length = bytes.count lineFeed +
        if bytes = [] ∨ bytes.getLast? = some lineFeed then 0 else 1 := by
  have again : lines (encode (decode bytes)) = lines bytes := by
    rw [lines_eq_breakLines_decode, decode_encode, lines_eq_breakLines_decode]
  have feed := decode_append_cons (x := lineFeed) (by decide) bytes rest
  have returns := decode_append_cons (x := carriageReturn) (by decide) bytes rest
  exact ⟨again, lines_eq_breakLines_decode bytes, lossy_iff bytes, feed, returns,
    lines_append bytes rest, length_lines bytes⟩

example : lines [0x31, 0xE2, 0x82, 0x0D, 0x0A, 0xF0, 0x9F, 0x0A, 0xFF, 0x30] =
    ["1\ufffd".toList, "\ufffd".toList, "\ufffd0".toList] := by decide

/-!
Files written line by line. A line is written in UTF-8, with any number of carriage returns and a line
feed behind it; behind the last line the line feed may be left out, unless that line is empty. What is
read off such a file is what was written, however its lines are ended.
-/

/-- A text can stand on a line when it holds no line feed and has no carriage return at its end. -/
structure FitsLine (line : Text) : Prop where
  unbroken : '\n' ∉ line
  unreturned : line.getLast? ≠ some '\r'

/-- The bytes of a line before its line feed: the text in UTF-8, and carriage returns. -/
def lineBytes (line : Text) (returns : Nat) : List UInt8 :=
  encode line ++ List.replicate returns carriageReturn

/-- A file is written from lines when it holds the bytes of each, with a line feed behind them. The
line feed may be lacking behind a last line that is not empty. -/
inductive Written : List Text → List UInt8 → Prop
  | nil : Written [] []
  | unended {line : Text} (returns : Nat) : line ≠ [] → Written [line] (lineBytes line returns)
  | line (line : Text) (returns : Nat) {lines : List Text} {rest : List UInt8} :
      Written lines rest → Written (line :: lines) (lineBytes line returns ++ lineFeed :: rest)

theorem encode_append (s t : Text) : encode (s ++ t) = encode s ++ encode t :=
  List.flatMap_append

theorem encode_replicate_return (returns : Nat) :
    encode (List.replicate returns '\r') = List.replicate returns carriageReturn := by
  induction returns with
  | zero => rfl
  | succ returns ih =>
    have first : encode ['\r'] = [carriageReturn] := by decide
    rw [List.replicate_succ, List.replicate_succ, ← ih, ← List.singleton_append, encode_append,
      first, List.singleton_append]

theorem decode_lineBytes (line : Text) (returns : Nat) :
    decode (lineBytes line returns) = line ++ List.replicate returns '\r' := by
  rw [lineBytes, ← encode_replicate_return, ← encode_append, decode_encode]

theorem rdropWhile_append_replicate {line : Text} (unreturned : line.getLast? ≠ some '\r')
    (returns : Nat) :
    (line ++ List.replicate returns '\r').rdropWhile (· = '\r') = line := by
  induction returns with
  | zero =>
    rw [List.replicate_zero, List.append_nil, List.rdropWhile_eq_self_iff]
    intro nonempty last
    apply unreturned
    rw [List.getLast?_eq_getLast_of_ne_nil nonempty, of_decide_eq_true last]
  | succ returns ih =>
    rw [List.replicate_succ', ← List.append_assoc, List.rdropWhile_concat_pos _ _ _ (by rfl), ih]

theorem getLast?_rdropWhile_ne (t : Text) :
    (t.rdropWhile (· = '\r')).getLast? ≠ some '\r' := by
  intro last
  have nonempty : t.rdropWhile (· = '\r') ≠ [] := List.ne_nil_of_mem (List.mem_of_getLast? last)
  have kept := List.rdropWhile_last_not (· = '\r') t nonempty
  rw [List.getLast?_eq_getLast_of_ne_nil nonempty, Option.some.injEq] at last
  exact kept (decide_eq_true last)

theorem FitsLine.not_mem_lineBytes {line : Text} (h : FitsLine line) (returns : Nat) :
    lineFeed ∉ lineBytes line returns := by
  rw [← lineFeed_mem_decode_iff, decode_lineBytes, List.mem_append, not_or]
  refine ⟨h.unbroken, ?_⟩
  intro member
  exact absurd (List.eq_of_mem_replicate member) (by decide)

theorem FitsLine.decode_dropLineEnd {line : Text} (h : FitsLine line) (returns : Nat) :
    decode (dropLineEnd (lineBytes line returns)) = line := by
  rw [Text.decode_dropLineEnd (h.not_mem_lineBytes returns), decode_lineBytes,
    rdropWhile_append_replicate h.unreturned]

theorem lineBytes_ne_nil {line : Text} (nonempty : line ≠ []) (returns : Nat) :
    lineBytes line returns ≠ [] := by
  intro empty
  have nothing := decode_lineBytes line returns
  rw [empty] at nothing
  exact nonempty (List.append_eq_nil_iff.mp nothing.symm).1

theorem Written.lines_eq {ts : List Text} {bytes : List UInt8} (h : Written ts bytes)
    (fits : ∀ line ∈ ts, FitsLine line) : lines bytes = ts := by
  induction h with
  | nil => rfl
  | @unended line returns nonempty =>
    have own : FitsLine line := fits line List.mem_cons_self
    rw [lines_of_not_mem (lineBytes_ne_nil nonempty returns) (own.not_mem_lineBytes returns),
      own.decode_dropLineEnd]
  | @line line returns ts rest _ ih =>
    have own : FitsLine line := fits line List.mem_cons_self
    have others : lines rest = ts := ih fun other member => fits other (List.mem_cons_of_mem _ member)
    rw [lines_append_lineFeed (own.not_mem_lineBytes returns), own.decode_dropLineEnd, others]

theorem fitsLine_of_mem_lines {bytes : List UInt8} : ∀ line ∈ lines bytes, FitsLine line := by
  intro line member
  obtain ⟨a, absent, rfl⟩ := exists_of_mem_lines line member
  refine ⟨not_mem_decode_dropLineEnd absent, ?_⟩
  rw [Text.decode_dropLineEnd absent]
  exact getLast?_rdropWhile_ne (decode a)

/-- Reading lines undoes writing them, whatever the mix of their ends; what stands before a line feed
and what stands behind it are read apart; and every line that is read is one that can be written. -/
theorem lines_written :
    (∀ ts bytes, Written ts bytes → (∀ line ∈ ts, FitsLine line) → lines bytes = ts) ∧
      (∀ a b, lines (a ++ lineFeed :: b) = lines (a ++ [lineFeed]) ++ lines b) ∧
      ∀ bytes, ∀ line ∈ lines bytes, FitsLine line :=
  ⟨fun _ _ written fits => written.lines_eq fits, lines_append, fun _ => fitsLine_of_mem_lines⟩

theorem lines_written_mixedEnds :
    ∃ ts bytes, ts = ["", "a\rb", "é"].map String.toList ∧
      bytes = [0x0D, 0x0A, 0x61, 0x0D, 0x62, 0x0A, 0xC3, 0xA9, 0x0D, 0x0D] ∧
      Written ts bytes ∧ (∀ line ∈ ts, FitsLine line) ∧ lines bytes = ts := by
  have written : Written (["", "a\rb", "é"].map String.toList)
      [0x0D, 0x0A, 0x61, 0x0D, 0x62, 0x0A, 0xC3, 0xA9, 0x0D, 0x0D] :=
    .line "".toList 1 (.line "a\rb".toList 0 (.unended 2 (by decide)))
  have fits : ∀ line ∈ ["", "a\rb", "é"].map String.toList, FitsLine line := by
    simp only [List.map_cons, List.map_nil, List.forall_mem_cons, List.not_mem_nil]
    exact ⟨⟨by decide, by decide⟩, ⟨by decide, by decide⟩, ⟨by decide, by decide⟩, nofun⟩
  exact ⟨_, _, rfl, rfl, written, fits, lines_written.1 _ _ written fits⟩

end Lockstep.Text
