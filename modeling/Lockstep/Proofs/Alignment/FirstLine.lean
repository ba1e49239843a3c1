import Lockstep.Configuration
import Lockstep.Proofs.Text.Search

set_option autoImplicit false
set_option relaxedAutoImplicit false

/-!
Lines that an alignment looks for. The start marker and the target of a search are found at the
first line that has them, wherever that is and however far the trace goes on behind it; a distance
leads to the line that whole numbers give, as long as it lies within the trace.
-/

namespace Lockstep

/-- Line `j` is the first at or after `start` of which `p` holds. -/
structure IsFirstLine (lines : List Text) (start : Nat) (p : Text → Prop) (j : Nat) : Prop where
  start_le : start ≤ j
  holds : ∃ line, lines[j]? = some line ∧ p line
  before : ∀ i line, start ≤ i → i < j → lines[i]? = some line → ¬p line

theorem IsFirstLine.lt_length {lines : List Text} {start j : Nat} {p : Text → Prop}
    (h : IsFirstLine lines start p j) : j < lines.length := by
  obtain ⟨line, found, -⟩ := h.holds
  exact (List.getElem?_eq_some_iff.mp found).1

theorem findIdx?_drop_eq_some_iff {lines : List Text} {start j : Nat} {p : Text → Prop}
    {q : Text → Bool} (hq : ∀ line, q line = true ↔ p line) :
    ((lines.drop start).findIdx? q).map (· + start) = some j ↔ IsFirstLine lines start p j := by
  simp only [Option.map_eq_some_iff, List.findIdx?_eq_some_iff_getElem, List.length_drop,
    List.getElem_drop]
  constructor
  · rintro ⟨i, ⟨hi, found, before⟩, rfl⟩
    refine ⟨Nat.le_add_left _ _, ⟨lines[i + start], List.getElem?_eq_getElem (by omega), ?_⟩, ?_⟩
    · rw [← hq]
      simpa only [Nat.add_comm start] using found
    · intro k line hs hk hline holds
      obtain ⟨hlt, rfl⟩ := List.getElem?_eq_some_iff.mp hline
      refine before (k - start) (by omega) ?_
      rw [hq]
      simpa only [Nat.add_sub_cancel' hs] using holds
  · rintro ⟨hs, ⟨line, hline, holds⟩, before⟩
    obtain ⟨hlt, rfl⟩ := List.getElem?_eq_some_iff.mp hline
    refine ⟨j - start, ⟨by omega, ?_, ?_⟩, by omega⟩
    · rw [hq]
      simpa only [Nat.add_sub_cancel' hs] using holds
    · intro k hk found
      rw [hq] at found
      exact before (start + k) _ (by omega) (by omega) (List.getElem?_eq_getElem (by omega)) found

theorem findIdx?_drop_eq_none_iff {lines : List Text} {start : Nat} {p : Text → Prop}
    {q : Text → Bool} (hq : ∀ line, q line = true ↔ p line) :
    ((lines.drop start).findIdx? q).map (· + start) = none ↔
      ∀ i line, start ≤ i → lines[i]? = some line → ¬p line := by
  rw [Option.map_eq_none_iff, List.findIdx?_eq_none_iff]
  constructor
  · intro absent i line hs hline holds
    have member : line ∈ lines.drop start := by
      refine List.mem_of_getElem? (i := i - start) ?_
      rw [List.getElem?_drop, Nat.add_sub_cancel' hs, hline]
    rw [← hq, absent line member] at holds
    cases holds
  · intro absent line member
    obtain ⟨i, hline⟩ := List.getElem?_of_mem member
    rw [List.getElem?_drop] at hline
    rw [← Bool.not_eq_true, hq]
    exact absent (start + i) line (Nat.le_add_right start i) hline

namespace Alignment

theorem markerLine?_eq_some_iff {marker : Text} {lines : List Text} {j : Nat} :
    markerLine? marker lines = some j ↔ IsFirstLine lines 0 (marker <:+: ·) j := by
  rw [← findIdx?_drop_eq_some_iff (Text.occursIn_iff_isInfix marker)]
  simp [markerLine?]

theorem markerLine?_eq_none_iff {marker : Text} {lines : List Text} :
    markerLine? marker lines = none ↔ ∀ line ∈ lines, ¬marker <:+: line := by
  rw [markerLine?, List.findIdx?_eq_none_iff]
  simp only [← Bool.not_eq_true, Text.occursIn_iff_isInfix]

theorem markerLine?_append {marker : Text} {lines : List Text} {j : Nat}
    (h : markerLine? marker lines = some j) (more : List Text) :
    markerLine? marker (lines ++ more) = some j := by
  rw [markerLine?] at h
  rw [markerLine?, List.findIdx?_append, h, Option.some_or]

theorem markerLine?_preamble {marker : Text} {preamble : List Text}
    (absent : ∀ line ∈ preamble, ¬marker <:+: line) (lines : List Text) :
    markerLine? marker (preamble ++ lines) =
      (markerLine? marker lines).map (· + preamble.length) := by
  have nowhere : preamble.findIdx? (Text.occursIn marker) = none :=
    markerLine?_eq_none_iff.mpr absent
  rw [markerLine?, List.findIdx?_append, nowhere, Option.none_or, markerLine?]

theorem carries_iff {e : Extractor} {rule : MatchRule} {target : Key} {line : Text} :
    carries e rule target line = true ↔
      ∃ key text, e.extract? line = some (key, text) ∧ rule.admits key target = true := by
  simp [carries, Option.any_eq_true]

theorem searchTarget?_eq_some_iff {lines : List Text} {start j : Nat} {e : Extractor}
    {target : Key} {rule : MatchRule} :
    searchTarget? lines start e target rule = some j ↔
      IsFirstLine lines start (fun line => carries e rule target line = true) j :=
  findIdx?_drop_eq_some_iff fun _ => Iff.rfl

theorem searchTarget?_eq_none_iff {lines : List Text} {start : Nat} {e : Extractor}
    {target : Key} {rule : MatchRule} :
    searchTarget? lines start e target rule = none ↔
      ∀ i line, start ≤ i → lines[i]? = some line → ¬carries e rule target line = true :=
  findIdx?_drop_eq_none_iff fun _ => Iff.rfl

theorem searchTarget?_append {lines : List Text} {start j : Nat} {e : Extractor} {target : Key}
    {rule : MatchRule} (h : searchTarget? lines start e target rule = some j) (more : List Text) :
    searchTarget? (lines ++ more) start e target rule = some j := by
  rw [searchTarget?, Option.map_eq_some_iff] at h
  obtain ⟨i, found, rfl⟩ := h
  rw [searchTarget?, List.drop_append, List.findIdx?_append, found, Option.some_or, Option.map_some]

theorem searchTarget?_preamble (preamble lines : List Text) (start : Nat) (e : Extractor)
    (target : Key) (rule : MatchRule) :
    searchTarget? (preamble ++ lines) (start + preamble.length) e target rule =
      (searchTarget? lines start e target rule).map (· + preamble.length) := by
  have behind : (preamble ++ lines).drop (start + preamble.length) = lines.drop start := by
    rw [Nat.add_comm, List.drop_length_add_append]
  simp only [searchTarget?, behind, Option.map_map, Function.comp_def, Nat.add_assoc]

/-- A distance leads to the line that the reckoning in whole numbers gives, provided that the line
lies within the reference or just after it and that start and line fit a word. -/
theorem offsetStart_eq_ok_iff {start lines line : Nat} {distance : Int} :
    offsetStart start distance lines = .ok line ↔
      start ≤ wordLimit ∧ line < wordLimit ∧ line ≤ lines ∧
        (start : Int) + distance - 1 = line := by
  simp only [offsetStart]
  split
  · rename_i inside
    rw [Except.ok.injEq]
    omega
  · rename_i outside
    simp only [reduceCtorEq, false_iff]
    omega

theorem offsetStart_eq_error_iff_forall_ne {start lines : Nat} {distance : Int} {fault : Fault} :
    offsetStart start distance lines = .error fault ↔
      (∀ line, offsetStart start distance lines ≠ .ok line) ∧
        fault = .offsetOutOfRange distance start lines := by
  simp only [offsetStart]
  split
  · simp
  · simp [eq_comm]

/-- In a reference whose lines can be numbered by words, a distance is refused exactly when the line
that it leads to, in whole numbers, lies outside the reference. -/
theorem offsetStart_eq_error_iff {start lines : Nat} {distance : Int} {fault : Fault}
    (bound : start ≤ wordLimit) (short : lines < wordLimit) :
    offsetStart start distance lines = .error fault ↔
      ¬(0 ≤ start + distance - 1 ∧ start + distance - 1 ≤ lines) ∧
        fault = .offsetOutOfRange distance start lines := by
  rw [offsetStart_eq_error_iff_forall_ne, and_congr_left_iff]
  rintro -
  simp only [Ne, offsetStart_eq_ok_iff]
  constructor
  · rintro unreached ⟨nonneg, within⟩
    refine unreached (start + distance - 1).toNat ⟨bound, ?_, ?_, ?_⟩ <;> omega
  · rintro outside line ⟨-, -, within, reckoned⟩
    omega

theorem offsetStart_mono {start lines lines' line : Nat} {distance : Int} (hl : lines ≤ lines')
    (h : offsetStart start distance lines = .ok line) :
    offsetStart start distance lines' = .ok line := by
  obtain ⟨hs, hw, within, reckoned⟩ := offsetStart_eq_ok_iff.mp h
  exact offsetStart_eq_ok_iff.mpr ⟨hs, hw, Nat.le_trans within hl, reckoned⟩

theorem offsetStart_add {start lines line : Nat} {distance : Int} (n : Nat)
    (h : offsetStart start distance lines = .ok line) (within : start ≤ lines)
    (short : n + lines < wordLimit) :
    offsetStart (start + n) distance (n + lines) = .ok (line + n) := by
  obtain ⟨-, -, inside, reckoned⟩ := offsetStart_eq_ok_iff.mp h
  rw [offsetStart_eq_ok_iff]
  omega

end Alignment

end Lockstep
