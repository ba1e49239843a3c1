import Lockstep.Proofs.Configuration.Padding
import Lockstep.Proofs.Trace.Canonical
import Lockstep.Proofs.Trace.Listing

set_option autoImplicit false
set_option relaxedAutoImplicit false

/-!
The normal form of a dump. Every record is written on a line of its own, with its key as it is shown,
a colon, a blank and its text; from these lines the same records are read again, in the same order and
numbered without gaps.
-/

namespace Lockstep

/-- A record as a line of a dump: its key as it is shown, a colon, a blank and its text. -/
def Record.dumpLine (r : Record) : Text :=
  r.key.display ++ ':' :: ' ' :: r.text

namespace Extractor

/-- The normal form of a dump: its records, each on a line of its own. -/
def dumpForm (e : Extractor) (lines : List Text) : List Text :=
  (e.records lines).map Record.dumpLine

/-- Lines are excluded by their payload alone when the text that excludes them begins with a character
that neither an address nor a colon has. -/
def ExcludesByPayload (excluded : Option Text) : Prop :=
  ∀ marker ∈ excluded, ∃ c letters, marker = c :: letters ∧ Text.isForeign c = true ∧ c ≠ ':'

section

variable {excluded : Option Text} {line text : Text} {key : Key}

theorem isExcluded_of_isInfix {part : Text} (included : isExcluded excluded line = false)
    (stretch : part <:+: line) : isExcluded excluded part = false := by
  cases excluded with
  | none => rfl
  | some marker =>
    rw [isExcluded, ← Bool.not_eq_true, Text.occursIn_iff_isInfix] at included ⊢
    exact fun occurs => included (occurs.trans stretch)

theorem ExcludesByPayload.isExcluded_append (h : ExcludesByPayload excluded) {front : Text}
    (clear : ∀ c ∈ front, Text.isForeign c = true → c = ':') (payload : Text) :
    isExcluded excluded (front ++ payload) = isExcluded excluded payload := by
  cases excluded with
  | none => rfl
  | some marker =>
    obtain ⟨c, letters, rfl, foreign, other⟩ := h marker rfl
    have absent : c ∉ front := fun member => other (clear c member foreign)
    rw [Bool.eq_iff_iff, isExcluded, isExcluded, Text.occursIn_iff_isInfix,
      Text.occursIn_iff_isInfix, Text.cons_infix_append_iff absent]

theorem ExcludesByPayload.isExcluded_dumpLine (h : ExcludesByPayload excluded) {r : Record} {n : Nat}
    (shown : r.key.display.Denotes n) :
    isExcluded excluded r.dumpLine = isExcluded excluded r.text := by
  have clear : ∀ c ∈ r.key.display ++ [':', ' '], Text.isForeign c = true → c = ':' := by
    intro c member foreign
    rcases List.mem_append.mp member with inKey | behind
    · exact absurd inKey (shown.not_mem foreign)
    · simp only [List.mem_cons, List.not_mem_nil, or_false] at behind
      rcases behind with colon | rfl
      · exact colon
      · exact absurd foreign (by decide)
  have front := h.isExcluded_append clear r.text
  rw [List.append_assoc] at front
  exact front

theorem extract?_dumpLine (h : ExcludesByPayload excluded)
    (extracted : (addressed excluded).extract? line = some (key, text)) (number : Nat) :
    (addressed excluded).extract? (Record.mk number key text).dumpLine = some (key, text) := by
  have builtIn : (addressed excluded).IsBuiltIn := trivial
  have stretch : text <:+: line := builtIn.text_isInfix extracted
  obtain ⟨included, address, rest, rfl, -, parsed, rfl⟩ :=
    extract?_addressed_eq_some_iff.mp extracted
  obtain ⟨n, denotes, rfl⟩ := Key.parse?_eq_some_iff.mp parsed
  have shown : (Key.ofNumber n).display.Denotes n := Key.denotes_of_mem_forms n (by simp)
  have kept : isExcluded excluded (Text.trim rest) = false := isExcluded_of_isInfix included stretch
  rw [← h.isExcluded_dumpLine (r := ⟨number, Key.ofNumber n, Text.trim rest⟩) shown] at kept
  have absent : ':' ∉ (Key.ofNumber n).display := shown.not_mem (by decide)
  have payload : Text.trim (' ' :: Text.trim rest) = Text.trim rest := by
    rw [Text.trim_cons_of_blank (by decide), Text.trim_trim]
  exact extract?_addressed_eq_some_iff.mpr ⟨kept, (Key.ofNumber n).display,
    ' ' :: Text.trim rest, rfl, absent, Key.parse?_of_denotes shown, payload⟩

theorem dumpLine_unbroken (unbroken : '\n' ∉ line)
    (extracted : (addressed excluded).extract? line = some (key, text)) (number : Nat) :
    '\n' ∉ (Record.mk number key text).dumpLine := by
  have builtIn : (addressed excluded).IsBuiltIn := trivial
  have canonical := builtIn.canonical extracted
  have stretch := builtIn.text_isInfix extracted
  have inKey : '\n' ∉ key.digits := by
    intro member
    exact absurd (canonical.lower _ member) (by decide)
  have inText : '\n' ∉ text := fun member => unbroken (stretch.subset member)
  simp [Record.dumpLine, Key.display, inKey, inText]

end

theorem recordsFrom_dumpLines {e : Extractor} {records : List Record}
    (carried : ∀ r ∈ records, e.extract? r.dumpLine = some (r.key, r.text)) (start : Nat) :
    e.recordsFrom start (records.map Record.dumpLine) =
      records.mapIdx fun i r => { r with line := start + i } := by
  induction records generalizing start with
  | nil => rfl
  | cons r records ih =>
    have first : e.record? start r.dumpLine = some { r with line := start } := by
      rw [record?, carried r List.mem_cons_self]
      rfl
    have others := ih (fun r' member => carried r' (List.mem_cons_of_mem r member)) (start + 1)
    rw [List.map_cons, recordsFrom_cons, first, others, List.mapIdx_cons]
    simp only [Option.toList_some, List.singleton_append, Nat.add_zero, Nat.add_assoc,
      Nat.add_comm 1]

theorem records_dumpForm {excluded : Option Text} (h : ExcludesByPayload excluded)
    (lines : List Text) :
    (addressed excluded).records ((addressed excluded).dumpForm lines) =
      ((addressed excluded).records lines).mapIdx fun i r => { r with line := i } := by
  have carried : ∀ r ∈ (addressed excluded).records lines,
      (addressed excluded).extract? r.dumpLine = some (r.key, r.text) := by
    intro r member
    obtain ⟨line, -, extracted⟩ := mem_records.mp member
    exact extract?_dumpLine h extracted r.line
  have numbered := recordsFrom_dumpLines carried 0
  simp only [Nat.zero_add] at numbered
  exact numbered

theorem map_mapIdx_line {α : Type} {f : Record → α}
    (unlined : ∀ (r : Record) (i : Nat), f { r with line := i } = f r) (records : List Record) :
    (records.mapIdx fun i r => { r with line := i }).map f = records.map f := by
  apply List.ext_getElem?
  intro i
  rw [List.getElem?_map, List.getElem?_mapIdx, List.getElem?_map, Option.map_map]
  congr 1
  funext r
  exact unlined r i

theorem dumpForm_dumpForm {excluded : Option Text} (h : ExcludesByPayload excluded)
    (lines : List Text) :
    (addressed excluded).dumpForm ((addressed excluded).dumpForm lines) =
      (addressed excluded).dumpForm lines := by
  rw [dumpForm, records_dumpForm h, map_mapIdx_line (fun _ _ => rfl), ← dumpForm]

theorem dumpForm_unbroken {excluded : Option Text} {lines : List Text}
    (unbroken : ∀ line ∈ lines, '\n' ∉ line) :
    ∀ line ∈ (addressed excluded).dumpForm lines, '\n' ∉ line := by
  intro _ written
  obtain ⟨r, member, rfl⟩ := List.mem_map.mp written
  obtain ⟨line, found, extracted⟩ := mem_records.mp member
  exact dumpLine_unbroken (unbroken line (List.mem_of_getElem? found)) extracted r.line

end Extractor

end Lockstep

/-!
Runs on dumps in normal form. A run takes nothing from a dump but its records, so that the normal form
gives the same result as the dump itself, be it a fault or an outcome, up to the line numbers of the
candidate's records.
-/

namespace Lockstep.Configuration

open Extractor

theorem run_dumpForm {config : Configuration} {excluded : Option Text}
    (addresses : config.candidate = .addressed excluded) (h : ExcludesByPayload excluded)
    (reference candidate : TraceFile) :
    (config.run reference
        { candidate with lines := config.candidate.dumpForm candidate.lines }).map
          (Outcome.relabel .unnumberedCandidate) =
      (config.run reference candidate).map (Outcome.relabel .unnumberedCandidate) := by
  have records : (config.candidate.records (config.candidate.dumpForm candidate.lines)).map
      Record.unnumbered = (config.candidate.records candidate.lines).map Record.unnumbered := by
    rw [addresses, records_dumpForm h, map_mapIdx_line (fun _ _ => rfl)]
  exact run_relabel_congr config .unnumberedCandidate ⟨rfl, rfl⟩ rfl records fun _ _ => rfl

theorem excludesByPayload_none : ExcludesByPayload none := nofun

theorem excludesByPayload_timestamp : ExcludesByPayload (some timestampMarker) := by
  rintro _ ⟨⟩
  exact ⟨'t', "imestamp".toList, rfl, by decide, by decide⟩

/-- A dump has a normal form: the lines on which its records are written, from which the same records
are read again and numbered from zero on. They are lines if those of the dump are, and their own normal
form; and no comparison with a list of addresses or with a commit log tells them from the dump. -/
theorem dumpForm_faithful (reference candidate : TraceFile) :
    (∀ excluded ∈ [none, some timestampMarker], ∀ lines,
      (addressed excluded).records ((addressed excluded).dumpForm lines) =
          ((addressed excluded).records lines).mapIdx (fun i r => { r with line := i }) ∧
        (addressed excluded).dumpForm ((addressed excluded).dumpForm lines) =
          (addressed excluded).dumpForm lines ∧
        ((∀ line ∈ lines, '\n' ∉ line) →
          ∀ line ∈ (addressed excluded).dumpForm lines, '\n' ∉ line)) ∧
    (spike.run reference
        { candidate with lines := spike.candidate.dumpForm candidate.lines }).map
          (Outcome.relabel .unnumberedCandidate) =
      (spike.run reference candidate).map (Outcome.relabel .unnumberedCandidate) ∧
    ∀ distance, ((verilator distance).run reference
        { candidate with lines := (verilator distance).candidate.dumpForm candidate.lines }).map
          (Outcome.relabel .unnumberedCandidate) =
      ((verilator distance).run reference candidate).map
        (Outcome.relabel .unnumberedCandidate) := by
  refine ⟨?_, ?_, ?_⟩
  · intro excluded known lines
    have h : ExcludesByPayload excluded := by
      simp only [List.mem_cons, List.not_mem_nil, or_false] at known
      rcases known with rfl | rfl
      · exact excludesByPayload_none
      · exact excludesByPayload_timestamp
    exact ⟨records_dumpForm h lines, dumpForm_dumpForm h lines, dumpForm_unbroken⟩
  · exact run_dumpForm rfl excludesByPayload_none reference candidate
  · intro distance
    exact run_dumpForm rfl excludesByPayload_timestamp reference candidate

theorem dumpForm_faithful_oddLines :
    ∃ lines written,
      lines = ["timestamp: 7", "0X0010:\ta:b : c ", "v1: x", "18:", ": 4"].map String.toList ∧
      written = ["0x10: a:b : c", "0x18: "].map String.toList ∧
      (∀ line ∈ lines, '\n' ∉ line) ∧ (∀ line ∈ written, '\n' ∉ line) ∧
      (addressed (some timestampMarker)).dumpForm lines = written ∧
      (addressed (some timestampMarker)).records written =
        [⟨0, ⟨['1', '0']⟩, "a:b : c".toList⟩, ⟨1, ⟨['1', '8']⟩, []⟩] ∧
      ((verilator none).run partedLog { partedDump with lines := written }).map
          (Outcome.relabel .unnumberedCandidate) =
        ((verilator none).run partedLog { partedDump with lines }).map
          (Outcome.relabel .unnumberedCandidate) := by
  refine ⟨_, _, rfl, rfl, ?_⟩
  have unbroken : ∀ line ∈ ["timestamp: 7", "0X0010:\ta:b : c ", "v1: x", "18:", ": 4"].map
      String.toList, '\n' ∉ line := by decide
  obtain ⟨faithful, -, runs⟩ := dumpForm_faithful partedLog { partedDump with
    lines := ["timestamp: 7", "0X0010:\ta:b : c ", "v1: x", "18:", ": 4"].map String.toList }
  obtain ⟨same, -, kept⟩ := faithful (some timestampMarker) (by simp) _
  exact ⟨unbroken, kept unbroken, rfl, same, runs none⟩

end Lockstep.Configuration
