import Lockstep.Proofs.Json.Rendering
import Lockstep.Proofs.Outcome.WellFormed
import Lockstep.Report

set_option autoImplicit false
set_option relaxedAutoImplicit false

/-!
JSON reports as programs read them. A reader that knows the names of the members, and not in which order
they are written, gets back all that the report says of an outcome: only which side drove the comparison
is not in it.
-/

namespace Lockstep

namespace Json.Value

/-- The values of an object's members in the order in which they are asked for by name, if the object has
these members and no others. -/
def fields? (names : List Text) : Value → Option (List Value)
  | .object members =>
    if members.length = names.length then names.mapM fun name => members.lookup name else none
  | _ => none

def natural? : Value → Option Nat
  | .number n => if n = n.num.toNat then some n.num.toNat else none
  | _ => none

def text? : Value → Option Text
  | .string t => some t
  | _ => none

def truth? : Value → Option Bool
  | .bool b => some b
  | _ => none

def optional? {α : Type} (read? : Value → Option α) : Value → Option (Option α)
  | .null => some none
  | v => (read? v).map some

@[simp]
theorem natural?_number (n : Nat) : natural? (.number n) = some n := by
  simp [natural?]

@[simp]
theorem text?_string (t : Text) : text? (.string t) = some t := rfl

end Json.Value

open Json (Value)

def Key.shown? : Text → Option Key
  | '0' :: 'x' :: digits => some ⟨digits⟩
  | _ => none

theorem Key.shown?_eq_some_iff {t : Text} {k : Key} : Key.shown? t = some k ↔ t = k.display := by
  obtain ⟨digits⟩ := k
  unfold Key.shown?
  split
  · simp [Key.display]
  · rename_i other
    exact iff_of_false nofun (other digits)

def Record.ofValue? (v : Value) : Option Record := do
  let [line, key, text] ← v.fields? ["line".toList, "key".toList, "text".toList] | none
  return ⟨← line.natural?, ← Key.shown? (← key.text?), ← text.text?⟩

theorem Record.ofValue?_toJson (r : Record) : Record.ofValue? r.toJson.value = some r := by
  have fields : r.toJson.value.fields? ["line".toList, "key".toList, "text".toList] =
      some [.number r.line, .string r.key.display, .string r.text] := rfl
  have key : Key.shown? r.key.display = some r.key := Key.shown?_eq_some_iff.mpr rfl
  simp only [ofValue?, fields]
  simp [key]

def DivergenceKind.named? (name : Text) : Option DivergenceKind :=
  [mismatch, missingInCandidate, candidateEnded, referenceEnded].find? fun kind => kind.name = name

theorem DivergenceKind.named?_name (kind : DivergenceKind) : named? kind.name = some kind := by
  cases kind <;> decide

def Divergence.ofValue? (v : Value) : Option Divergence := do
  let [index, kind, reference, candidate] ←
    v.fields? ["index".toList, "kind".toList, "reference".toList, "candidate".toList] | none
  return ⟨← index.natural?, ← DivergenceKind.named? (← kind.text?),
    ← reference.optional? Record.ofValue?, ← candidate.optional? Record.ofValue?⟩

theorem optional?_ofOption {α : Type} {toJson : α → Json} {read? : Value → Option α}
    (back : ∀ a, read? (toJson a).value = some a) (present : ∀ a, (toJson a).value ≠ .null)
    (a : Option α) : (Json.ofOption toJson a).value.optional? read? = some a := by
  cases a with
  | none => rfl
  | some a =>
    rw [Json.ofOption, Value.optional?, back]
    · rfl
    · exact present a

theorem Divergence.ofValue?_toJson (d : Divergence) :
    Divergence.ofValue? d.toJson.value = some d := by
  have fields : d.toJson.value.fields?
        ["index".toList, "kind".toList, "reference".toList, "candidate".toList] =
      some [.number d.index, .string d.kind.name, (Json.ofOption Record.toJson d.reference).value,
        (Json.ofOption Record.toJson d.candidate).value] := rfl
  have record (r : Option Record) :
      (Json.ofOption Record.toJson r).value.optional? Record.ofValue? = some r :=
    optional?_ofOption Record.ofValue?_toJson nofun r
  simp only [ofValue?, fields]
  simp [record, DivergenceKind.named?_name]

def Comparison.ofValue? (v : Value) : Option Comparison := do
  let [matched, lastMatch, divergence] ←
    v.fields? ["matched".toList, "last_match".toList, "divergence".toList] | none
  return ⟨← matched.natural?, ← lastMatch.optional? Record.ofValue?,
    ← divergence.optional? Divergence.ofValue?⟩

theorem Comparison.ofValue?_toJson (c : Comparison) :
    Comparison.ofValue? c.toJson.value = some c := by
  have fields : c.toJson.value.fields?
        ["matched".toList, "last_match".toList, "divergence".toList] =
      some [.number c.matched, (Json.ofOption Record.toJson c.lastMatch).value,
        (Json.ofOption Divergence.toJson c.divergence).value] := rfl
  have record := optional?_ofOption Record.ofValue?_toJson nofun c.lastMatch
  have divergence := optional?_ofOption Divergence.ofValue?_toJson nofun c.divergence
  simp only [ofValue?, fields]
  simp [record, divergence]

def Tool.named? (name : Text) : Option Tool :=
  [spike, verilator, joints].find? fun tool => tool.name = name

theorem Tool.named?_name (tool : Tool) : named? tool.name = some tool := by
  cases tool <;> decide

namespace Outcome

structure Shown where
  tool : Tool
  referencePath : Text
  candidatePath : Text
  referenceRecords : Nat
  candidateRecords : Nat
  startLine : Option Nat
  isMatch : Bool
  lineCount : Nat
  comparison : Comparison
deriving DecidableEq

def shown (o : Outcome) : Shown where
  tool := o.tool
  referencePath := o.referencePath
  candidatePath := o.candidatePath
  referenceRecords := o.referenceRecords
  candidateRecords := o.candidateRecords
  startLine := o.startLine
  isMatch := o.comparison.isMatch
  lineCount := o.lineCount
  comparison := o.comparison

def memberNames : List Text :=
  ["tool", "reference_path", "candidate_path", "reference_records", "candidate_records",
    "start_line", "match", "line_count", "comparison"].map String.toList

def Shown.ofValue? (v : Value) : Option Shown := do
  let [tool, referencePath, candidatePath, referenceRecords, candidateRecords, startLine, isMatch,
    lineCount, comparison] ← v.fields? memberNames | none
  return {
    tool := ← Tool.named? (← tool.text?)
    referencePath := ← referencePath.text?
    candidatePath := ← candidatePath.text?
    referenceRecords := ← referenceRecords.natural?
    candidateRecords := ← candidateRecords.natural?
    startLine := ← startLine.optional? Value.natural?
    isMatch := ← isMatch.truth?
    lineCount := ← lineCount.natural?
    comparison := ← Comparison.ofValue? comparison }

theorem ofValue?_toJson (o : Outcome) : Shown.ofValue? o.toJson.value = some o.shown := by
  have fields : o.toJson.value.fields? memberNames =
      some [.string o.tool.name, .string o.referencePath, .string o.candidatePath,
        .number o.referenceRecords, .number o.candidateRecords,
        (Json.ofOption Json.number o.startLine).value, .bool o.comparison.isMatch,
        .number o.lineCount, o.comparison.toJson.value] := rfl
  have start : (Json.ofOption Json.number o.startLine).value.optional? Value.natural? =
      some o.startLine := optional?_ofOption Value.natural?_number nofun o.startLine
  simp only [Shown.ofValue?, fields]
  simp [start, Tool.named?_name, Comparison.ofValue?_toJson, Value.truth?, shown]

theorem jsonReport_eq_of_shown_eq {o o' : Outcome} (h : o.shown = o'.shown) :
    o.jsonReport = o'.jsonReport := by
  simp only [shown, Shown.mk.injEq] at h
  simp only [jsonReport, toJson, h]

theorem lineCount_of_divergence (o : Outcome) :
    ((∀ d, o.comparison.divergence = some d → o.tool ≠ .joints) →
      o.lineCount = o.comparison.matched) ∧
    ∀ d, o.comparison.divergence = some d → o.tool = .joints →
      o.lineCount = (d.index + 1) % UInt64.size ∧ o.lineCount < UInt64.size := by
  obtain ⟨tool, _, _, _, _, _, _, matched, _, divergence⟩ := o
  constructor
  · intro other
    cases divergence with
    | none => rfl
    | some d => cases tool with
      | joints => exact absurd rfl (other d rfl)
      | spike => rfl
      | verilator => rfl
  · rintro d ⟨⟩ ⟨⟩
    exact ⟨toNat_ofNat_add_one_eq_mod d.index, UInt64.toNat_lt _⟩

/-- JSON reports can be read back: a report is one JSON object on a line of its own, which says exactly what
there is to say of the outcome. So two outcomes have the same report exactly when it has the same to say of
both. The count of lines in it is one of words: where joints diverge it is the position from one on, and
zero behind the last position that a word can hold. -/
theorem jsonReport_read (o : Outcome) :
    ∃ line members, o.jsonReport = line ++ ['\n'] ∧ '\n' ∉ line ∧
      Json.decode? line = some (.object members) ∧
      Json.decode? o.jsonReport = some (.object members) ∧
      Shown.ofValue? (.object members) = some o.shown ∧
      ((∀ d, o.comparison.divergence = some d → o.tool ≠ .joints) →
        o.lineCount = o.comparison.matched) ∧
      (∀ d, o.comparison.divergence = some d → o.tool = .joints →
        o.lineCount = (d.index + 1) % UInt64.size ∧ o.lineCount < UInt64.size) ∧
      ∀ o' : Outcome, o.jsonReport = o'.jsonReport ↔ o.shown = o'.shown := by
  have line : Json.decode? o.toJson.render = some o.toJson.value := by
    have read := Json.decode?_render o.toJson (List.forall_mem_nil _)
    rwa [List.append_nil] at read
  have space : ∀ c ∈ ['\n'], Json.isSpace c = true := List.forall_mem_singleton.mpr rfl
  have report (o : Outcome) : Json.decode? o.jsonReport = some o.toJson.value :=
    Json.decode?_render o.toJson space
  refine ⟨o.toJson.render, _, rfl, Json.not_mem_render o.toJson, line, report o,
    ofValue?_toJson o, (lineCount_of_divergence o).1, (lineCount_of_divergence o).2, ?_⟩
  intro o'
  refine ⟨?_, jsonReport_eq_of_shown_eq⟩
  intro same
  have value : o.toJson.value = o'.toJson.value := by
    have read := report o
    rw [same, report o'] at read
    exact (Option.some.inj read).symm
  have read := ofValue?_toJson o
  rw [value, ofValue?_toJson o'] at read
  exact (Option.some.inj read).symm

example :
    (⟨.joints, .reference, [], [], 0, 0, none,
      ⟨2 ^ 64 - 1, none, some ⟨2 ^ 64 - 1, .mismatch, none, none⟩⟩⟩ : Outcome).lineCount = 0 := rfl

end Outcome

end Lockstep
