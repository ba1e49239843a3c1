import Lockstep.Proofs.Outcome.Provenance
import Lockstep.Report

set_option autoImplicit false
set_option relaxedAutoImplicit false

/-!
Raw reports as they are read back. The lines of a raw report fall apart into names and values without
doubt, as keys and numbers hold neither an equals sign nor the end of a line, and the values tell all
there is to tell: two outcomes have one report exactly when they have the same gist.
-/

namespace Lockstep

/-- What a report tells of a divergence: where and what it is, and the keys of both sides, as far as
there are any. -/
structure Divergence.Gist where
  index : Nat
  kind : DivergenceKind
  reference : Option Key
  candidate : Option Key
deriving DecidableEq

def Divergence.gist (d : Divergence) : Divergence.Gist :=
  ⟨d.index, d.kind, d.reference.map Record.key, d.candidate.map Record.key⟩

structure Outcome.Gist where
  tool : Tool
  isMatch : Bool
  matched : Nat
  lineCount : Nat
  startLine : Option Nat
  lastMatch : Option Key
  divergence : Option Divergence.Gist
deriving DecidableEq

def Outcome.gist (o : Outcome) : Outcome.Gist where
  tool := o.tool
  isMatch := o.comparison.isMatch
  matched := o.comparison.matched
  lineCount := o.lineCount
  startLine := o.startLine
  lastMatch := o.comparison.lastMatch.map Record.key
  divergence := o.comparison.divergence.map Divergence.gist

namespace Report

/-- A text that holds nothing by which fields and lines are told apart. -/
def Plain (t : Text) : Prop := '=' ∉ t ∧ '\n' ∉ t

instance (t : Text) : Decidable (Plain t) := inferInstanceAs (Decidable (_ ∧ _))

/-- A field is legible when it has a name, and its line splits into name and value in one way only. -/
structure Legible (f : Field) : Prop where
  named : f.1 ≠ []
  name : Plain f.1
  value : Plain f.2

theorem fieldLines_injective {fields fields' : List Field} (legible : ∀ f ∈ fields, Legible f)
    (legible' : ∀ f ∈ fields', Legible f)
    (h : fields.flatMap fieldLine = fields'.flatMap fieldLine) : fields = fields' := by
  induction fields generalizing fields' with
  | nil =>
    cases fields' with
    | nil => rfl
    | cons g gs => simp [fieldLine] at h
  | cons f fs ih =>
    cases fields' with
    | nil => simp [fieldLine] at h
    | cons g gs =>
      have hf := legible f List.mem_cons_self
      have hg := legible' g List.mem_cons_self
      simp only [List.flatMap_cons, fieldLine, List.append_assoc, List.cons_append,
        List.nil_append] at h
      obtain ⟨name, behind⟩ := Text.append_cons_inj hf.name.1 hg.name.1 h
      obtain ⟨value, rest⟩ := Text.append_cons_inj hf.value.2 hg.value.2 behind
      have others : fs = gs := ih (fun f' hf' => legible f' (List.mem_cons_of_mem f hf'))
        (fun g' hg' => legible' g' (List.mem_cons_of_mem g hg')) rest
      rw [others, Prod.ext name value]

theorem plain_decimal (n : Nat) : Plain (Text.decimal n) := by
  constructor <;> intro member <;> exact absurd (Text.isDigit_of_mem_decimal member) (by decide)

theorem plain_name (tool : Tool) : Plain tool.name := by
  cases tool <;> decide

theorem plain_truth (b : Bool) : Plain (truth b) := by
  cases b <;> decide

theorem plain_rawKind (kind : DivergenceKind) : Plain (rawKind kind) := by
  cases kind <;> decide

theorem plain_shownKey {r : Option Record} (canonical : ∀ x, r = some x → x.key.Canonical) :
    Plain (shownKey r) := by
  cases r with
  | none => decide
  | some x =>
    have lower := (canonical x rfl).lower
    constructor <;> intro member <;>
      simp only [shownKey, Key.display, List.mem_cons, Char.reduceEq, false_or] at member <;>
      exact absurd (lower _ member) (by decide)

theorem truth_injective {b b' : Bool} (h : truth b = truth b') : b = b' := by
  cases b <;> cases b' <;> revert h <;> decide

theorem name_injective {tool tool' : Tool} (h : tool.name = tool'.name) : tool = tool' := by
  cases tool <;> cases tool' <;> revert h <;> decide

theorem rawKind_injective {kind kind' : DivergenceKind} (h : rawKind kind = rawKind kind') :
    kind = kind' := by
  cases kind <;> cases kind' <;> revert h <;> decide

theorem display_injective {k k' : Key} (h : k.display = k'.display) : k = k' := by
  cases k
  cases k'
  simpa [Key.display] using h

theorem shownKey_eq_iff {r r' : Option Record} :
    shownKey r = shownKey r' ↔ r.map Record.key = r'.map Record.key := by
  cases r with
  | none => cases r' <;> simp [shownKey, absent, Key.display]
  | some x =>
    cases r' with
    | none => simp [shownKey, absent, Key.display]
    | some x' =>
      simp only [shownKey, Option.map_some, Option.some.injEq]
      exact ⟨display_injective, congrArg Key.display⟩

theorem startFields_append_inj {start start' : Option Nat} {value value' : Text}
    {rest rest' : List Field}
    (h : startFields start ++ ("last_match".toList, value) :: rest =
      startFields start' ++ ("last_match".toList, value') :: rest') :
    start = start' ∧ value = value' ∧ rest = rest' := by
  have apart : "last_match".toList ≠ "start_line".toList := by decide
  cases start with
  | none =>
    cases start' with
    | none =>
      obtain ⟨field, rest⟩ := List.cons.inj h
      exact ⟨rfl, (Prod.mk.inj field).2, rest⟩
    | some line' => exact absurd (Prod.mk.inj (List.cons.inj h).1).1 apart
  | some line =>
    cases start' with
    | none => exact absurd (Prod.mk.inj (List.cons.inj h).1).1.symm apart
    | some line' =>
      obtain ⟨first, behind⟩ := List.cons.inj h
      obtain ⟨field, rest⟩ := List.cons.inj behind
      have number : line + 1 = line' + 1 := Text.decimal_injective (Prod.mk.inj first).2
      exact ⟨congrArg some (Nat.succ.inj number), (Prod.mk.inj field).2, rest⟩

theorem divergenceFields_eq_iff {d d' : Divergence} :
    divergenceFields d = divergenceFields d' ↔ d.gist = d'.gist := by
  simp only [divergenceFields, Divergence.gist, List.cons.injEq, Prod.mk.injEq, true_and, and_true,
    Divergence.Gist.mk.injEq, shownKey_eq_iff]
  refine and_congr ⟨Text.decimal_injective, congrArg Text.decimal⟩ (and_congr_left' ?_)
  exact ⟨rawKind_injective, congrArg rawKind⟩

end Report

namespace Outcome

open Report

variable {o o' : Outcome}

theorem rawFields_eq_iff : o.rawFields = o'.rawFields ↔ o.gist = o'.gist := by
  simp only [rawFields, gist, Gist.mk.injEq, List.append_assoc, List.cons_append, List.nil_append,
    List.cons.injEq, Prod.mk.injEq, true_and]
  constructor
  · rintro ⟨tool, verdict, matched, count, rest⟩
    obtain ⟨start, last, diverged⟩ := startFields_append_inj rest
    refine ⟨name_injective tool, truth_injective verdict, Text.decimal_injective matched,
      Text.decimal_injective count, start, shownKey_eq_iff.mp last, ?_⟩
    cases hd : o.comparison.divergence <;> cases hd' : o'.comparison.divergence <;>
      simp only [hd, hd', Option.map_some, Option.map_none, Option.some.injEq] at diverged ⊢
    · cases diverged
    · cases diverged
    · exact divergenceFields_eq_iff.mp diverged
  · rintro ⟨tool, verdict, matched, count, start, last, diverged⟩
    refine ⟨congrArg _ tool, congrArg _ verdict, congrArg _ matched, congrArg _ count, ?_⟩
    rw [start, shownKey_eq_iff.mpr last]
    cases hd : o.comparison.divergence <;> cases hd' : o'.comparison.divergence <;>
      simp only [hd, hd', Option.map_some, Option.map_none, Option.some.injEq, reduceCtorEq]
        at diverged ⊢
    rw [divergenceFields_eq_iff.mpr diverged]

theorem rawFields_names (o : Outcome) :
    (∀ name ∈ o.rawFields.map Prod.fst, name ≠ [] ∧ Plain name) ∧
      (o.rawFields.map Prod.fst).Nodup := by
  simp only [rawFields, List.map_append]
  cases o.startLine <;> cases o.comparison.divergence <;>
    simp only [startFields, divergenceFields, List.map_cons, List.map_nil] <;> decide

theorem plain_rawFields
    (canonical : ∀ r ∈ o.comparison.referenceSide ++ o.comparison.candidateSide, r.key.Canonical) :
    ∀ f ∈ o.rawFields, Plain f.2 := by
  obtain ⟨last, sides⟩ := Comparison.forall_sides_iff.mp canonical
  simp only [rawFields, List.forall_mem_append, List.forall_mem_cons, List.not_mem_nil,
    IsEmpty.forall_iff, implies_true, and_true]
  refine ⟨⟨⟨⟨plain_name o.tool, plain_truth _, plain_decimal _, plain_decimal _⟩, ?_⟩,
    plain_shownKey last⟩, ?_⟩
  · cases o.startLine with
    | none => exact nofun
    | some line =>
      simp only [startFields, List.mem_singleton, forall_eq]
      exact plain_decimal (line + 1)
  · cases diverged : o.comparison.divergence with
    | none => exact nofun
    | some d =>
      obtain ⟨reference, candidate⟩ := sides d diverged
      simp only [divergenceFields, List.forall_mem_cons, List.not_mem_nil, IsEmpty.forall_iff,
        implies_true, and_true]
      exact ⟨plain_decimal d.index, plain_rawKind d.kind, plain_shownKey reference,
        plain_shownKey candidate⟩

end Outcome

namespace Configuration

def ReadsBuiltIn (config : Configuration) : Prop :=
  config.reference.IsBuiltIn ∧ config.candidate.IsBuiltIn

variable {config config' : Configuration}
  {reference reference' candidate candidate' : TraceFile} {o o' : Outcome}

theorem legible_rawFields_of_run (builtIn : config.ReadsBuiltIn)
    (h : config.run reference candidate = .ok o) : ∀ f ∈ o.rawFields, Report.Legible f := by
  intro f hf
  obtain ⟨named, name⟩ := o.rawFields_names.1 f.1 (List.mem_map_of_mem hf)
  have canonical := (grounded_of_run h).canonical builtIn.1 builtIn.2
  exact ⟨named, name, Outcome.plain_rawFields canonical f hf⟩

/-- Raw reports of runs can be read back: a report is lines of legible fields with distinct names, and
two reports are the same exactly when they are of outcomes with the same gist. -/
theorem rawReport_eq_iff_gist_eq (builtIn : config.ReadsBuiltIn) (builtIn' : config'.ReadsBuiltIn)
    (h : config.run reference candidate = .ok o) (h' : config'.run reference' candidate' = .ok o') :
    (∃ fields : List Report.Field, o.rawReport = fields.flatMap Report.fieldLine ∧
      (∀ f ∈ fields, Report.Legible f) ∧ (fields.map Prod.fst).Nodup) ∧
    (o.rawReport = o'.rawReport ↔ o.gist = o'.gist) := by
  have legible := legible_rawFields_of_run builtIn h
  have legible' := legible_rawFields_of_run builtIn' h'
  refine ⟨⟨o.rawFields, rfl, legible, o.rawFields_names.2⟩, ?_⟩
  rw [← Outcome.rawFields_eq_iff]
  constructor
  · exact Report.fieldLines_injective legible legible'
  · exact congrArg (List.flatMap Report.fieldLine)

theorem rawReport_eq_iff_gist_eq_partedLog :
    ∃ o o', (verilator none).run partedLog partedDump = .ok o ∧
      (verilator (some 2)).run partedLog
        { partedDump with lines := ["0x10: nop", "0x18: ret"].map String.toList } = .ok o' ∧
      o ≠ o' ∧ o.gist = o'.gist ∧ o.rawReport = o'.rawReport := by
  obtain ⟨o, o', ran, ran', other, same⟩ :
      ∃ o o', (verilator none).run partedLog partedDump = .ok o ∧
        (verilator (some 2)).run partedLog
          { partedDump with lines := ["0x10: nop", "0x18: ret"].map String.toList } = .ok o' ∧
        o ≠ o' ∧ o.gist = o'.gist := ⟨_, _, rfl, rfl, by decide, by decide⟩
  have builtIn (distance : Option Int) : (verilator distance).ReadsBuiltIn := ⟨trivial, trivial⟩
  have report := (rawReport_eq_iff_gist_eq (builtIn none) (builtIn (some 2)) ran ran').2.mpr same
  exact ⟨o, o', ran, ran', other, same, report⟩

end Configuration

end Lockstep
