import Lockstep.Proofs.Report.Raw
import Lockstep.Proofs.Text.Lines
import Lockstep.Report

set_option autoImplicit false
set_option relaxedAutoImplicit false

/-!
The lines of the report for readers. What a record shows of its line goes into the report as it is, and
no line of a file holds a line feed, whatever its bytes: so nothing that stands in the files adds a line to
the report, and each line of the report states the fact it is there for.
-/

namespace Lockstep

namespace Report

theorem unbroken_glyph (colored : Bool) (g : Glyph) : '\n' ∉ g.text colored := by
  cases colored <;> cases g <;> decide

theorem unbroken_units (tool : Tool) : '\n' ∉ tool.unit ∧ '\n' ∉ tool.units := by
  cases tool <;> decide

theorem unbroken_phrase (kind : DivergenceKind) : '\n' ∉ kind.phrase := by
  cases kind <;> decide

theorem unbroken_decimal (n : Nat) : '\n' ∉ Text.decimal n := (plain_decimal n).2

theorem unbroken_startLines (colored : Bool) (start : Option Nat) :
    ∀ line ∈ startLines colored start, '\n' ∉ line := by
  cases start with
  | none => exact nofun
  | some line =>
    simp only [startLines, List.forall_mem_singleton, List.mem_append, not_or]
    exact ⟨⟨unbroken_glyph colored _, by decide⟩, unbroken_decimal _⟩

/-- A record fits on a line of a report when its key is an address and its text is of one line. -/
structure Fits (r : Record) : Prop where
  key : r.key.Canonical
  text : '\n' ∉ r.text

theorem unbroken_shownKey {r : Option Record} (fits : ∀ x ∈ r, Fits x) : '\n' ∉ shownKey r :=
  (plain_shownKey fun x some => (fits x some).key).2

theorem unbroken_recordPhrase {r : Option Record} (fits : ∀ x ∈ r, Fits x) :
    '\n' ∉ recordPhrase r := by
  cases r with
  | none => decide
  | some x =>
    have key : '\n' ∉ x.key.display := unbroken_shownKey fits
    have text : '\n' ∉ (if x.text.isEmpty then [] else ": ".toList ++ x.text) := by
      split
      · exact List.not_mem_nil
      · exact List.not_mem_append (by decide) (fits x rfl).text
    simp only [recordPhrase, List.mem_append, not_or]
    exact ⟨⟨⟨⟨key, by decide⟩, unbroken_decimal _⟩, by decide⟩, text⟩

theorem unbroken_divergentKey {o : Outcome} {d : Divergence}
    (diverged : o.comparison.divergence = some d) (reference : ∀ x ∈ d.reference, Fits x)
    (candidate : ∀ x ∈ d.candidate, Fits x) : '\n' ∉ divergentKey o := by
  have shown (r r' : Option Record) (fits : ∀ x ∈ r, Fits x) (fits' : ∀ x ∈ r', Fits x)
      (key : o.divergentKey? = (r.or r').map Record.key) : '\n' ∉ divergentKey o := by
    have same : divergentKey o = shownKey (r.or r') := by
      rw [divergentKey, key]
      cases r.or r' <;> rfl
    rw [same]
    apply unbroken_shownKey
    intro x member
    rcases Option.or_eq_some_iff.mp member with side | ⟨-, side⟩
    · exact fits x side
    · exact fits' x side
  cases driver : o.driver with
  | reference =>
    refine shown d.reference d.candidate reference candidate ?_
    rw [Outcome.divergentKey?, diverged, driver]
    rfl
  | candidate =>
    refine shown d.candidate d.reference candidate reference ?_
    rw [Outcome.divergentKey?, diverged, driver]
    rfl

end Report

namespace Outcome

open Report

variable {o : Outcome}

theorem length_textLines (colored : Bool) (o : Outcome) :
    (o.textLines colored).length =
      (if o.startLine.isSome then 1 else 0) +
        if o.comparison.divergence.isSome then 6 else 3 := by
  rw [textLines, List.length_append]
  cases o.startLine <;> cases o.comparison.divergence <;> rfl

theorem unbroken_textLines (colored : Bool)
    (fits : ∀ r ∈ o.comparison.referenceSide ++ o.comparison.candidateSide, Fits r) :
    ∀ line ∈ o.textLines colored, '\n' ∉ line := by
  obtain ⟨unit, units⟩ := unbroken_units o.tool
  obtain ⟨last, sides⟩ := Comparison.forall_sides_iff.mp fits
  have lastMatch : '\n' ∉ shownKey o.comparison.lastMatch := unbroken_shownKey last
  rw [textLines, List.forall_mem_append]
  refine ⟨unbroken_startLines colored o.startLine, ?_⟩
  cases diverged : o.comparison.divergence with
  | none =>
    simp only [matchLines, List.forall_mem_cons, List.mem_append, not_or]
    have tick : '\n' ∉ Glyph.tick.text colored := unbroken_glyph colored _
    refine ⟨⟨⟨⟨tick, by decide⟩, units⟩, by decide⟩, ⟨by decide, unbroken_decimal _⟩, ?_, nofun⟩
    exact ⟨⟨⟨by decide, unit⟩, by decide⟩, lastMatch⟩
  | some d =>
    obtain ⟨reference, candidate⟩ := sides d diverged
    have key : '\n' ∉ divergentKey o := unbroken_divergentKey diverged reference candidate
    have cross : '\n' ∉ Glyph.cross.text colored := unbroken_glyph colored _
    simp only [divergenceLines, List.forall_mem_cons, List.mem_append, not_or]
    refine ⟨?_, ⟨by decide, lastMatch⟩, ⟨by decide, key⟩,
      ⟨by decide, unbroken_recordPhrase reference⟩, ⟨by decide, unbroken_recordPhrase candidate⟩,
      ⟨by decide, unbroken_decimal _⟩, nofun⟩
    exact ⟨⟨⟨⟨⟨⟨⟨cross, by decide⟩, unit⟩, by decide⟩, key⟩, by decide⟩, unbroken_phrase d.kind⟩,
      by decide⟩

theorem textReport_of_unbroken {colored : Bool}
    (unbroken : ∀ line ∈ o.textLines colored, '\n' ∉ line) :
    Text.segments (o.textReport colored) = o.textLines colored ∧
      (o.textReport colored).getLast? = some '\n' ∧
      (o.textReport colored).count '\n' = (o.textLines colored).length := by
  refine ⟨Text.segments_flatMap unbroken, ?_, Text.count_flatMap unbroken⟩
  have nonempty : o.textLines colored ≠ [] := by
    intro empty
    have size := o.length_textLines colored
    rw [empty] at size
    cases hd : o.comparison.divergence <;> rw [hd] at size <;> simp at size
  rw [textReport, ← List.dropLast_append_getLast nonempty, List.flatMap_append]
  simp

end Outcome

namespace Configuration

variable {config : Configuration} {reference candidate : TraceFile} {o : Outcome}

theorem fits_of_run (builtIn : config.ReadsBuiltIn)
    (unbroken : ∀ line ∈ reference.lines, '\n' ∉ line)
    (unbroken' : ∀ line ∈ candidate.lines, '\n' ∉ line)
    (h : config.run reference candidate = .ok o) :
    ∀ r ∈ o.comparison.referenceSide ++ o.comparison.candidateSide, Report.Fits r := by
  have grounded := grounded_of_run h
  have canonical := grounded.canonical builtIn.1 builtIn.2
  intro r member
  refine ⟨canonical r member, ?_⟩
  intro broken
  rcases List.mem_append.mp member with side | side
  · obtain ⟨-, ⟨line, found, extracted⟩, -⟩ := grounded.reads_reference r side
    have within : '\n' ∈ line := (builtIn.1.text_isInfix extracted).subset broken
    exact unbroken line (List.mem_of_getElem? found) within
  · obtain ⟨-, line, found, extracted⟩ := grounded.reads_candidate r side
    have within : '\n' ∈ line := (builtIn.2.text_isInfix extracted).subset broken
    exact unbroken' line (List.mem_of_getElem? found) within

/-- Files cannot forge or split lines of the report for readers, whatever their bytes: between its line
feeds stand the lines it was made of, it ends with a line feed, and there is a line for the start, if there
is one, and six more at a divergence or three without one. -/
theorem textReport_of_run_lines (builtIn : config.ReadsBuiltIn) (path path' : Text)
    (bytes bytes' : List UInt8)
    (h : config.run ⟨path, Text.lines bytes⟩ ⟨path', Text.lines bytes'⟩ = .ok o)
    (colored : Bool) :
    Text.segments (o.textReport colored) = o.textLines colored ∧
      (o.textReport colored).getLast? = some '\n' ∧
      (o.textReport colored).count '\n' =
        (if o.startLine.isSome then 1 else 0) +
          if o.comparison.divergence.isSome then 6 else 3 := by
  have fits := fits_of_run builtIn Text.not_mem_of_mem_lines Text.not_mem_of_mem_lines h
  rw [← o.length_textLines colored]
  exact Outcome.textReport_of_unbroken (o.unbroken_textLines colored fits)

/-- A commit log with an empty line, and a carriage return within a line and at the end of another. -/
def unevenLog : List UInt8 :=
  Text.encode "Writing\npc=[10] a\rb\n\npc=[14]\r\n".toList

/-- A dump whose last line has no end and holds a byte that makes no character. -/
def unevenDump : List UInt8 :=
  Text.encode "10: a\rb\r\n18: c\r ".toList ++ [0xFF]

theorem textReport_of_run_lines_unevenDump :
    ∃ o, (verilator none).run ⟨"log".toList, Text.lines unevenLog⟩
          ⟨"dump".toList, Text.lines unevenDump⟩ = .ok o ∧
      o.comparison.candidateSide = [⟨1, ⟨"18".toList⟩, "c\r \ufffd".toList⟩] ∧
      (o.textReport true).count '\n' = 7 := by
  obtain ⟨o, ran, start, diverged, candidate⟩ :
      ∃ o, (verilator none).run ⟨"log".toList, Text.lines unevenLog⟩
            ⟨"dump".toList, Text.lines unevenDump⟩ = .ok o ∧
        o.startLine.isSome ∧ o.comparison.divergence.isSome ∧
        o.comparison.candidateSide = [⟨1, ⟨"18".toList⟩, "c\r \ufffd".toList⟩] :=
    ⟨_, rfl, rfl, rfl, rfl⟩
  have builtIn : (verilator none).ReadsBuiltIn := ⟨trivial, trivial⟩
  obtain ⟨-, -, feeds⟩ := textReport_of_run_lines builtIn _ _ _ _ ran true
  rw [if_pos start, if_pos diverged] at feeds
  exact ⟨o, ran, candidate, feeds⟩

end Configuration

end Lockstep
