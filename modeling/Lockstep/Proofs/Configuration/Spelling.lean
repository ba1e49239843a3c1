import Lockstep.Proofs.Outcome.Relabeling
import Lockstep.Proofs.Trace.Listing
import Lockstep.Proofs.Trace.Spelling
import Mathlib.Data.List.Forall2

set_option autoImplicit false
set_option relaxedAutoImplicit false

/-!
Runs on respelled traces. A run reads lines by their keys, and looks for the start marker in those
of the reference; where respelling keeps both, it keeps the whole outcome but for the texts of
records. Lists of addresses, commit logs and dumps may be respelled with a lead or without, but logs
of joints and of program counters only without, since their patterns take digits alone.
-/

namespace Lockstep

def Record.untexted (r : Record) : Record := { r with text := [] }

def Relabeling.untexted : Relabeling where
  start := id
  reference := Record.untexted
  candidate := Record.untexted
  key_reference _ := rfl
  key_candidate _ := rfl

namespace Extractor

variable {e : Extractor} {lines lines' : List Text}

theorem untexted_recordsFrom (e : Extractor) (start : Nat) (lines : List Text) :
    (e.recordsFrom start lines).map Record.untexted =
      ((lines.map e.key?).zipIdx start).filterMap fun (key, number) =>
        key.map fun key => ⟨number, key, []⟩ := by
  induction lines generalizing start with
  | nil => rfl
  | cons line lines ih =>
    rw [recordsFrom_cons, List.map_append, ih, List.map_cons, List.zipIdx_cons,
      List.filterMap_cons, key?, record?]
    cases e.extract? line <;> rfl

theorem untexted_recordsAfter (keys : lines'.map e.key? = lines.map e.key?) (start : Nat) :
    (e.recordsAfter start lines').map Record.untexted =
      (e.recordsAfter start lines).map Record.untexted := by
  rw [recordsAfter, recordsAfter, untexted_recordsFrom, untexted_recordsFrom, List.map_drop,
    List.map_drop, keys]

theorem carries_eq (rule : MatchRule) (target : Key) :
    Alignment.carries e rule target = (fun key => key.any (rule.admits · target)) ∘ e.key? := by
  funext line
  simp only [Alignment.carries, Function.comp_apply, key?, Option.any_map]

theorem searchTarget?_congr (keys : lines'.map e.key? = lines.map e.key?) (start : Nat)
    (target : Key) (rule : MatchRule) :
    Alignment.searchTarget? lines' start e target rule =
      Alignment.searchTarget? lines start e target rule := by
  simp only [Alignment.searchTarget?, carries_eq, ← List.findIdx?_map, List.map_drop, keys]

end Extractor

namespace Configuration

variable {config : Configuration} {reference candidate : TraceFile} {lines lines' : List Text}

theorem windowSpan_untexted
    (keys : lines.map config.reference.key? = reference.lines.map config.reference.key?)
    (records : List Record) (start : Nat) :
    (config.windowSpan { reference with lines } records start).relabel .untexted =
      (config.windowSpan reference records start).relabel .untexted := by
  simp only [windowSpan, Span.relabel, Relabeling.untexted, Extractor.window, List.map_take,
    Extractor.untexted_recordsAfter keys]

theorem targetLine_congr
    (keys : lines.map config.reference.key? = reference.lines.map config.reference.key?)
    (records : List Record) (marked : Option Nat) :
    config.targetLine { reference with lines } records marked =
      config.targetLine reference records marked := by
  cases records with
  | nil => rfl
  | cons first rest => simp only [targetLine, Extractor.searchTarget?_congr keys]

theorem align_untexted
    (keys : lines.map config.reference.key? = reference.lines.map config.reference.key?)
    (records : List Record) (marked : Option Nat) :
    (config.align { reference with lines } records marked).map (Span.relabel .untexted) =
      (config.align reference records marked).map (Span.relabel .untexted) := by
  have whole : (config.openSpan { reference with lines } marked).relabel .untexted =
      (config.openSpan reference marked).relabel .untexted := by
    simp only [openSpan, Span.relabel, Relabeling.untexted, Extractor.untexted_recordsAfter keys]
  have windows (found : Except Fault Nat) :
      (found.map (config.windowSpan { reference with lines } records)).map
          (Span.relabel .untexted) =
        (found.map (config.windowSpan reference records)).map (Span.relabel .untexted) := by
    cases found with
    | error fault => rfl
    | ok start => exact congrArg Except.ok (windowSpan_untexted keys records start)
  have count : lines.length = reference.lines.length := by
    simpa only [List.length_map] using congrArg List.length keys
  unfold align
  cases config.alignment with
  | membership => exact congrArg Except.ok whole
  | sequential => exact congrArg Except.ok whole
  | offset distance =>
    rw [count]
    exact windows _
  | targetSearch =>
    rw [targetLine_congr keys]
    exact windows _

theorem run_untexted
    (marks : ∀ marker ∈ config.marker,
      lines.map (Text.occursIn marker) = reference.lines.map (Text.occursIn marker))
    (keys : lines.map config.reference.key? = reference.lines.map config.reference.key?)
    (keys' : lines'.map config.candidate.key? = candidate.lines.map config.candidate.key?) :
    (config.run { reference with lines } { candidate with lines := lines' }).map
        (Outcome.relabel .untexted) =
      (config.run reference candidate).map (Outcome.relabel .untexted) := by
  have starts : config.markedLine { reference with lines } = config.markedLine reference := by
    unfold markedLine
    split
    · rfl
    · rename_i marker hmarker
      have found (trace : List Text) : Alignment.markerLine? marker trace =
          (trace.map (Text.occursIn marker)).findIdx? id := by
        rw [Alignment.markerLine?, List.findIdx?_map, Function.id_comp]
      rw [found, found, marks marker hmarker]
  exact run_relabel_congr config .untexted ⟨rfl, rfl⟩ starts
    (Extractor.untexted_recordsAfter keys' 0) fun marked _ => align_untexted keys _ marked

/-- A configuration ignores how addresses are spelled when respelling them, with certain leads, in
any lines of both traces changes nothing in the result of a run but the texts of records. -/
def IgnoresSpelling (config : Configuration) (leads : List Text) : Prop :=
  ∀ (reference candidate : TraceFile) (lines lines' : List Text),
    List.Forall₂ (config.reference.Respelled leads) reference.lines lines →
    List.Forall₂ (config.candidate.Respelled leads) candidate.lines lines' →
    (config.run { reference with lines } { candidate with lines := lines' }).map
        (Outcome.relabel .untexted) =
      (config.run reference candidate).map (Outcome.relabel .untexted)

theorem map_eq_map_of_forall₂ {α : Type} {R : Text → Text → Prop} {f : Text → α}
    (same : ∀ line line', R line line' → f line' = f line) (h : List.Forall₂ R lines lines') :
    lines'.map f = lines.map f := by
  induction h with
  | nil => rfl
  | cons respelled _ ih => rw [List.map_cons, List.map_cons, same _ _ respelled, ih]

theorem ignoresSpelling_of_steady {leads : List Text}
    (hr : Extractor.Steady leads config.reference) (hc : Extractor.Steady leads config.candidate)
    (marks : ∀ marker ∈ config.marker, ∀ c ∈ marker, Text.isForeign c = true) :
    config.IgnoresSpelling leads := by
  intro reference candidate lines lines' respelled respelled'
  refine run_untexted ?_ ?_ ?_
  · intro marker hmarker
    exact map_eq_map_of_forall₂
      (fun _ _ h => h.occursIn_eq hr.leads_subset (marks marker hmarker)) respelled
  · exact map_eq_map_of_forall₂ (fun _ _ h => hr.key?_eq h) respelled
  · exact map_eq_map_of_forall₂ (fun _ _ h => hc.key?_eq h) respelled'

theorem joints_builtIn :
    joints Pattern.jointText Pattern.counterText = .ok
      { tool := .joints
        reference := .pattern (Pattern.fieldRegex "[joint]".toList)
        candidate := .pattern (Pattern.fieldRegex "pc:".toList)
        marker := none
        alignment := .sequential
        rule := .exact
        driver := .reference } := by
  have reference := Pattern.ofPattern?_of_compile Pattern.compile_jointText
  have candidate := Pattern.ofPattern?_of_compile Pattern.compile_counterText
  rw [Extractor.ofPattern?] at reference candidate
  simp only [joints, jointsBy, reference, candidate]

theorem builtIn_ignoresSpelling :
    spike.IgnoresSpelling Text.leads ∧
    (∀ distance, (verilator distance).IgnoresSpelling Text.leads) ∧
    ∃ config, joints Pattern.jointText Pattern.counterText = .ok config ∧
      config.IgnoresSpelling [[]] := by
  refine ⟨?_, ?_, _, joints_builtIn, ?_⟩
  · exact ignoresSpelling_of_steady .bare (.addressed nofun) nofun
  · intro distance
    refine ignoresSpelling_of_steady (.delimited _ (by decide)) (.addressed ?_) ?_
    · rintro _ ⟨⟩
      exact ⟨'t', "imestamp".toList, rfl, by decide⟩
    · rintro _ ⟨⟩
      exact List.all_eq_true.mp rfl
  · refine ignoresSpelling_of_steady ?_ ?_ nofun
    · exact .pattern '[' "joint]".toList (by decide) (by decide) (by decide)
    · exact .pattern 'p' "c:".toList (by decide) (by decide) (by decide)

theorem builtIn_ignoresSpelling_partedLog :
    ∃ o o', (verilator none).run partedLog partedDump = .ok o ∧
      (verilator none).run
        { partedLog with
          lines := ["boot pc=[4]", "Writing", "pc=[0X10]", "idle", "pc=[14]"].map String.toList }
        { partedDump with
          lines := ["timestamp: 7", "10: auipc", "0x0018: jal"].map String.toList } = .ok o' ∧
      o'.relabel .untexted = o.relabel .untexted ∧ o.comparison.matched = 1 ∧
      o.comparison.divergence.isSome := by
  have reference : Extractor.commitLog.Respelled Text.leads
      ("pc=[".toList ++ ("0010".toList ++ "]".toList))
      ("pc=[".toList ++ ("0X10".toList ++ "]".toList)) :=
    .field ⟨[], [], rfl, rfl⟩
      ⟨[], _, _, [], 16, (List.append_nil _).symm, (List.append_nil _).symm, nofun, nofun,
        ⟨[], by decide, _, rfl, by decide, List.all_eq_true.mp rfl, by decide⟩,
        ⟨['0', 'X'], by decide, ['1', '0'], rfl, by decide, List.all_eq_true.mp rfl, by decide⟩⟩
  have candidate : (Extractor.addressed (some timestampMarker)).Respelled Text.leads
      ([] ++ ("18".toList ++ ": jal".toList)) ([] ++ ("0x0018".toList ++ ": jal".toList)) :=
    .field ⟨rfl, " jal".toList, rfl⟩
      ⟨[], _, _, [], 24, (List.append_nil _).symm, (List.append_nil _).symm, nofun, nofun,
        ⟨[], by decide, _, rfl, by decide, List.all_eq_true.mp rfl, by decide⟩,
        ⟨['0', 'x'], by decide, "0018".toList, rfl, by decide, List.all_eq_true.mp rfl, by decide⟩⟩
  have same := builtIn_ignoresSpelling.2.1 none partedLog partedDump
    (["boot pc=[4]", "Writing", "pc=[0X10]", "idle", "pc=[14]"].map String.toList)
    (["timestamp: 7", "10: auipc", "0x0018: jal"].map String.toList)
    (.cons (.same _) (.cons (.same _) (.cons reference (.cons (.same _) (.cons (.same _) .nil)))))
    (.cons (.same _) (.cons (.same _) (.cons candidate .nil)))
  obtain ⟨o, ran, matched, diverged⟩ :
      ∃ o, (verilator none).run partedLog partedDump = .ok o ∧ o.comparison.matched = 1 ∧
        o.comparison.divergence.isSome := ⟨_, rfl, rfl, rfl⟩
  rw [ran] at same
  obtain ⟨o', ran', relabeled⟩ := map_eq_ok_iff.mp same
  exact ⟨o, o', ran, ran', relabeled, matched, diverged⟩

/-- A lead in front of a joint's digits is taken for the joint itself: the pattern stops behind the
zero of the lead. -/
theorem joints_respelled_lead :
    ∃ config, joints Pattern.jointText Pattern.counterText = .ok config ∧
      (config.run ⟨"log".toList, ["[joint] 80".toList]⟩ ⟨"dump".toList, ["pc: 80".toList]⟩).map
          (·.comparison.matched) = .ok 1 ∧
      (config.run ⟨"log".toList, ["[joint] 0x80".toList]⟩ ⟨"dump".toList, ["pc: 80".toList]⟩).map
          (·.comparison.matched) = .ok 0 ∧
      ¬config.IgnoresSpelling Text.leads := by
  refine ⟨_, joints_builtIn, rfl, rfl, ?_⟩
  intro ignores
  have respelled : Extractor.Respelled
      (.pattern (Pattern.fieldRegex "[joint]".toList)) Text.leads
      ("[joint] ".toList ++ ("80".toList ++ [])) ("[joint] ".toList ++ ("0x80".toList ++ [])) :=
    .field rfl ⟨[], _, _, [], 128, (List.append_nil _).symm, (List.append_nil _).symm, nofun, nofun,
      ⟨[], by decide, _, rfl, by decide, List.all_eq_true.mp rfl, by decide⟩,
      ⟨['0', 'x'], by decide, ['8', '0'], rfl, by decide, List.all_eq_true.mp rfl, by decide⟩⟩
  have same := ignores ⟨"log".toList, ["[joint] 80".toList]⟩ ⟨"dump".toList, ["pc: 80".toList]⟩
    ["[joint] 0x80".toList] ["pc: 80".toList] (.cons respelled .nil) (.cons (.same _) .nil)
  have matched := congrArg (Except.map (·.comparison.matched)) same
  exact absurd matched (by decide)

end Configuration

end Lockstep
