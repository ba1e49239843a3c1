import Lockstep.Proofs.Configuration.Resolution

set_option autoImplicit false
set_option relaxedAutoImplicit false

/-!
Refused runs. A run is refused when no line has the start marker, when a distance leads out of the
reference, or when no line matches the address that is searched for; the first comes before the other
two, of which the alignment admits one at most. Each refusal tells the fault that the configuration and
the traces have, and a run without such a fault has an outcome.
-/

namespace Lockstep

theorem map_eq_error_iff {ε α β : Type} {f : α → β} {x : Except ε α} {e : ε} :
    x.map f = .error e ↔ x = .error e := by
  cases x <;> simp [Except.map]

namespace Configuration

variable {config : Configuration} {reference candidate : TraceFile} {fault : Fault}

/-- The faults of a configuration and two traces. A distance and a search presuppose the line `s` where
the reference starts. -/
inductive HasFault (config : Configuration) (reference candidate : TraceFile) : Fault → Prop
  | unmarked {marker : Text} : config.marker = some marker →
      (∀ line ∈ reference.lines, ¬marker <:+: line) →
      HasFault config reference candidate (.markerNotFound marker reference.path)
  | outOfRange {s : Nat} {distance : Int} : config.StartsAt reference.lines s →
      config.alignment = .offset distance →
      ¬(0 ≤ s + distance - 1 ∧ s + distance - 1 ≤ reference.lines.length) →
      HasFault config reference candidate (.offsetOutOfRange distance s reference.lines.length)
  | unmatched {s : Nat} {first : Record} {rest : List Record} : config.StartsAt reference.lines s →
      config.alignment = .targetSearch →
      config.candidate.records candidate.lines = first :: rest →
      (∀ i line, s - 1 ≤ i → reference.lines[i]? = some line →
        ¬∃ key text, config.reference.extract? line = some (key, text) ∧
          config.rule.admits key first.key = true) →
      HasFault config reference candidate (.targetNotFound first.key (s - 1) reference.path)

theorem markedLine_eq_error_iff :
    config.markedLine reference = .error fault ↔
      ∃ marker, config.marker = some marker ∧ (∀ line ∈ reference.lines, ¬marker <:+: line) ∧
        .markerNotFound marker reference.path = fault := by
  unfold markedLine
  cases config.marker with
  | none => simp
  | some marker =>
    simp only [Option.some.injEq, exists_eq_left', ← Alignment.markerLine?_eq_none_iff]
    cases Alignment.markerLine? marker reference.lines <;> simp

theorem targetLine_eq_error_iff {records : List Record} {marked : Option Nat} :
    config.targetLine reference records marked = .error fault ↔
      ∃ first rest, records = first :: rest ∧
        (∀ i line, searchStart marked ≤ i → reference.lines[i]? = some line →
          ¬Alignment.carries config.reference config.rule first.key line = true) ∧
        .targetNotFound first.key (searchStart marked) reference.path = fault := by
  cases records with
  | nil => simp [targetLine]
  | cons first rest =>
    simp only [targetLine, ← Alignment.searchTarget?_eq_none_iff]
    cases found : Alignment.searchTarget? reference.lines (searchStart marked) config.reference
        first.key config.rule <;> simp [found]

theorem StartsAt.eq_getD {s : Nat} {marked : Option Nat} (starts : config.StartsAt reference.lines s)
    (hm : config.markedLine reference = .ok marked) : s = marked.getD 0 := by
  obtain ⟨marked', hm', rfl⟩ := startsAt_iff.mp starts
  obtain rfl : marked = marked' := Except.ok.inj (hm.symm.trans hm')
  rfl

theorem align_eq_error_iff {marked : Option Nat}
    (hm : config.markedLine reference = .ok marked)
    (short : reference.lines.length < Alignment.wordLimit) :
    config.align reference (config.candidate.records candidate.lines) marked = .error fault ↔
      config.HasFault reference candidate fault := by
  have starts : config.StartsAt reference.lines (marked.getD 0) :=
    startsAt_iff.mpr ⟨marked, hm, rfl⟩
  have bound : marked.getD 0 ≤ Alignment.wordLimit :=
    Nat.le_trans starts.le_length (Nat.le_of_lt short)
  constructor
  · intro failed
    unfold align at failed
    cases ha : config.alignment with
    | membership | sequential =>
      simp only [ha, reduceCtorEq] at failed
    | offset distance =>
      simp only [ha, map_eq_error_iff] at failed
      obtain ⟨outside, rfl⟩ :=
        (Alignment.offsetStart_eq_error_iff bound short).mp failed
      exact .outOfRange starts ha outside
    | targetSearch =>
      simp only [ha, map_eq_error_iff] at failed
      obtain ⟨first, rest, records, absent, rfl⟩ := targetLine_eq_error_iff.mp failed
      simp only [Alignment.carries_iff] at absent
      exact .unmatched starts ha records absent
  · intro hasFault
    unfold align
    cases hasFault with
    | unmarked configured absent =>
      rw [markedLine_eq_error_iff.mpr ⟨_, configured, absent, rfl⟩] at hm
      cases hm
    | outOfRange starts' ha outside =>
      obtain rfl := starts'.eq_getD hm
      simp only [ha, map_eq_error_iff]
      exact (Alignment.offsetStart_eq_error_iff bound short).mpr ⟨outside, rfl⟩
    | unmatched starts' ha records absent =>
      obtain rfl := starts'.eq_getD hm
      simp only [ha, map_eq_error_iff, targetLine_eq_error_iff, Alignment.carries_iff]
      exact ⟨_, _, records, absent, rfl⟩

theorem hasFault_iff_of_markedLine_error {first : Fault}
    (hm : config.markedLine reference = .error first) :
    config.HasFault reference candidate fault ↔ first = fault := by
  have unstarted {s : Nat} (starts : config.StartsAt reference.lines s) : False := by
    obtain ⟨marked, found, -⟩ := startsAt_iff.mp starts
    rw [hm] at found
    cases found
  constructor
  · intro hasFault
    cases hasFault with
    | unmarked configured absent =>
      have missing := markedLine_eq_error_iff.mpr ⟨_, configured, absent, rfl⟩
      exact Except.error.inj (hm.symm.trans missing)
    | outOfRange starts => exact (unstarted starts).elim
    | unmatched starts => exact (unstarted starts).elim
  · rintro rfl
    obtain ⟨marker, configured, absent, rfl⟩ := markedLine_eq_error_iff.mp hm
    exact .unmarked configured absent

/-- A run is refused exactly by the faults that the configuration and the traces have, and succeeds
when they have none. -/
theorem run_eq_error_iff_hasFault (config : Configuration) (reference candidate : TraceFile)
    (short : reference.lines.length < Alignment.wordLimit) :
    (∀ fault, config.run reference candidate = .error fault ↔
      config.HasFault reference candidate fault) ∧
    ((∃ o, config.run reference candidate = .ok o) ↔
      ∀ fault, ¬config.HasFault reference candidate fault) := by
  have refused (fault : Fault) : config.run reference candidate = .error fault ↔
      config.HasFault reference candidate fault := by
    simp only [run]
    cases hm : config.markedLine reference with
    | error first =>
      rw [hasFault_iff_of_markedLine_error hm, Except.error.injEq]
    | ok marked =>
      rw [← align_eq_error_iff hm short]
      exact map_eq_error_iff
  refine ⟨refused, ?_⟩
  simp only [← refused]
  cases config.run reference candidate <;> simp

theorem run_eq_error_iff_hasFault_partedLog :
    partedLog.lines.length < Alignment.wordLimit ∧
      (∀ fault, ¬(verilator (some 5)).HasFault partedLog partedDump fault) ∧
      (verilator (some 6)).run partedLog partedDump = .error (.offsetOutOfRange 6 1 5) := by
  have short : partedLog.lines.length < Alignment.wordLimit := by decide
  have reached := run_eq_error_iff_hasFault (verilator (some 5)) partedLog partedDump short
  have exceeded := run_eq_error_iff_hasFault (verilator (some 6)) partedLog partedDump short
  have starts : (verilator (some 6)).StartsAt partedLog.lines 1 :=
    startsAt_iff.mpr ⟨some 1, rfl, rfl⟩
  have outside : ¬(0 ≤ ((1 : Nat) : Int) + 6 - 1 ∧
      ((1 : Nat) : Int) + 6 - 1 ≤ partedLog.lines.length) := by decide
  exact ⟨short, reached.2.mp ⟨_, rfl⟩, (exceeded.1 _).mpr (.outOfRange starts rfl outside)⟩

end Configuration

end Lockstep
