import Lockstep.Proofs.Comparison.Disagreement
import Lockstep.Proofs.Comparison.Index
import Lockstep.Proofs.Configuration.Resolution
import Lockstep.Proofs.Trace.Address
import Lockstep.Proofs.Trace.Extraction
import Lockstep.Proofs.Trace.Listing
import Mathlib.Order.Bounds.Basic

set_option autoImplicit false
set_option relaxedAutoImplicit false

/-!
Comparison by membership through sets of keys. Such a comparison knows of a candidate which keys its
records have, and nothing of their order, number, lines or texts; it stops at the first reference
record whose key is not among them. A run that looks addresses up has no use for a rule and a driver.
-/

namespace Lockstep

def keySet (records : List Record) : Set Key :=
  {k | ∃ r ∈ records, r.key = k}

namespace KeyIndex

variable {reference candidate candidate' : List Record}

theorem hasKey_ofRecords_iff_mem_keySet {k : Key} :
    (ofRecords candidate).hasKey k = true ↔ k ∈ keySet candidate :=
  hasKey_ofRecords candidate k

theorem le_presence_iff_keySet {m : Nat} :
    m ≤ (ofRecords candidate).presence reference ↔
      ∀ i < m, ∃ r, reference[i]? = some r ∧ r.key ∈ keySet candidate := by
  simp only [le_presence_iff, hasKey_ofRecords_iff_mem_keySet]
  constructor
  · rintro ⟨bound, present⟩ i hi
    have inside : i < reference.length := Nat.lt_of_lt_of_le hi bound
    refine ⟨reference[i], List.getElem?_eq_getElem inside, present _ ?_⟩
    exact List.mem_take_iff_getElem.mpr ⟨i, by omega, rfl⟩
  · intro present
    refine ⟨?_, ?_⟩
    · apply Nat.le_of_not_lt
      intro beyond
      obtain ⟨r, found, -⟩ := present reference.length beyond
      rw [List.getElem?_eq_none (Nat.le_refl _)] at found
      cases found
    · intro r hr
      obtain ⟨i, hi, rfl⟩ := List.mem_take_iff_getElem.mp hr
      obtain ⟨s, found, has⟩ := present i (by omega)
      rw [List.getElem?_eq_getElem (by omega)] at found
      rwa [Option.some.inj found]

theorem presence_eq_of_isLeast {d : Nat}
    (h : IsLeast {i | ∃ r, reference[i]? = some r ∧ r.key ∉ keySet candidate} d) :
    (ofRecords candidate).presence reference = d := by
  have inside : d < reference.length := by
    obtain ⟨r, found, -⟩ := h.1
    exact (List.getElem?_eq_some_iff.mp found).1
  refine eq_of_isLeast_stop (fun _ => le_presence_iff_keySet) ?_ ?_ h
  · rintro i ⟨r, found, lacking⟩ ⟨s, found', has⟩
    obtain rfl : r = s := Option.some.inj (found.symm.trans found')
    exact lacking has
  · intro i before passed
    have found := List.getElem?_eq_getElem (Nat.lt_trans before inside)
    exact ⟨_, found, Classical.not_not.mp fun lacking => passed ⟨_, found, lacking⟩⟩

theorem presence_eq_length (h : ∀ r ∈ reference, r.key ∈ keySet candidate) :
    (ofRecords candidate).presence reference = reference.length := by
  apply Nat.le_antisymm (presence_le_length _ _)
  rw [le_presence_iff, List.take_length]
  exact ⟨Nat.le_refl _, fun r hr => hasKey_ofRecords_iff_mem_keySet.mpr (h r hr)⟩

theorem presence_le_of_keySet_subset (h : keySet candidate ⊆ keySet candidate') :
    (ofRecords candidate).presence reference ≤ (ofRecords candidate').presence reference := by
  apply presence_mono (List.prefix_refl reference)
  simp only [hasKey_ofRecords_iff_mem_keySet]
  exact fun k hk => h hk

end KeyIndex

namespace Comparison

variable {reference candidate candidate' : List Record}

theorem membership_congr (h : keySet candidate' = keySet candidate) :
    membership reference (.ofRecords candidate') = membership reference (.ofRecords candidate) := by
  have presence : (KeyIndex.ofRecords candidate').presence reference =
      (KeyIndex.ofRecords candidate).presence reference :=
    Nat.le_antisymm (KeyIndex.presence_le_of_keySet_subset h.subset)
      (KeyIndex.presence_le_of_keySet_subset h.symm.subset)
  rw [membership_eq, membership_eq, presence]

theorem membership_of_isLeast {d : Nat}
    (h : IsLeast {i | ∃ r, reference[i]? = some r ∧ r.key ∉ keySet candidate} d) :
    membership reference (.ofRecords candidate) =
      ⟨d, recordBefore? reference d, some ⟨d, .missingInCandidate, reference[d]?, none⟩⟩ := by
  have stopped := KeyIndex.presence_eq_of_isLeast h
  have bound := (KeyIndex.ofRecords candidate).presence_le_length reference
  obtain ⟨⟨r, found, -⟩, -⟩ := h
  rw [stopped] at bound
  rw [membership_eq, stopped, getLast?_take_eq_recordBefore? bound, found, Option.map_some]

theorem membership_of_forall_mem (h : ∀ r ∈ reference, r.key ∈ keySet candidate) :
    membership reference (.ofRecords candidate) =
      ⟨reference.length, recordBefore? reference reference.length, none⟩ := by
  rw [membership_eq, KeyIndex.presence_eq_length h,
    getLast?_take_eq_recordBefore? (Nat.le_refl _), List.getElem?_eq_none (Nat.le_refl _),
    Option.map_none]

end Comparison

namespace Configuration

variable {config : Configuration}

/-- Where addresses are looked up, a run under another rule and driver finds the same, and only says
which side it was told to follow. -/
theorem run_of_membership (h : config.alignment = .membership) (rule : MatchRule) (driver : Driver)
    (reference candidate : TraceFile) :
    (config.setAll [.rule rule, .driver driver]).run reference candidate =
      (config.run reference candidate).map fun o => { o with driver } := by
  have marked : (config.setAll [.rule rule, .driver driver]).markedLine reference =
      config.markedLine reference := rfl
  obtain ⟨tool, left, right, marker, alignment, _, _⟩ := config
  obtain rfl : alignment = .membership := h
  rw [run, run, marked]
  cases markedLine _ reference <;> rfl

/-- A comparison by membership depends on the candidate through its set of keys alone. It stops at the
first reference record whose key is not in the set, and goes through the reference if there is none; the
same set gives the same comparison, and a larger one matches no less. The rule and the driver have no
part in it: a run under any of them fails alike or finds the same. -/
theorem membership_depends_on_keySet :
    (∀ reference candidate : List Record,
      ((∀ r ∈ reference, r.key ∈ keySet candidate) →
        Comparison.membership reference (.ofRecords candidate) =
          ⟨reference.length, recordBefore? reference reference.length, none⟩) ∧
      (∀ d, IsLeast {i | ∃ r, reference[i]? = some r ∧ r.key ∉ keySet candidate} d →
        Comparison.membership reference (.ofRecords candidate) =
          ⟨d, recordBefore? reference d, some ⟨d, .missingInCandidate, reference[d]?, none⟩⟩) ∧
      ∀ candidate',
        (keySet candidate' = keySet candidate →
          Comparison.membership reference (.ofRecords candidate') =
            Comparison.membership reference (.ofRecords candidate)) ∧
        (keySet candidate ⊆ keySet candidate' →
          (Comparison.membership reference (.ofRecords candidate)).matched ≤
            (Comparison.membership reference (.ofRecords candidate')).matched)) ∧
    ∀ config : Configuration, config.alignment = .membership →
      ∀ rule driver reference candidate,
        (config.setAll [.rule rule, .driver driver]).run reference candidate =
          (config.run reference candidate).map fun o => { o with driver } := by
  refine ⟨?_, ?_⟩
  · intro reference candidate
    refine ⟨Comparison.membership_of_forall_mem, fun _ => Comparison.membership_of_isLeast, ?_⟩
    intro candidate'
    refine ⟨Comparison.membership_congr, ?_⟩
    intro more
    rw [Comparison.membership_eq, Comparison.membership_eq]
    exact KeyIndex.presence_le_of_keySet_subset more
  · intro config lookedUp rule driver reference candidate
    exact run_of_membership lookedUp rule driver reference candidate

end Configuration

/-!
A list of addresses against a dump, in numbers. The comparison reads both sides as numbers: it
matches the most leading numbers of the list that all occur in the dump, and stops at the first that
does not, however either side spells them.
-/

/-- The address lines of a trace in their order: the line numbers of those that denote a number,
each with that number. -/
structure AddressListing (lines : List Text) (listing : List (Nat × Nat)) : Prop where
  ascending : listing.Pairwise fun a b => a.1 < b.1
  mem_iff : ∀ i n, (i, n) ∈ listing ↔ ∃ line, lines[i]? = some line ∧ Text.Denotes line n

/-- The numbers that the lines of a dump denote before their first colon. -/
def dumpNumbers (lines : List Text) : Set Nat :=
  {n | ∃ line ∈ lines, ∃ address rest, line = address ++ ':' :: rest ∧ ':' ∉ address ∧
    Text.Denotes address n}

/-- The record of an address line: its number, the key of the number it denotes, and the line
without the blanks around it. -/
def addressRecord (lines : List Text) (entry : Nat × Nat) : Record :=
  ⟨entry.1, Key.ofNumber entry.2, Text.trim (lines[entry.1]?.getD [])⟩

def Record.entry (r : Record) : Nat × Nat := (r.line, Text.hexNumber r.key.digits)

variable {lines : List Text}

theorem mem_records_bare {r : Record} :
    r ∈ Extractor.bare.records lines ↔
      ∃ line n, lines[r.line]? = some line ∧ Text.Denotes line n ∧ r.key = Key.ofNumber n ∧
        r.text = Text.trim line := by
  simp only [Extractor.mem_records, Extractor.extract?_bare_eq_some_iff, Key.parse?_eq_some_iff]
  constructor
  · rintro ⟨line, found, ⟨n, denotes, key⟩, text⟩
    exact ⟨line, n, found, denotes, key.symm, text.symm⟩
  · rintro ⟨line, n, found, denotes, key, text⟩
    exact ⟨line, found, ⟨n, denotes, key.symm⟩, text.symm⟩

theorem addressRecord_entry {r : Record} (h : r ∈ Extractor.bare.records lines) :
    addressRecord lines r.entry = r ∧ r.key = Key.ofNumber r.entry.2 := by
  obtain ⟨line, n, found, -, key, text⟩ := mem_records_bare.mp h
  have number : r.entry.2 = n := by
    rw [Record.entry, key]
    exact Text.hexNumber_hexadecimal n
  rw [addressRecord, number, ← key]
  refine ⟨?_, rfl⟩
  simp only [Record.entry, found, Option.getD_some, ← text]

theorem addressListing_records (lines : List Text) :
    AddressListing lines ((Extractor.bare.records lines).map Record.entry) := by
  refine ⟨?_, ?_⟩
  · rw [List.pairwise_map]
    exact Extractor.bare.pairwise_recordsFrom 0 lines
  · intro i n
    simp only [List.mem_map]
    constructor
    · rintro ⟨r, hr, entry⟩
      obtain ⟨line, m, found, denotes, key, -⟩ := mem_records_bare.mp hr
      obtain ⟨rfl, rfl⟩ := Prod.mk.inj entry
      refine ⟨line, found, ?_⟩
      rw [key]
      simpa only [Key.ofNumber, Text.hexNumber_hexadecimal] using denotes
    · rintro ⟨line, found, denotes⟩
      refine ⟨⟨i, Key.ofNumber n, Text.trim line⟩, ?_, ?_⟩
      · exact mem_records_bare.mpr ⟨line, n, found, denotes, rfl, rfl⟩
      · simp only [Record.entry, Key.ofNumber, Text.hexNumber_hexadecimal]

theorem mem_dumpNumbers {n : Nat} :
    n ∈ dumpNumbers lines ↔ ∃ line ∈ lines, ∃ address rest, line = address ++ ':' :: rest ∧
      ':' ∉ address ∧ Text.Denotes address n := Iff.rfl

theorem hasKey_dump_iff {n : Nat} :
    (KeyIndex.ofRecords ((Extractor.addressed none).records lines)).hasKey (Key.ofNumber n) = true ↔
      n ∈ dumpNumbers lines := by
  rw [KeyIndex.hasKey_ofRecords]
  simp only [Extractor.mem_records, Extractor.extract?_addressed_eq_some_iff,
    Key.parse?_eq_some_iff, mem_dumpNumbers]
  constructor
  · rintro ⟨r, ⟨line, found, -, address, rest, whole, first, ⟨m, denotes, key⟩, -⟩, same⟩
    have number : m = n := Key.ofNumber_injective (key.trans same)
    exact ⟨line, List.mem_of_getElem? found, address, rest, whole, first, number ▸ denotes⟩
  · rintro ⟨line, listed, address, rest, whole, first, denotes⟩
    obtain ⟨i, found⟩ := List.mem_iff_getElem?.mp listed
    exact ⟨⟨i, Key.ofNumber n, Text.trim rest⟩,
      ⟨line, found, rfl, address, rest, whole, first, ⟨n, denotes, rfl⟩, rfl⟩, rfl⟩

theorem le_presence_iff_dumpNumbers (reference candidate : List Text) (m : Nat) :
    m ≤ (KeyIndex.ofRecords ((Extractor.addressed none).records candidate)).presence
        (Extractor.bare.records reference) ↔
      m ≤ ((Extractor.bare.records reference).map Record.entry).length ∧
        ∀ e ∈ ((Extractor.bare.records reference).map Record.entry).take m,
          e.2 ∈ dumpNumbers candidate := by
  rw [KeyIndex.le_presence_iff, List.length_map, ← List.map_take, List.forall_mem_map]
  apply and_congr_right
  intro _
  apply forall₂_congr
  intro r hr
  have key := (addressRecord_entry (List.mem_of_mem_take hr)).2
  rw [key, hasKey_dump_iff]

namespace Configuration

/-- A list of addresses is compared with a dump without fail, and by numbers alone: as many leading
numbers match as all occur in the dump, and the first that does not is the divergence. -/
theorem spike_run_eq (reference candidate : TraceFile) :
    ∃ o listing, spike.run reference candidate = .ok o ∧
      AddressListing reference.lines listing ∧
      IsGreatest {m | m ≤ listing.length ∧ ∀ e ∈ listing.take m, e.2 ∈ dumpNumbers candidate.lines}
        o.comparison.matched ∧
      (o.comparison.divergence = none ↔ o.comparison.matched = listing.length) ∧
      (∀ e, listing[o.comparison.matched]? = some e →
        o.comparison.divergence = some ⟨o.comparison.matched, .missingInCandidate,
          some (addressRecord reference.lines e), none⟩) ∧
      o.comparison.lastMatch =
        (listing.take o.comparison.matched).getLast?.map (addressRecord reference.lines) := by
  have listed := addressListing_records reference.lines
  have counted := le_presence_iff_dumpNumbers reference.lines candidate.lines
  have back : ∀ r ∈ Extractor.bare.records reference.lines,
      addressRecord reference.lines r.entry = r := fun r hr => (addressRecord_entry hr).1
  have ran : spike.run reference candidate =
      .ok (spike.outcome reference candidate ((Extractor.addressed none).records candidate.lines)
        ⟨none, Extractor.bare.records reference.lines⟩) := rfl
  have compared (r c : List Record) : spike.compare r c = .membership r (.ofRecords c) :=
    compare_of_membership rfl r c
  refine ⟨_, _, ran, listed, ?_⟩
  simp only [outcome, compared, Comparison.membership_eq]
  generalize (KeyIndex.ofRecords ((Extractor.addressed none).records candidate.lines)).presence
    (Extractor.bare.records reference.lines) = matched at counted ⊢
  generalize Extractor.bare.records reference.lines = records at counted back ⊢
  refine ⟨⟨(counted matched).mp le_rfl, fun m hm => (counted m).mpr hm⟩, ?_, ?_, ?_⟩
  · have bound := ((counted matched).mp le_rfl).1
    rw [Option.map_eq_none_iff, List.getElem?_eq_none_iff]
    rw [List.length_map] at bound ⊢
    omega
  · intro e he
    rw [List.getElem?_map, Option.map_eq_some_iff] at he
    obtain ⟨r, hr, rfl⟩ := he
    rw [hr, Option.map_some, back r (List.mem_of_getElem? hr)]
  · rw [← List.map_take, List.getLast?_map, Option.map_map]
    cases last : (records.take matched).getLast? with
    | none => rfl
    | some r =>
      have hr : r ∈ records := List.mem_of_mem_take (List.mem_of_getLast? last)
      rw [Option.map_some, Function.comp_apply, back r hr]

end Configuration

end Lockstep
