import Lockstep.Comparison
import Lockstep.Proofs.Trace.Listing
import Mathlib.Data.Char
import Mathlib.Data.List.Lex

set_option autoImplicit false
set_option relaxedAutoImplicit false

/-!
Indexes as maps from keys to records. To enter a record changes what is looked up under its own key and
nothing else, and keeps the keys in ascending order, so that an index is known by what can be looked up
in it. An index of records has one entry for each of their keys, with the last record that has it.
-/

namespace Lockstep

theorem Key.precedes_iff {k other : Key} : k.precedes other = true ↔ k.digits < other.digits :=
  decide_eq_true_iff

theorem Key.precedes_of_not_precedes {k other : Key} (different : k ≠ other)
    (behind : ¬k.precedes other = true) : other.precedes k = true := by
  rw [precedes_iff] at behind ⊢
  refine lt_of_le_of_ne (not_lt.mp behind) fun same => different ?_
  exact congrArg Key.mk same.symm

namespace Key

variable {key : Key} {keys : List Key}

/-- Keys ascend when each precedes all that come after it, and so are distinct. -/
def Ascending (keys : List Key) : Prop :=
  keys.Pairwise fun a b => a.digits < b.digits

theorem mem_insertSorted {k : Key} : k ∈ insertSorted key keys ↔ k = key ∨ k ∈ keys := by
  induction keys with
  | nil => simp [insertSorted]
  | cons other rest ih =>
    rw [insertSorted]
    split
    · rename_i same
      simp [same]
    · split
      · simp
      · simp only [List.mem_cons, ih]
        exact or_left_comm

theorem Ascending.insertSorted (ascending : Ascending keys) (key : Key) :
    Ascending (insertSorted key keys) := by
  induction keys with
  | nil => exact List.pairwise_singleton _ _
  | cons other rest ih =>
    obtain ⟨first, behind⟩ := List.pairwise_cons.mp ascending
    rw [Key.insertSorted]
    split
    · exact ascending
    · rename_i different
      split
      · rename_i before
        refine List.pairwise_cons.mpr ⟨?_, ascending⟩
        intro k hk
        rcases List.mem_cons.mp hk with rfl | later
        · exact precedes_iff.mp before
        · exact (precedes_iff.mp before).trans (first k later)
      · rename_i notBefore
        refine List.pairwise_cons.mpr ⟨?_, ih behind⟩
        intro k hk
        rcases mem_insertSorted.mp hk with rfl | later
        · exact precedes_iff.mp (precedes_of_not_precedes different notBefore)
        · exact first k later

/-- Sorted keys are the keys of a list in ascending order, each once. -/
theorem sortDistinct_ascending (keys : List Key) :
    Ascending (sortDistinct keys) ∧ ∀ k, k ∈ sortDistinct keys ↔ k ∈ keys := by
  induction keys with
  | nil => exact ⟨List.Pairwise.nil, fun _ => Iff.rfl⟩
  | cons key keys ih =>
    obtain ⟨ascending, members⟩ := ih
    refine ⟨ascending.insertSorted key, ?_⟩
    intro k
    rw [sortDistinct, List.foldr_cons, ← sortDistinct, mem_insertSorted, members, List.mem_cons]

end Key

namespace KeyIndex

variable {index index' : KeyIndex} {k : Key} {r : Record}

theorem get?_cons (entry : Key × Record) (index : KeyIndex) (k : Key) :
    get? (entry :: index) k = if entry.1 = k then some entry.2 else index.get? k := by
  by_cases same : entry.1 = k <;> simp [get?, same]

theorem get?_insert (key k : Key) (r : Record) (index : KeyIndex) :
    (insert key r index).get? k = if key = k then some r else index.get? k := by
  induction index with
  | nil => rw [insert, get?_cons]
  | cons entry rest ih =>
    obtain ⟨other, s⟩ := entry
    rw [insert]
    split
    · rename_i same
      subst same
      rw [get?_cons, get?_cons]
      split <;> rfl
    · rename_i different
      split
      · rw [get?_cons]
      · rw [get?_cons, get?_cons, ih]
        split
        · rename_i found
          rw [if_neg fun same => different (same.trans found.symm)]
        · rfl

def Ordered (index : KeyIndex) : Prop :=
  index.Pairwise fun a b => a.1.digits < b.1.digits

theorem ordered_iff : index.Ordered ↔ Key.Ascending index.keys := by
  rw [Ordered, Key.Ascending, keys, List.pairwise_map]

theorem keys_insert (key : Key) (r : Record) (index : KeyIndex) :
    (insert key r index).keys = Key.insertSorted key index.keys := by
  induction index with
  | nil => rfl
  | cons entry rest ih =>
    obtain ⟨other, s⟩ := entry
    have split : keys ((other, s) :: rest) = other :: keys rest := rfl
    rw [insert, split, Key.insertSorted]
    split
    · rename_i same
      rw [← same]
      rfl
    · split
      · rfl
      · rw [← ih]
        rfl

theorem Ordered.insert (ordered : index.Ordered) (key : Key) (r : Record) :
    (insert key r index).Ordered := by
  rw [ordered_iff] at ordered ⊢
  rw [keys_insert]
  exact ordered.insertSorted key

theorem Ordered.get?_eq_some_iff (ordered : index.Ordered) :
    index.get? k = some r ↔ (k, r) ∈ index := by
  induction index with
  | nil => simp [get?]
  | cons entry rest ih =>
    obtain ⟨other, s⟩ := entry
    obtain ⟨first, restOrdered⟩ := List.pairwise_cons.mp ordered
    rw [get?_cons, List.mem_cons, Prod.mk.injEq]
    split
    · rename_i same
      subst same
      have gone : (other, r) ∉ rest := fun later => lt_irrefl _ (first (other, r) later)
      simp [gone, eq_comm]
    · rename_i different
      rw [ih restOrdered]
      simp [Ne.symm different]

theorem Ordered.ext (ordered : index.Ordered) (ordered' : index'.Ordered)
    (same : ∀ k, index.get? k = index'.get? k) : index = index' := by
  refine eq_of_ascending (fun entry : Key × Record => entry.1.digits) ordered ordered' ?_
  rintro ⟨k, r⟩
  rw [← ordered.get?_eq_some_iff, ← ordered'.get?_eq_some_iff, same]

/-- An index that is overridden by another: the entries of the other are entered one by one. -/
def override (index other : KeyIndex) : KeyIndex :=
  other.foldl (fun index entry => insert entry.1 entry.2 index) index

theorem Ordered.override (ordered : index.Ordered) (other : KeyIndex) :
    (index.override other).Ordered := by
  induction other generalizing index with
  | nil => exact ordered
  | cons entry other ih => exact ih (ordered.insert entry.1 entry.2)

theorem get?_append (index other : KeyIndex) (k : Key) :
    get? (index ++ other) k = (index.get? k).or (other.get? k) := by
  rw [get?, List.find?_append, Option.map_or]
  rfl

theorem get?_override (index other : KeyIndex) (k : Key) :
    (index.override other).get? k = (get? other.reverse k).or (index.get? k) := by
  induction other generalizing index with
  | nil => rfl
  | cons entry other ih =>
    rw [override, List.foldl_cons, ← override, ih, get?_insert, List.reverse_cons, get?_append,
      get?_cons, Option.or_assoc]
    split <;> rfl

theorem isSome_get?_iff : (index.get? k).isSome ↔ k ∈ index.keys := by
  simp [get?, keys]

theorem Ordered.nodup_keys (ordered : index.Ordered) : index.keys.Nodup := by
  refine List.pairwise_map.mpr (ordered.imp ?_)
  intro a b ascending same
  rw [same] at ascending
  exact lt_irrefl _ ascending

theorem Ordered.get?_reverse (ordered : index.Ordered) (k : Key) :
    get? index.reverse k = index.get? k := by
  induction index with
  | nil => rfl
  | cons entry rest ih =>
    obtain ⟨first, -⟩ := List.nodup_cons.mp ordered.nodup_keys
    rw [List.reverse_cons, get?_append, ih ordered.of_cons, get?_cons, get?_cons]
    split
    · rename_i same
      subst same
      have gone : get? rest entry.1 = none := by
        rw [← Option.not_isSome_iff_eq_none, isSome_get?_iff]
        exact first
      rw [gone]
      rfl
    · exact Option.or_none

def entries (records : List Record) : KeyIndex :=
  records.map fun r => (r.key, r)

theorem ofRecords_eq_override (records : List Record) :
    ofRecords records = override [] (entries records) := by
  rw [ofRecords, override, entries, List.foldl_map]

theorem ordered_ofRecords (records : List Record) : (ofRecords records).Ordered := by
  rw [ofRecords_eq_override]
  exact Ordered.override List.Pairwise.nil _

theorem get?_ofRecords (records : List Record) (k : Key) :
    (ofRecords records).get? k = records.reverse.find? fun r => r.key = k := by
  rw [ofRecords_eq_override, get?_override, get?, entries, ← List.map_reverse, List.find?_map,
    Option.map_map]
  simp [Function.comp_def, get?]

/-- A record is the last with a key when no record behind it has the key. -/
def IsLast (records : List Record) (k : Key) (r : Record) : Prop :=
  r.key = k ∧ ∃ before after, records = before ++ r :: after ∧ ∀ s ∈ after, s.key ≠ k

theorem get?_ofRecords_eq_some_iff {records : List Record} :
    (ofRecords records).get? k = some r ↔ IsLast records k r := by
  rw [get?_ofRecords, List.find?_eq_some_iff_append, decide_eq_true_eq, IsLast,
    and_congr_right_iff]
  intro _
  constructor
  · rintro ⟨after, before, split, others⟩
    refine ⟨before.reverse, after.reverse, ?_, ?_⟩
    · rw [← List.reverse_reverse records, split]
      simp
    · simpa using others
  · rintro ⟨before, after, rfl, others⟩
    refine ⟨after.reverse, before.reverse, ?_, ?_⟩
    · simp
    · simpa using others

theorem mem_keys_ofRecords {records : List Record} :
    k ∈ (ofRecords records).keys ↔ ∃ r ∈ records, r.key = k := by
  rw [← isSome_get?_iff, get?_ofRecords]
  simp

/-- The keys of an index are those of its records, sorted. -/
theorem keys_ofRecords (records : List Record) :
    (ofRecords records).keys = Key.sortDistinct (records.map Record.key) := by
  obtain ⟨ascending, members⟩ := Key.sortDistinct_ascending (records.map Record.key)
  refine eq_of_ascending Key.digits (ordered_iff.mp (ordered_ofRecords records)) ascending ?_
  intro k
  rw [mem_keys_ofRecords, members, List.mem_map]

theorem get?_ofRecords_append (records more : List Record) (k : Key) :
    (ofRecords (records ++ more)).get? k =
      ((ofRecords more).get? k).or ((ofRecords records).get? k) := by
  simp only [get?_ofRecords, List.reverse_append, List.find?_append]

theorem ofRecords_append (records more : List Record) :
    ofRecords (records ++ more) = (ofRecords records).override (ofRecords more) := by
  refine Ordered.ext (ordered_ofRecords _) ((ordered_ofRecords records).override _) ?_
  intro k
  rw [get?_override, (ordered_ofRecords more).get?_reverse, get?_ofRecords_append]

/-- An index represents its records faithfully. Each of their keys has one entry in it, with the last
record that has the key, and no other key has any; that entry is the one that is found. The index of
two lists on end is that of the first overridden by that of the second: what is in the second is found
there, and all else as in the first. -/
theorem ofRecords_faithful (records : List Record) :
    (ofRecords records).keys.Nodup ∧
      (∀ k, k ∈ (ofRecords records).keys ↔ ∃ r ∈ records, r.key = k) ∧
      (∀ k r, (k, r) ∈ ofRecords records ↔ IsLast records k r) ∧
      (∀ k r, (ofRecords records).get? k = some r ↔ IsLast records k r) ∧
      ∀ more,
        ofRecords (records ++ more) = (ofRecords records).override (ofRecords more) ∧
          ∀ k, (ofRecords (records ++ more)).get? k =
            ((ofRecords more).get? k).or ((ofRecords records).get? k) := by
  have ordered := ordered_ofRecords records
  refine ⟨ordered.nodup_keys, fun _ => mem_keys_ofRecords, ?_, fun _ _ => get?_ofRecords_eq_some_iff,
    ?_⟩
  · intro k r
    rw [← ordered.get?_eq_some_iff, get?_ofRecords_eq_some_iff]
  · intro more
    exact ⟨ofRecords_append records more, get?_ofRecords_append records more⟩

end KeyIndex

/-!
How many leading addresses of a reference are present in an index. A comparison by membership is
settled by the first address of the reference that is not among the keys of the index.
-/

namespace KeyIndex

theorem hasKey_ofRecords (records : List Record) (k : Key) :
    (ofRecords records).hasKey k = true ↔ ∃ r ∈ records, r.key = k := by
  rw [← mem_keys_ofRecords, hasKey, keys]
  simp

/-- The number of leading records of a reference whose keys an index has. -/
def presence (index : KeyIndex) (reference : List Record) : Nat :=
  (reference.takeWhile fun r => index.hasKey r.key).length

variable {index index' : KeyIndex} {reference reference' : List Record}

theorem presence_cons (index : KeyIndex) (r : Record) (rs : List Record) :
    index.presence (r :: rs) = if index.hasKey r.key then index.presence rs + 1 else 0 := by
  rw [presence, List.takeWhile_cons]
  split <;> rfl

theorem le_presence_iff {m : Nat} :
    m ≤ index.presence reference ↔
      m ≤ reference.length ∧ ∀ r ∈ reference.take m, index.hasKey r.key = true := by
  induction reference generalizing m with
  | nil => simp +contextual [presence]
  | cons r rs ih =>
    cases m with
    | zero => simp
    | succ m =>
      rw [presence_cons]
      simp only [List.length_cons, List.take_succ_cons, List.mem_cons, forall_eq_or_imp]
      split
      · rename_i present
        rw [Nat.add_le_add_iff_right, Nat.add_le_add_iff_right, ih]
        simp [present]
      · rename_i absent
        simp [absent]

theorem presence_le_length (index : KeyIndex) (reference : List Record) :
    index.presence reference ≤ reference.length :=
  (le_presence_iff.mp (Nat.le_refl _)).1

theorem presence_mono (hr : reference <+: reference')
    (keys : ∀ k, index.hasKey k = true → index'.hasKey k = true) :
    index.presence reference ≤ index'.presence reference' := by
  obtain ⟨bound, present⟩ := le_presence_iff.mp (Nat.le_refl (index.presence reference))
  obtain ⟨x, rfl⟩ := hr
  refine le_presence_iff.mpr ⟨?_, ?_⟩
  · rw [List.length_append]
    exact Nat.le_trans bound (Nat.le_add_right _ _)
  · rw [List.take_append_of_le_length bound]
    exact fun r hr => keys r.key (present r hr)

end KeyIndex

namespace Comparison

theorem lookUp_eq (index : KeyIndex) (position : Nat) (last : Option Record)
    (reference : List Record) :
    lookUp index position last reference =
      ⟨position + index.presence reference,
        (reference.take (index.presence reference)).getLast?.or last,
        reference[index.presence reference]?.map fun r =>
          ⟨position + index.presence reference, .missingInCandidate, some r, none⟩⟩ := by
  induction reference generalizing position last with
  | nil => simp [lookUp, KeyIndex.presence]
  | cons r rs ih =>
    rw [lookUp, KeyIndex.presence_cons]
    split
    · rw [ih]
      simp only [List.take_succ_cons, List.getLast?_cons, List.getElem?_cons_succ, Option.or_some,
        Nat.add_assoc, Nat.add_comm 1]
      cases (rs.take (index.presence rs)).getLast? <;> simp
    · simp

theorem membership_eq (reference : List Record) (index : KeyIndex) :
    membership reference index =
      ⟨index.presence reference,
        (reference.take (index.presence reference)).getLast?,
        reference[index.presence reference]?.map fun r =>
          ⟨index.presence reference, .missingInCandidate, some r, none⟩⟩ := by
  simp [membership, lookUp_eq]

end Comparison

end Lockstep
