import Lockstep.Proofs.Storage.Reading
import Lockstep.Storage.Directory

set_option autoImplicit false
set_option relaxedAutoImplicit false

/-!
Files in a directory. A path of plain names leads through directories to the place of these names, so that
in a directory where nothing lies below a file every file is read at its own path, and nothing else is.
-/

namespace Lockstep

namespace Directory

/-- A name that a path can be made of, and by which it goes one step down. -/
structure PlainName (name : Text) : Prop where
  ne_nil : name ≠ []
  ne_dot : name ≠ ['.']
  ne_parent : name ≠ ['.', '.']
  short : (Text.encode name).length ≤ nameLimit
  slash_not_mem : '/' ∉ name
  nul_not_mem : '\x00' ∉ name

variable {d : Directory} {place names : List Text} {e : Entry} {bytes : List UInt8}

theorem PlainName.enter_eq {name : Text} (h : PlainName name) (place : List Text) :
    enter name (some place) = some (some (place ++ [name])) := by
  simp [enter, h.ne_nil, h.ne_dot, h.ne_parent]

theorem walk_eq_ok_iff (plain : ∀ name ∈ names, PlainName name) :
    d.walk (some place) names = .ok e ↔
      d.entry? (place ++ names) = some e ∧
        ∀ front name back, names = front ++ name :: back →
          d.entry? (place ++ front) = some .directory := by
  induction names generalizing place with
  | nil =>
    rw [walk, found?, List.append_nil]
    cases d.entry? place <;> simp
  | cons name names ih =>
    obtain ⟨first, others⟩ := List.forall_mem_cons.mp plain
    have split : place ++ name :: names = place ++ [name] ++ names := by simp
    rw [walk, found?]
    constructor
    · intro h
      split at h
      · cases h
      · cases h
      · rename_i here
        rw [if_neg (Nat.not_lt.mpr first.short), first.enter_eq] at h
        obtain ⟨reached, through⟩ := (ih others).mp h
        refine ⟨split ▸ reached, ?_⟩
        rintro (_ | ⟨other, front⟩) name' back parts
        · rwa [List.append_nil]
        · obtain ⟨rfl, rest⟩ := List.cons.inj parts
          have below := through front name' back rest
          rwa [List.append_assoc] at below
    · rintro ⟨reached, through⟩
      have here : d.entry? place = some .directory := by
        have start := through [] name names rfl
        rwa [List.append_nil] at start
      simp only [here, if_neg (Nat.not_lt.mpr first.short), first.enter_eq]
      refine (ih others).mpr ⟨split ▸ reached, ?_⟩
      intro front name' back parts
      have below := through (name :: front) name' back (by rw [parts, List.cons_append])
      rwa [List.append_assoc]

def Consistent (d : Directory) : Prop :=
  ∀ place bytes, d.entry? place = some (.file bytes) → ∀ e ∈ d, place <+: e.1 → e.1 = place

theorem exists_mem_of_entry? (held : d.entry? place = some (.file bytes)) :
    ∃ e ∈ d, e.1 = place := by
  unfold entry? at held
  split at held
  · rename_i e found
    exact ⟨e, List.mem_reverse.mp (List.mem_of_find?_eq_some found),
      by simpa using List.find?_some found⟩
  · split at held
    · cases held
    · cases held

theorem Consistent.entry?_eq_directory (consistent : d.Consistent)
    (held : d.entry? names = some (.file bytes)) {front back : List Text} {name : Text}
    (parts : names = front ++ name :: back) : d.entry? front = some .directory := by
  obtain ⟨e, member, rfl⟩ := exists_mem_of_entry? held
  have below : front <+: e.1 := ⟨name :: back, parts.symm⟩
  cases here : d.entry? front with
  | none =>
    have known : front = [] || d.any (fun e => front.isPrefixOf e.1) := by
      rw [Bool.or_eq_true, List.any_eq_true]
      exact .inr ⟨e, member, List.isPrefixOf_iff_prefix.mpr below⟩
    unfold entry? at here
    split at here
    · cases here
    · rw [if_pos known] at here
      cases here
  | some other =>
    cases other with
    | directory => rfl
    | file content =>
      have same := consistent front content here e member below
      rw [parts] at same
      simp at same

def pathOf (names : List Text) : Text :=
  ['/'].intercalate names

theorem pathNames_pathOf (plain : ∀ name ∈ names, PlainName name) (nonempty : names ≠ []) :
    Storage.pathNames (pathOf names) = names :=
  List.splitOn_intercalate '/' (fun name member => (plain name member).slash_not_mem) nonempty

theorem pathOf_plain (plain : ∀ name ∈ names, PlainName name) (nonempty : names ≠ []) :
    pathOf names ≠ [] ∧ (pathOf names).head? ≠ some '/' ∧ '\x00' ∉ pathOf names := by
  induction names with
  | nil => exact absurd rfl nonempty
  | cons name names ih =>
    obtain ⟨first, others⟩ := List.forall_mem_cons.mp plain
    obtain ⟨c, letters, rfl⟩ := List.exists_cons_of_ne_nil first.ne_nil
    have inside : c ≠ '/' := fun slash => first.slash_not_mem (slash ▸ List.mem_cons_self)
    cases names with
    | nil =>
      have path : pathOf [c :: letters] = c :: letters := List.intercalate_singleton
      rw [path]
      exact ⟨List.cons_ne_nil _ _, by simpa using inside, first.nul_not_mem⟩
    | cons next names =>
      have path : pathOf ((c :: letters) :: next :: names) =
          c :: (letters ++ '/' :: pathOf (next :: names)) := by
        rw [pathOf, List.intercalate_cons_cons]
        simp [pathOf]
      obtain ⟨-, -, nul⟩ := ih others (List.cons_ne_nil _ _)
      have before := first.nul_not_mem
      rw [path]
      refine ⟨List.cons_ne_nil _ _, by simpa using inside, ?_⟩
      simp only [List.mem_cons, List.mem_append, not_or] at before ⊢
      exact ⟨before.1, before.2, by decide, nul⟩

/-- In a consistent directory the path of plain names has the bytes of the file at their place, and no
bytes where there is no file. -/
theorem storage_pathOf (consistent : d.Consistent) (plain : ∀ name ∈ names, PlainName name)
    (nonempty : names ≠ []) (short : (Text.encode (pathOf names)).length < pathLimit) :
    d.storage (pathOf names) = .ok bytes ↔ d.entry? names = some (.file bytes) := by
  obtain ⟨filled, inside, nul⟩ := pathOf_plain plain nonempty
  have walked : d.walk (some []) names = .ok (.file bytes) ↔
      d.entry? names = some (.file bytes) := by
    rw [walk_eq_ok_iff plain, List.nil_append, and_iff_left_iff_imp]
    intro held front name back parts
    exact consistent.entry?_eq_directory held parts
  simp only [storage, List.contains_iff_mem, if_neg nul, if_neg filled,
    if_neg (Nat.not_le.mpr short), if_neg inside, pathNames_pathOf plain nonempty]
  rw [← walked]
  cases d.walk (some []) names with
  | error cause => simp
  | ok e => cases e <;> simp

/-- A file in a directory is read line by line at its own path, decompressed where it was stored under
a name that says so. -/
theorem read_pathOf (consistent : d.Consistent) (plain : ∀ name ∈ names, PlainName name)
    (nonempty : names ≠ []) (short : (Text.encode (pathOf names)).length < pathLimit) :
    (¬Storage.HasZst (pathOf names) → d.entry? names = some (.file bytes) →
      TraceFile.read d.storage (pathOf names) = .ok ⟨pathOf names, Text.lines bytes⟩) ∧
    (Storage.HasZst (pathOf names) → d.entry? names = some (.file (Zstandard.store bytes)) →
      TraceFile.read d.storage (pathOf names) = .ok ⟨pathOf names, Text.lines bytes⟩) := by
  have found {raw : List UInt8} (held : d.entry? names = some (.file raw)) :
      d.storage (pathOf names) = .ok raw := (storage_pathOf consistent plain nonempty short).mpr held
  constructor
  · intro plainly held
    exact TraceFile.readBy_of_yields (.plain (found held) plainly)
  · intro zst held
    exact TraceFile.read_store (found held) zst

end Directory

end Lockstep
