import Lockstep.Native
import Lockstep.Proofs.Zstandard.Stored
import Mathlib.Data.List.TakeDrop
import Mathlib.Data.List.TakeWhile

set_option autoImplicit false
set_option relaxedAutoImplicit false

/-!
What reading a trace gives. A path whose file name ends in `.zst` behind something else leads to
compressed bytes; the lines of a trace are those of the bytes that a reader gets.
-/

namespace Lockstep

theorem dropWhile_eq_cons_iff {α : Type} {p : α → Bool} {l rest : List α} {x : α} :
    l.dropWhile p = x :: rest ↔
      ∃ dropped, l = dropped ++ x :: rest ∧ (∀ y ∈ dropped, p y = true) ∧ p x = false := by
  constructor
  · intro h
    have whole := List.takeWhile_append_dropWhile (p := p) (l := l)
    have stops := List.head?_dropWhile_not p l
    rw [h] at whole stops
    refine ⟨l.takeWhile p, whole.symm, ?_, by simpa using stops⟩
    intro y member
    exact List.mem_takeWhile_imp member
  · rintro ⟨dropped, rfl, all, stops⟩
    rw [List.dropWhile_append_of_pos all, List.dropWhile_cons_of_neg (by simp [stops])]

namespace Storage

/-- The last name on a path that leads anywhere has the extension `zst`: something stands before it, and
only empty names and single dots come after the name. -/
def HasZst (path : Text) : Prop :=
  ∃ before stem after, pathNames path = before ++ (stem ++ ".zst".toList) :: after ∧ stem ≠ [] ∧
    ∀ name ∈ after, name = [] ∨ name = ['.']

theorem fileName?_eq_some_iff {path name : Text} : fileName? path = some name ↔
    ∃ before after, pathNames path = before ++ name :: after ∧
      (∀ name ∈ after, name = [] ∨ name = ['.']) ∧ name ≠ [] ∧ name ≠ ['.'] := by
  unfold fileName?
  constructor
  · intro h
    split at h
    · cases h
    · next first rest left =>
      obtain rfl : first = name := Option.some.inj h
      obtain ⟨dropped, names, all, stops⟩ := dropWhile_eq_cons_iff.mp left
      refine ⟨rest.reverse, dropped.reverse, ?_, ?_, by simpa using stops⟩
      · rw [← List.reverse_reverse (pathNames path), names]
        simp
      · intro name member
        simpa using all name (List.mem_reverse.mp member)
  · rintro ⟨before, after, names, all, named⟩
    have left : (pathNames path).reverse.dropWhile (fun name => name = [] || name = ['.']) =
        name :: before.reverse := by
      refine dropWhile_eq_cons_iff.mpr ⟨after.reverse, by simp [names], ?_, by simpa using named⟩
      intro name member
      simpa using all name (List.mem_reverse.mp member)
    rw [left]

theorem ne_of_length_le {stem short : Text} (nonempty : stem ≠ []) (h : short.length ≤ 4) :
    stem ++ ".zst".toList ≠ short := by
  rintro rfl
  have filled := List.length_pos_iff.mpr nonempty
  have four : ".zst".toList.length = 4 := rfl
  rw [List.length_append, four] at h
  omega

theorem extension?_eq_zst_iff {name : Text} : extension? name = some "zst".toList ↔
    ∃ stem, stem ≠ [] ∧ name = stem ++ ".zst".toList := by
  unfold extension?
  rw [List.span_eq_takeWhile_dropWhile]
  constructor
  · intro h
    split at h
    · cases h
    · split at h
      · next last c rest parts =>
        obtain ⟨taken, left⟩ := Prod.mk.inj parts
        have whole := List.takeWhile_append_dropWhile (p := (· != '.')) (l := name.reverse)
        rw [taken, left] at whole
        refine ⟨(c :: rest).reverse, by simp, ?_⟩
        rw [← List.reverse_reverse name, ← whole, List.reverse_append, Option.some.inj h,
          List.reverse_cons, List.append_assoc]
        rfl
      · cases h
  · rintro ⟨stem, nonempty, rfl⟩
    have other : stem ++ ".zst".toList ≠ ['.', '.'] := ne_of_length_le nonempty (by decide)
    have filled := mt List.reverse_eq_nil_iff.mp nonempty
    obtain ⟨c, rest, backwards⟩ := List.exists_cons_of_ne_nil filled
    rw [if_neg other, List.reverse_append, backwards]
    rfl

theorem isCompressed_iff {path : Text} : isCompressed path = true ↔ HasZst path := by
  unfold isCompressed HasZst
  rw [decide_eq_true_iff, Option.bind_eq_some_iff]
  constructor
  · rintro ⟨name, found, zst⟩
    obtain ⟨before, after, names, all, -⟩ := fileName?_eq_some_iff.mp found
    obtain ⟨stem, nonempty, rfl⟩ := extension?_eq_zst_iff.mp zst
    exact ⟨before, stem, after, names, nonempty, all⟩
  · rintro ⟨before, stem, after, names, nonempty, all⟩
    refine ⟨stem ++ ".zst".toList, ?_, extension?_eq_zst_iff.mpr ⟨stem, nonempty, rfl⟩⟩
    have named : stem ++ ".zst".toList ≠ [] ∧ stem ++ ".zst".toList ≠ ['.'] :=
      ⟨ne_of_length_le nonempty (by decide), ne_of_length_le nonempty (by decide)⟩
    exact fileName?_eq_some_iff.mpr ⟨before, after, names, all, named⟩

/-- The file at a path, decompressed if need be, has these lines. -/
inductive Yields (lib : Library) (storage : Storage) (path : Text) : List Text → Prop
  | plain {raw : List UInt8} (found : storage path = .ok raw) (plain : ¬HasZst path) :
      Yields lib storage path (Text.lines raw)
  | compressed {raw bytes : List UInt8} (found : storage path = .ok raw) (zst : HasZst path)
      (sound : lib.decompress raw = .ok bytes) : Yields lib storage path (Text.lines bytes)

end Storage

theorem Library.native_decompress_store (bytes : List UInt8) :
    Library.native.decompress (Zstandard.store bytes) = .ok bytes := by
  simp only [native, Zstandard.decompress_store]
  rfl

namespace TraceFile

variable {lib : Library} {storage : Storage} {path : Text}

theorem readBy_of_yields {lines : List Text} (h : storage.Yields lib path lines) :
    readBy lib storage path = .ok ⟨path, lines⟩ := by
  unfold readBy Storage.bytes Storage.payload
  cases h with
  | plain found plain => rw [found]; simp only [if_neg (mt Storage.isCompressed_iff.mp plain)]
  | compressed found zst sound =>
    rw [found]
    simp only [if_pos (Storage.isCompressed_iff.mpr zst), sound]
    rfl

theorem read_store {bytes : List UInt8} (found : storage path = .ok (Zstandard.store bytes))
    (zst : Storage.HasZst path) : read storage path = .ok ⟨path, Text.lines bytes⟩ :=
  readBy_of_yields (.compressed found zst (Library.native_decompress_store bytes))

end TraceFile

end Lockstep
