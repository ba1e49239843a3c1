import Lockstep.Proofs.Pattern.HexField
import Lockstep.Proofs.Trace.Extraction

set_option autoImplicit false
set_option relaxedAutoImplicit false

/-!
Spellings of addresses. A number is spelled by its digits in either case, padded with zeros or not,
behind a lead or without. Wherever an extractor finds the address of a line, it finds any other
spelling that is put in its place, so that the line keeps its key.
-/

namespace Lockstep

namespace Text

/-- A text spells a number when it is hexadecimal digits of that number behind one of some leads. -/
def Spells (leads : List Text) (t : Text) (n : Nat) : Prop :=
  ∃ lead ∈ leads, ∃ digits, t = lead ++ digits ∧ digits ≠ [] ∧
    (∀ c ∈ digits, isHexDigit c = true) ∧ hexNumber digits = n

/-- A field with an address is respelled when another spelling of the same number, with one of some
leads, takes the place of the address. The blanks around it stay. -/
def Respelled (leads : List Text) (field field' : Text) : Prop :=
  ∃ left address address' right n,
    field = left ++ address ++ right ∧ field' = left ++ address' ++ right ∧
    (∀ c ∈ left, isBlank c = true) ∧ (∀ c ∈ right, isBlank c = true) ∧
    Spells Text.leads address n ∧ Spells leads address' n

/-- A character is foreign to addresses when it is neither a digit nor blank nor part of a lead. -/
def isForeign (c : Char) : Bool :=
  !isBlank c && !isHexDigit c && c != 'x' && c != 'X'

theorem Denotes.not_mem {t : Text} {n : Nat} (h : t.Denotes n) {c : Char}
    (foreign : isForeign c = true) : c ∉ t := by
  obtain ⟨left, lead, digits, right, rfl, blankLeft, blankRight, hlead, -, hex, -⟩ := h
  have inLead : Text.leads.all (fun lead => lead.all fun c => !isForeign c) = true := by decide
  simp only [isForeign, Bool.and_eq_true, Bool.not_eq_true'] at foreign
  simp only [List.mem_append, not_or]
  refine ⟨⟨?_, ?_, ?_⟩, ?_⟩
  · intro hc
    simp [blankLeft c hc] at foreign
  · intro hc
    have own := List.all_eq_true.mp (List.all_eq_true.mp inLead lead hlead) c hc
    simp [isForeign, foreign] at own
  · intro hc
    simp [hex c hc] at foreign
  · intro hc
    simp [blankRight c hc] at foreign

theorem Denotes.ne_nil {t : Text} {n : Nat} (h : t.Denotes n) : t ≠ [] := by
  obtain ⟨left, lead, digits, right, rfl, -, -, -, nonempty, -⟩ := h
  simp [nonempty]

theorem Respelled.denotes {leads : List Text} {field field' : Text}
    (h : Respelled leads field field') (within : leads ⊆ Text.leads) :
    ∃ n, field.Denotes n ∧ field'.Denotes n := by
  obtain ⟨left, address, address', right, n, rfl, rfl, blankLeft, blankRight,
    ⟨lead, hlead, digits, rfl, spelled⟩, ⟨lead', hlead', digits', rfl, spelled'⟩⟩ := h
  exact ⟨n, ⟨left, lead, digits, right, rfl, blankLeft, blankRight, hlead, spelled⟩,
    ⟨left, lead', digits', right, rfl, blankLeft, blankRight, within hlead', spelled'⟩⟩

theorem Respelled.hex {field field' : Text} (h : Respelled [[]] field field')
    (hex : ∀ c ∈ field, isHexDigit c = true) :
    field' ≠ [] ∧ ∀ c ∈ field', isHexDigit c = true := by
  obtain ⟨left, address, address', right, n, rfl, rfl, blankLeft, blankRight, -,
    ⟨lead, hlead, digits, rfl, nonempty, hex', -⟩⟩ := h
  obtain rfl := List.mem_singleton.mp hlead
  have bare {part : Text} (blank : ∀ c ∈ part, isBlank c = true)
      (own : ∀ c ∈ part, isHexDigit c = true) : part = [] := by
    rw [List.eq_nil_iff_forall_not_mem]
    intro c hc
    have solid := isBlank_of_isHexDigit (own c hc)
    rw [blank c hc] at solid
    cases solid
  obtain rfl := bare blankLeft fun c hc => hex c (by simp [hc])
  obtain rfl := bare blankRight fun c hc => hex c (by simp [hc])
  simp only [List.nil_append, List.append_nil]
  exact ⟨nonempty, hex'⟩

end Text

namespace Extractor

def key? (e : Extractor) (line : Text) : Option Key :=
  (e.extract? line).map Prod.fst

/-- An extractor finds a field in a line when the field, between what is before it and what comes
after it, is the text that has to be an address. -/
def FieldAt : Extractor → Text → Text → Text → Prop
  | .bare, before, _, after => before = [] ∧ after = []
  | .delimited opening closing, before, field, after =>
    ∃ start rest,
      Text.splitFirst? opening (before ++ (field ++ after)) = some (start, field ++ after) ∧
      Text.splitFirst? closing (field ++ after) = some (field, rest)
  | .pattern regex, before, field, after =>
    regex.firstGroup? (before ++ (field ++ after)) = some (field, after)
  | .addressed _, before, field, after =>
    before = [] ∧ ∃ rest, Text.splitFirst? [':'] (field ++ after) = some (field, rest)
  | .custom _, _, _, _ => False

def excludes : Extractor → Text → Bool
  | .addressed excluded, line => isExcluded excluded line
  | _, _ => false

/-- A line is respelled when the address in its field is. -/
inductive Respelled (e : Extractor) (leads : List Text) : Text → Text → Prop
  | same (line : Text) : Respelled e leads line line
  | field {before field field' after : Text} : e.FieldAt before field after →
      Text.Respelled leads field field' →
      Respelled e leads (before ++ (field ++ after)) (before ++ (field' ++ after))

/-- Extractors that find a field again once it is respelled with certain leads: with all of them,
unless a pattern takes digits alone. -/
inductive Steady : List Text → Extractor → Prop
  | bare : Steady Text.leads .bare
  | delimited (opening : Text) {closing : Char} : Text.isForeign closing = true →
      Steady Text.leads (.delimited opening [closing])
  | pattern (x : Char) (letters : Text) : x ∉ letters → Text.isBlank x = false →
      Text.isHexDigit x = false → Steady [[]] (.pattern (Pattern.fieldRegex (x :: letters)))
  | addressed {excluded : Option Text} :
      (∀ text ∈ excluded, ∃ c letters, text = c :: letters ∧ Text.isForeign c = true) →
      Steady Text.leads (.addressed excluded)

variable {e : Extractor} {leads : List Text} {before field field' after line line' : Text}

theorem map_fst_keyed? (address text : Text) :
    (keyed? address text).map Prod.fst = Key.parse? address := by
  rw [keyed?, Option.map_map]
  exact Option.map_id'

theorem FieldAt.key?_eq (h : e.FieldAt before field after) :
    e.key? (before ++ (field ++ after)) =
      if e.excludes (before ++ (field ++ after)) then none else Key.parse? field := by
  cases e with
  | bare =>
    obtain ⟨rfl, rfl⟩ := h
    rw [key?, extract?, map_fst_keyed?]
    simp [excludes]
  | delimited opening closing =>
    obtain ⟨start, rest, opened, closed⟩ := h
    rw [key?, extract?, between?, opened]
    simp only [closed, Option.map_some, Option.bind_some, map_fst_keyed?]
    rfl
  | pattern regex =>
    rw [FieldAt] at h
    rw [key?, extract?, h, Option.bind_some, map_fst_keyed?]
    rfl
  | addressed excluded =>
    obtain ⟨rfl, rest, split⟩ := h
    rw [List.nil_append, key?, extract?, excludes]
    split
    · rfl
    · rw [split, Option.bind_some, map_fst_keyed?]
  | custom read => exact h.elim

theorem Steady.leads_subset (h : Steady leads e) : leads ⊆ Text.leads := by
  cases h <;> decide

theorem Steady.fieldAt (h : Steady leads e) (found : e.FieldAt before field after)
    (respelled : Text.Respelled leads field field') : e.FieldAt before field' after := by
  obtain ⟨n, -, denotes'⟩ := respelled.denotes h.leads_subset
  cases h with
  | bare => exact found
  | delimited opening foreign =>
    obtain ⟨start, rest, opened, closed⟩ := found
    have front : before = start ++ opening := by
      have whole := (Text.splitFirst?_eq_some_iff.mp opened).1
      rw [← List.append_assoc start] at whole
      exact List.append_cancel_right whole
    have absent := denotes'.not_mem foreign
    refine ⟨start, rest, ?_, Text.splitFirst?_singleton_append closed absent⟩
    rw [front, List.append_assoc]
    exact Text.splitFirst?_append opened (field' ++ after)
  | pattern x letters once solid noDigit =>
    rw [FieldAt, Pattern.firstGroup?_fieldRegex_eq_some_iff] at found ⊢
    obtain ⟨start, blanks, whole, at'⟩ := found
    obtain ⟨nonempty, hex⟩ := respelled.hex at'.hex
    have front : before = start ++ (x :: letters ++ blanks) := by
      simp only [← List.append_assoc] at whole ⊢
      exact List.append_cancel_right (List.append_cancel_right whole)
    refine ⟨start, blanks, ?_, at'.respell once solid noDigit nonempty hex⟩
    rw [front]
    simp only [List.append_assoc]
  | addressed =>
    obtain ⟨none, rest, split⟩ := found
    exact ⟨none, rest, Text.splitFirst?_singleton_append split (denotes'.not_mem (by decide))⟩

theorem Steady.excludes_eq (h : Steady leads e) (found : e.FieldAt before field after)
    (respelled : Text.Respelled leads field field') :
    e.excludes (before ++ (field' ++ after)) = e.excludes (before ++ (field ++ after)) := by
  obtain ⟨n, denotes, denotes'⟩ := respelled.denotes h.leads_subset
  cases h with
  | bare => rfl
  | delimited => rfl
  | pattern => rfl
  | @addressed excluded begins =>
    obtain ⟨rfl, -⟩ := found
    cases excluded with
    | none => rfl
    | some text =>
      obtain ⟨c, letters, rfl, foreign⟩ := begins text rfl
      rw [Bool.eq_iff_iff]
      simp only [excludes, isExcluded, List.nil_append, Text.occursIn_iff_isInfix,
        Text.cons_infix_append_iff (denotes.not_mem foreign),
        Text.cons_infix_append_iff (denotes'.not_mem foreign)]

theorem Steady.key?_eq (h : Steady leads e) (respelled : e.Respelled leads line line') :
    e.key? line' = e.key? line := by
  cases respelled with
  | same => rfl
  | field found respelled =>
    obtain ⟨n, denotes, denotes'⟩ := respelled.denotes h.leads_subset
    rw [(h.fieldAt found respelled).key?_eq, found.key?_eq, h.excludes_eq found respelled,
      Key.parse?_eq_some_iff.mpr ⟨n, denotes, rfl⟩, Key.parse?_eq_some_iff.mpr ⟨n, denotes', rfl⟩]

theorem Respelled.occursIn_eq (h : e.Respelled leads line line') (within : leads ⊆ Text.leads)
    {marker : Text} (foreign : ∀ c ∈ marker, Text.isForeign c = true) :
    Text.occursIn marker line' = Text.occursIn marker line := by
  cases h with
  | same => rfl
  | field found respelled =>
    obtain ⟨n, denotes, denotes'⟩ := respelled.denotes within
    rw [Bool.eq_iff_iff, Text.occursIn_iff_isInfix, Text.occursIn_iff_isInfix,
      Text.infix_append_append_iff denotes.ne_nil fun c hc => denotes.not_mem (foreign c hc),
      Text.infix_append_append_iff denotes'.ne_nil fun c hc => denotes'.not_mem (foreign c hc)]

end Extractor

end Lockstep
