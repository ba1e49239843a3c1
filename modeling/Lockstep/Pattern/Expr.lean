import Lockstep.Pattern.Reader
import Lockstep.Unicode.CaseFolding
import Lockstep.Unicode.Property

set_option autoImplicit false
set_option relaxedAutoImplicit false

/-!
The meaning of the syntax of patterns, and what it costs to match. Options are resolved, classes become
sets of characters, and what is left says which texts match and what takes precedence.
-/

namespace Lockstep.Pattern

/-- Conditions on a place, given by the characters on both sides of it. -/
inductive Look where
  | start
  | finish
  | lineStart
  | lineFinish
  | crlfStart
  | crlfFinish
  | wordBoundary (unicode : Bool)
  | notWordBoundary (unicode : Bool)
  | wordStart (unicode : Bool)
  | wordFinish (unicode : Bool)
  | notAfterWord (unicode : Bool)
  | notBeforeWord (unicode : Bool)
deriving DecidableEq

/-- Regular expressions over characters, with groups that remember what they matched. -/
inductive Expr where
  | empty
  | one (chars : CharSet)
  | look (condition : Look)
  | capture (index : Nat) (sub : Expr)
  | repetition (sub : Expr) (least : Nat) (most : Option Nat) (greedy : Bool)
  | seq (first second : Expr)
  | alt (first second : Expr)

namespace Expr

def isEmptyOnly : Expr → Bool
  | .empty => true
  | .one _ => false
  | .look _ => true
  | .capture _ x => x.isEmptyOnly
  | .repetition x .. => x.isEmptyOnly
  | .seq x y => x.isEmptyOnly && y.isEmptyOnly
  | .alt x y => x.isEmptyOnly && y.isEmptyOnly

def groups : Expr → Nat
  | .empty => 0
  | .one _ => 0
  | .look _ => 0
  | .capture index x => max index x.groups
  | .repetition x .. => x.groups
  | .seq x y => max x.groups y.groups
  | .alt x y => max x.groups y.groups

/-- A repetition in its simplest form: of what is always empty one turn is as good as many, no turn at
all is empty, and exactly one turn is the expression itself. -/
def repeated (x : Expr) (least : Nat) (most : Option Nat) (greedy : Bool) : Expr :=
  let (least, most) :=
    if x.isEmptyOnly then (min least 1, some (min (most.getD 1) 1)) else (least, most)
  if most = some 0 then .empty
  else if least = 1 ∧ most = some 1 then x
  else .repetition x least most greedy

end Expr

structure Options where
  ignoreCase : Bool
  multiLine : Bool
  dotAll : Bool
  swapGreed : Bool
  unicode : Bool
  crlf : Bool
deriving DecidableEq

namespace Options

def initial : Options := ⟨false, false, false, false, true, false⟩

def set (o : Options) (f : Flag) (value : Bool) : Options :=
  match f with
  | .ignoreCase => { o with ignoreCase := value }
  | .multiLine => { o with multiLine := value }
  | .dotAll => { o with dotAll := value }
  | .swapGreed => { o with swapGreed := value }
  | .unicode => { o with unicode := value }
  | .crlf => { o with crlf := value }
  | .verbose => o

def change (o : Options) (changes : FlagChanges) : Options :=
  changes.foldl (fun o change => o.set change.1 change.2) o

end Options

namespace ClassSet

/-- Closes a class under case where case is ignored, and then negates it if asked. Without Unicode a
negated class would hold bytes that are no characters, so there is none. -/
def finish? (o : Options) (negated : Bool) (s : CharSet) : Option CharSet :=
  if o.unicode then
    let folded := if o.ignoreCase then Unicode.foldCase s else s
    some (if negated then folded.complement else folded)
  else if negated then none
  else some (if o.ignoreCase then Unicode.foldAsciiCase s else s)

/-- The characters of a shorthand. Without Unicode it is one of ASCII, and its negation is none. -/
def shorthand? (o : Options) (negated : Bool) (kind : Shorthand) : Option CharSet :=
  if o.unicode then
    let chars := match kind with
      | .digit => Unicode.decimalDigits
      | .blank => Text.blanks
      | .word => Unicode.wordCharacters
    some (if negated then chars.complement else chars)
  else if negated then none
  else match kind with
    | .digit => asciiClass? "digit".toList
    | .blank => asciiClass? "space".toList
    | .word => asciiClass? "word".toList

def named? (o : Options) (negated : Bool) (name : ClassName) : Option CharSet :=
  if o.unicode then
    let chars := match name with
      | .simple name => Unicode.classNamed? (String.ofList name)
      | .value property value =>
        Unicode.classOfValue? (String.ofList property) (String.ofList value)
    match chars with
    | some chars => finish? o negated chars
    | none => none
  else none

def combine (op : ClassOperator) (s t : CharSet) : CharSet :=
  match op with
  | .intersection => s.inter t
  | .difference => s.diff t
  | .symmetricDifference => s.symmDiff t

private def folded (o : Options) (s : CharSet) : CharSet :=
  if o.ignoreCase then if o.unicode then Unicode.foldCase s else Unicode.foldAsciiCase s else s

mutual

def chars? (o : Options) : ClassSet → Option CharSet
  | .literal c => if o.unicode || c.toNat < 128 then some (.singleton c) else none
  | .range first last =>
    if o.unicode || last.toNat < 128 then some [⟨first.toNat, last.toNat⟩] else none
  | .ascii negated chars => finish? o negated chars
  | .named negated name => named? o negated name
  | .shorthand negated kind => shorthand? o negated kind
  | .bracketed negated s =>
    match chars? o s with
    | some chars => finish? o negated (.normalize chars)
    | none => none
  | .union items => (charsOfAll? o items).map CharSet.normalize
  | .operation op l r =>
    match chars? o l, chars? o r with
    | some s, some t => some (combine op (folded o (.normalize s)) (folded o (.normalize t)))
    | _, _ => none

def charsOfAll? (o : Options) : List ClassSet → Option (List CharRange)
  | [] => some []
  | s :: rest =>
    match chars? o s, charsOfAll? o rest with
    | some chars, some more => some (chars ++ more)
    | _, _ => none

end

end ClassSet

/-- The expression of a single character, in all its cases where case is ignored. Without Unicode a
byte beyond ASCII is no character. -/
def literal? (o : Options) (c : Char) (asByte : Bool) : Option Expr :=
  if o.unicode then
    some (.one (if o.ignoreCase then Unicode.foldCase (.singleton c) else .singleton c))
  else if asByte && 127 < c.toNat then none
  else some (.one (if o.ignoreCase then Unicode.foldAsciiCase (.singleton c) else .singleton c))

/-- The expression of a dot: any character, or any that ends no line. Without Unicode it would match
bytes that are no characters, so there is none. -/
def dot? (o : Options) : Option Expr :=
  if !o.unicode then none
  else if o.dotAll then some (.one .full)
  else if o.crlf then some (.one (CharSet.complement [⟨10, 10⟩, ⟨13, 13⟩]))
  else some (.one (CharSet.complement [⟨10, 10⟩]))

def lookOf (o : Options) : Assertion → Look
  | .startLine => if o.multiLine then if o.crlf then .crlfStart else .lineStart else .start
  | .endLine => if o.multiLine then if o.crlf then .crlfFinish else .lineFinish else .finish
  | .startText => .start
  | .endText => .finish
  | .wordBoundary => .wordBoundary o.unicode
  | .notWordBoundary => .notWordBoundary o.unicode
  | .wordStart => .wordStart o.unicode
  | .wordEnd => .wordFinish o.unicode
  | .wordStartHalf => .notAfterWord o.unicode
  | .wordEndHalf => .notBeforeWord o.unicode

mutual

/-- The expression of a part of a pattern with the options after it. Options that a group sets end
with the group. -/
def build? (o : Options) : Ast → Option (Expr × Options)
  | .empty => some (.empty, o)
  | .flags changes => some (.empty, o.change changes)
  | .literal c asByte => (literal? o c asByte).map fun x => (x, o)
  | .dot => (dot? o).map fun x => (x, o)
  | .assertion kind => some (.look (lookOf o kind), o)
  | .named negated name => (ClassSet.named? o negated name).map fun s => (.one s, o)
  | .shorthand negated kind => (ClassSet.shorthand? o negated kind).map fun s => (.one s, o)
  | .bracketed negated s =>
    match s.chars? o with
    | some chars => (ClassSet.finish? o negated (.normalize chars)).map fun s => (.one s, o)
    | none => none
  | .repetition sub least most greedy =>
    match build? o sub with
    | some (x, o) => some (x.repeated least most (greedy != o.swapGreed), o)
    | none => none
  | .group (.capture index) sub => (build? o sub).map fun (x, _) => (.capture index x, o)
  | .group (.plain changes) sub => (build? (o.change changes) sub).map fun (x, _) => (x, o)
  | .concat items => buildAll? o items
  | .alternation branches => buildAny? o branches

def buildAll? (o : Options) : List Ast → Option (Expr × Options)
  | [] => some (.empty, o)
  | [a] => build? o a
  | a :: rest =>
    match build? o a with
    | some (x, o) => (buildAll? o rest).map fun (y, o) => (.seq x y, o)
    | none => none

def buildAny? (o : Options) : List Ast → Option (Expr × Options)
  | [] => some (.empty, o)
  | [a] => build? o a
  | a :: rest =>
    match build? o a with
    | some (x, o) => (buildAny? o rest).map fun (y, o) => (.alt x y, o)
    | none => none

end

def Expr.ofAst? (a : Ast) : Option Expr :=
  (build? .initial a).map Prod.fst

/-!
The size of patterns. A pattern is measured by the automaton over bytes that recognises it, in which
counted repetitions are spelled out; one whose automaton would not fit the limit is refused.
-/

def sizeLimit : Nat := 10 * 1024 * 1024

def stateSize : Nat := 32

/-- A sequence of byte ranges, which stands for the characters with these bytes in UTF-8. -/
abbrev ByteRanges := List (Nat × Nat)

/-- The byte ranges of code points that agree in all bytes but those that run through all values. -/
private def encodeRange (first last : Nat) : ByteRanges :=
  let tail (shift : Nat) : Nat × Nat := (first >>> shift % 64, last >>> shift % 64)
  if last < 0x80 then [(first, last)]
  else if last < 0x800 then [(first >>> 6, last >>> 6), tail 0]
  else if last < 0x10000 then [(first >>> 12, last >>> 12), tail 6, tail 0]
  else [(first >>> 18, last >>> 18), tail 12, tail 6, tail 0]

/-- Where a range of code points has to be cut: at a change of length, or where bytes before others
differ and these do not run through all their values. -/
private def cut? (first last : Nat) : Option Nat :=
  let lengths := [0x7F, 0x7FF, 0xFFFF].filter fun m => first ≤ m && m < last
  match lengths with
  | m :: _ => some m
  | [] =>
    if last < 0x80 then none
    else
      [6, 12, 18].findSome? fun bits =>
        let size := 1 <<< bits
        if first / size = last / size then none
        else if first % size ≠ 0 then some (first / size * size + size - 1)
        else if last % size ≠ size - 1 then some (last / size * size - 1)
        else none

private def byteRanges : Nat → Nat → Nat → List ByteRanges
  | 0, _, _ => []
  | turns + 1, first, last =>
    match cut? first last with
    | none => [encodeRange first last]
    | some m => byteRanges turns first m ++ byteRanges turns (m + 1) last

private def added : ByteRanges → ByteRanges → Nat
  | a :: as, b :: bs => if a = b then added as bs else (b :: bs).length
  | _, bs => bs.length

private def sharedStates (previous : ByteRanges) : List ByteRanges → Nat
  | [] => 0
  | s :: rest => added previous s + sharedStates s rest

def charsSize (chars : CharSet) : Nat :=
  match chars with
  | [] => 2 * stateSize
  | [r] =>
    if r.first = r.last then (encodeRange r.first r.last).length * stateSize
    else if r.last < 0x80 then 2 * stateSize + 8
    else
      let sequences := byteRanges 24 r.first r.last
      (2 + sharedStates [] sequences) * stateSize + 4 * sequences.length
  | _ =>
    if chars.isAscii then 2 * stateSize + 8 * chars.length
    else
      let sequences := chars.flatMap fun r => byteRanges 24 r.first r.last
      (2 + sharedStates [] sequences) * stateSize + 4 * sequences.length

namespace Expr

def isNullable : Expr → Bool
  | .empty => true
  | .one _ => false
  | .look _ => true
  | .capture _ x => x.isNullable
  | .repetition x least .. => least = 0 || x.isNullable
  | .seq x y => x.isNullable && y.isNullable
  | .alt x y => x.isNullable || y.isNullable

def size : Expr → Nat
  | .empty => stateSize
  | .one chars => charsSize chars
  | .look _ => stateSize
  | .capture _ x => x.size + 2 * stateSize
  | .repetition x 0 none _ => x.size + if x.isNullable then 3 * stateSize + 16 else stateSize + 8
  | .repetition x (n + 1) none _ => x.size * (n + 1) + stateSize + 8
  | .repetition x least (some most) _ =>
    if least = most then x.size * least
    else
      x.size * least + (if least = 0 then stateSize else 0) +
        (x.size + stateSize + 8) * (most - least) + stateSize
  | .seq x y => x.size + y.size
  | .alt x (.alt y z) => x.size + (Expr.alt y z).size + 4
  | .alt x y => x.size + y.size + 2 * stateSize + 8

def fits (x : Expr) : Bool :=
  x.size + 8 * stateSize ≤ sizeLimit

end Expr

end Lockstep.Pattern
