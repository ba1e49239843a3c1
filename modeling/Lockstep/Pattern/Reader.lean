import Lockstep.Pattern.Syntax
import Lockstep.Text.Basic
import Lockstep.Unicode.Property

set_option autoImplicit false
set_option relaxedAutoImplicit false

/-!
Reading of the texts of patterns into their syntax, from single escapes up to groups.

Blanks and comments in patterns. Where the verbose option holds, blanks mean nothing and a number sign
starts a comment that ends with its line; elsewhere every character counts.
-/

namespace Lockstep.Pattern

def skipBlanks (inComment : Bool) : Text → Text
  | [] => []
  | c :: rest =>
    if inComment then skipBlanks (c != '\n') rest
    else if Text.isBlank c then skipBlanks false rest
    else if c = '#' then skipBlanks true rest
    else c :: rest

/-- Skips what means nothing, which is something only where the verbose option holds. -/
def skip (verbose : Bool) (t : Text) : Text :=
  if verbose then skipBlanks false t else t

/-- Takes at most `limit` characters of a kind, with what means nothing skipped after each. -/
def takeSpaced (verbose : Bool) (p : Char → Bool) : Nat → Text → Text × Text
  | 0, t => ([], t)
  | _ + 1, [] => ([], [])
  | limit + 1, c :: rest =>
    if p c then
      let (taken, rest) := takeSpaced verbose p limit (skip verbose rest)
      (c :: taken, rest)
    else ([], c :: rest)

def takeAllSpaced (verbose : Bool) (p : Char → Bool) (t : Text) : Text × Text :=
  takeSpaced verbose p t.length t

/-- The character after the next one. Where the verbose option holds, blanks and a first number sign
do not count, and if nothing else follows the very next character is meant. -/
def peek? (verbose : Bool) (t : Text) : Option Char :=
  let following := t.drop 1
  if verbose then
    let visible := match following.dropWhile Text.isBlank with
      | '#' :: rest => rest.dropWhile Text.isBlank
      | rest => rest
    (visible.head?).or following.head?
  else following.head?

/-!
Escapes in patterns: characters by code, named classes, shorthands, assertions, and marks of
punctuation that stand for themselves.
-/

def isMeta (c : Char) : Bool :=
  ['\\', '.', '+', '*', '?', '(', ')', '|', '[', ']', '\x7b', '\x7d', '^', '$', '#', '&', '-',
    '~'].contains c

/-- Characters that an escape leaves as they are: marks with a meaning and, within ASCII, whatever is
neither a letter nor a digit nor an angle bracket. -/
def isEscapable (c : Char) : Bool :=
  isMeta c || c.toNat < 128 && !c.isAlphanum && c != '<' && c != '>'

def hexNumber (digits : Text) : Nat :=
  digits.foldl (fun n c => n * 16 + (Text.hexValue? c).getD 0) 0

def charOfCode? (n : Nat) : Option Char :=
  if n < 0xD800 ∨ 0xDFFF < n ∧ n ≤ CharSet.maxCode then some (Char.ofNat n) else none

/-- Reads a character by its code, after the letter that says how many digits there are. A code may
stand between braces with any number of digits. -/
def readHex? (verbose : Bool) (letter : Char) (t : Text) : Option (Ast × Text) :=
  let length := if letter = 'x' then 2 else if letter = 'u' then 4 else 8
  match skip verbose t with
  | '\x7b' :: rest =>
    match takeAllSpaced verbose Text.isHexDigit (skip verbose rest) with
    | (d :: digits, '\x7d' :: rest) =>
      (charOfCode? (hexNumber (d :: digits))).map fun c => (.literal c false, skip verbose rest)
    | _ => none
  | t =>
    let (digits, rest) := takeSpaced verbose Text.isHexDigit length t
    if digits.length = length then
      (charOfCode? (hexNumber digits)).map fun c => (.literal c (letter = 'x'), rest)
    else none

def className (t : Text) : ClassName :=
  match Text.splitFirst? ['!', '='] t with
  | some (property, rest) => .value property rest
  | none =>
    match Text.splitFirst? [':'] t with
    | some (property, rest) => .value property rest
    | none =>
      match Text.splitFirst? ['='] t with
      | some (property, rest) => .value property rest
      | none => .simple t

def readNamed? (verbose : Bool) (negated : Bool) (t : Text) : Option (Ast × Text) :=
  match skip verbose t with
  | '\x7b' :: rest =>
    match takeAllSpaced verbose (· != '\x7d') (skip verbose rest) with
    | (name, '\x7d' :: rest) => some (.named negated (className name), rest)
    | _ => none
  | c :: rest =>
    if c = '\\' then none else some (.named negated (.simple [c]), skip verbose rest)
  | [] => none

def boundaryNamed? (name : Text) : Option Assertion :=
  if name = "start".toList then some .wordStart
  else if name = "end".toList then some .wordEnd
  else if name = "start-half".toList then some .wordStartHalf
  else if name = "end-half".toList then some .wordEndHalf
  else none

/-- Reads what may follow the letter of a word boundary: a name between braces. Braces that start
otherwise are left to be a repetition. -/
def readBoundary? (verbose : Bool) (t : Text) : Option (Ast × Text) :=
  let isNameChar := fun (c : Char) => c.isAlpha || c = '-'
  match t with
  | '\x7b' :: rest =>
    match skip verbose rest with
    | [] => none
    | c :: inside =>
      if isNameChar c then
        match takeAllSpaced verbose isNameChar (c :: inside) with
        | (name, '\x7d' :: rest) => (boundaryNamed? name).map fun kind => (.assertion kind, rest)
        | _ => none
      else some (.assertion .wordBoundary, t)
  | _ => some (.assertion .wordBoundary, t)

def readEscape? (verbose : Bool) : Text → Option (Ast × Text)
  | [] => none
  | c :: rest =>
    if isEscapable c then some (.literal c false, rest)
    else match c with
      | 'x' | 'u' | 'U' => readHex? verbose c rest
      | 'p' => readNamed? verbose false rest
      | 'P' => readNamed? verbose true rest
      | 'd' => some (.shorthand false .digit, rest)
      | 'D' => some (.shorthand true .digit, rest)
      | 's' => some (.shorthand false .blank, rest)
      | 'S' => some (.shorthand true .blank, rest)
      | 'w' => some (.shorthand false .word, rest)
      | 'W' => some (.shorthand true .word, rest)
      | 'a' => some (.literal '\x07' false, rest)
      | 'f' => some (.literal '\x0c' false, rest)
      | 't' => some (.literal '\t' false, rest)
      | 'n' => some (.literal '\n' false, rest)
      | 'r' => some (.literal '\r' false, rest)
      | 'v' => some (.literal '\x0b' false, rest)
      | 'A' => some (.assertion .startText, rest)
      | 'z' => some (.assertion .endText, rest)
      | 'b' => readBoundary? verbose rest
      | 'B' => some (.assertion .notWordBoundary, rest)
      | '<' => some (.assertion .wordStart, rest)
      | '>' => some (.assertion .wordEnd, rest)
      | _ => none

/-!
Bracketed classes in patterns: characters, ranges, named classes and nested brackets side by side, and
operations between such rows, which bind to the left.
-/

def asciiClass? (name : Text) : Option CharSet :=
  if name = "alnum".toList then some [⟨0x30, 0x39⟩, ⟨0x41, 0x5A⟩, ⟨0x61, 0x7A⟩]
  else if name = "alpha".toList then some [⟨0x41, 0x5A⟩, ⟨0x61, 0x7A⟩]
  else if name = "ascii".toList then some [⟨0, 0x7F⟩]
  else if name = "blank".toList then some [⟨0x9, 0x9⟩, ⟨0x20, 0x20⟩]
  else if name = "cntrl".toList then some [⟨0, 0x1F⟩, ⟨0x7F, 0x7F⟩]
  else if name = "digit".toList then some [⟨0x30, 0x39⟩]
  else if name = "graph".toList then some [⟨0x21, 0x7E⟩]
  else if name = "lower".toList then some [⟨0x61, 0x7A⟩]
  else if name = "print".toList then some [⟨0x20, 0x7E⟩]
  else if name = "punct".toList then
    some [⟨0x21, 0x2F⟩, ⟨0x3A, 0x40⟩, ⟨0x5B, 0x60⟩, ⟨0x7B, 0x7E⟩]
  else if name = "space".toList then some [⟨0x9, 0xD⟩, ⟨0x20, 0x20⟩]
  else if name = "upper".toList then some [⟨0x41, 0x5A⟩]
  else if name = "word".toList then
    some [⟨0x30, 0x39⟩, ⟨0x41, 0x5A⟩, ⟨0x5F, 0x5F⟩, ⟨0x61, 0x7A⟩]
  else if name = "xdigit".toList then some [⟨0x30, 0x39⟩, ⟨0x41, 0x46⟩, ⟨0x61, 0x66⟩]
  else none

/-- Reads a class of ASCII, after its bracket. Anything but a known name is no such class. -/
def readAscii? : Text → Option (ClassSet × Text)
  | ':' :: rest =>
    let (negated, rest) := match rest with
      | '^' :: rest => (true, rest)
      | rest => (false, rest)
    match rest.dropWhile (· != ':') with
    | ':' :: ']' :: after =>
      (asciiClass? (rest.takeWhile (· != ':'))).map fun chars => (.ascii negated chars, after)
    | _ => none
  | _ => none

/-- One pair of brackets while it is read: the operation before the current row, if any, and the row,
last item first. -/
structure Bracket where
  negated : Bool
  left : Option (ClassOperator × ClassSet)
  items : List ClassSet

namespace Bracket

def push (b : Bracket) (item : ClassSet) : Bracket :=
  { b with items := item :: b.items }

def set (b : Bracket) : ClassSet :=
  let row := ClassSet.ofItems b.items.reverse
  match b.left with
  | none => row
  | some (op, left) => .operation op left row

def operate (b : Bracket) (op : ClassOperator) : Bracket :=
  ⟨b.negated, some (op, b.set), []⟩

end Bracket

/-- Reads the start of a bracketed class, after its bracket: a negation, hyphens, and a closing bracket
where nothing else stands before it. -/
def openBracket? (verbose : Bool) (t : Text) : Option (Bracket × Text) :=
  let (negated, t) := match skip verbose t with
    | '^' :: rest => (true, skip verbose rest)
    | t => (false, t)
  match takeAllSpaced verbose (· = '-') t with
  | (_, []) => none
  | ([], ']' :: rest) =>
    match skip verbose rest with
    | [] => none
    | rest => some (⟨negated, none, [.literal ']']⟩, rest)
  | (hyphens, rest) => some (⟨negated, none, hyphens.map .literal⟩, rest)

def readMember? (verbose : Bool) : Text → Option (Ast × Text)
  | [] => none
  | '\\' :: rest => readEscape? verbose rest
  | c :: rest => some (.literal c false, rest)

/-- Reads one member of a row or a range of characters. A hyphen before a closing bracket or before
another hyphen makes no range. -/
def readRange? (verbose : Bool) (t : Text) : Option (ClassSet × Text) :=
  match readMember? verbose t with
  | none => none
  | some (member, rest) =>
    match skip verbose rest with
    | [] => none
    | '-' :: rest =>
      let next := peek? verbose ('-' :: rest)
      if next = some ']' ∨ next = some '-' then
        member.toClassSet?.map fun item => (item, '-' :: rest)
      else
        match skip verbose rest with
        | [] => none
        | rest =>
          match member, readMember? verbose rest with
          | .literal first _, some (.literal last _, rest) =>
            if first ≤ last then some (.range first last, rest) else none
          | _, _ => none
    | rest => member.toClassSet?.map fun item => (item, rest)

/-- Reads bracketed classes to the end of the outermost; `outer` holds those around the current one.
Every turn takes a character, so the length of the text bounds the turns. -/
def readBrackets? (verbose : Bool) : Nat → Bracket → List Bracket → Text → Option (Ast × Text)
  | 0, _, _, _ => none
  | turns + 1, current, outer, t =>
    match skip verbose t with
    | [] => none
    | '[' :: rest =>
      match readAscii? rest with
      | some (item, rest) => readBrackets? verbose turns (current.push item) outer rest
      | none =>
        match openBracket? verbose rest with
        | none => none
        | some (inner, rest) => readBrackets? verbose turns inner (current :: outer) rest
    | ']' :: rest =>
      match outer with
      | [] => some (.bracketed current.negated current.set, rest)
      | parent :: outer =>
        readBrackets? verbose turns (parent.push (.bracketed current.negated current.set)) outer rest
    | '&' :: '&' :: rest => readBrackets? verbose turns (current.operate .intersection) outer rest
    | '-' :: '-' :: rest => readBrackets? verbose turns (current.operate .difference) outer rest
    | '~' :: '~' :: rest =>
      readBrackets? verbose turns (current.operate .symmetricDifference) outer rest
    | t =>
      match readRange? verbose t with
      | none => none
      | some (item, rest) => readBrackets? verbose turns (current.push item) outer rest

def readBracket? (verbose : Bool) (t : Text) : Option (Ast × Text) :=
  match openBracket? verbose t with
  | none => none
  | some (bracket, rest) => readBrackets? verbose (rest.length + 1) bracket [] rest

/-!
Reading of patterns. The text is read from left to right with the open groups on a stack; every turn
takes at least one character.
-/

def maxDepth : Nat := 250

def maxCount : Nat := 4294967295

/-- A group while it is read: finished alternatives and the parts of the current one, last first. -/
structure Level where
  branches : List Ast
  items : List Ast

namespace Level

def empty : Level := ⟨[], []⟩

def push (l : Level) (a : Ast) : Level :=
  { l with items := a :: l.items }

def nextBranch (l : Level) : Level :=
  ⟨.ofItems l.items.reverse :: l.branches, []⟩

def ast (l : Level) : Ast :=
  match l.branches with
  | [] => .ofItems l.items.reverse
  | branches => .alternation (.ofItems l.items.reverse :: branches).reverse

end Level

/-- A group around the current one: what was read before it, its kind, and whether the verbose option
held there. -/
structure Enclosing where
  level : Level
  kind : GroupKind
  verbose : Bool

structure Progress where
  level : Level
  outer : List Enclosing
  verbose : Bool
  captures : Nat
  names : List Text

namespace Progress

def push (s : Progress) (a : Ast) : Progress :=
  { s with level := s.level.push a }

def openGroup (s : Progress) (kind : GroupKind) (verbose : Bool) : Progress :=
  { s with level := .empty, outer := ⟨s.level, kind, s.verbose⟩ :: s.outer, verbose := verbose }

def openCapture (s : Progress) : Progress :=
  { s.openGroup (.capture (s.captures + 1)) s.verbose with captures := s.captures + 1 }

def closeGroup? (s : Progress) : Option Progress :=
  match s.outer with
  | [] => none
  | e :: outer =>
    some { s with level := e.level.push (.group e.kind s.level.ast), outer, verbose := e.verbose }

def repeatLast? (s : Progress) (least : Nat) (most : Option Nat) (greedy : Bool) :
    Option Progress :=
  match s.level.items with
  | [] => none
  | .empty :: _ => none
  | .flags _ :: _ => none
  | a :: items =>
    some { s with level := { s.level with items := .repetition a least most greedy :: items } }

end Progress

def flagItem? (c : Char) : Option (Option Flag) :=
  match c with
  | '-' => some none
  | 'i' => some (some .ignoreCase)
  | 'm' => some (some .multiLine)
  | 's' => some (some .dotAll)
  | 'U' => some (some .swapGreed)
  | 'u' => some (some .unicode)
  | 'R' => some (some .crlf)
  | 'x' => some (some .verbose)
  | _ => none

/-- Reads options up to a colon or a parenthesis. None is named twice, and after the sign that clears
options there is one; `seen` holds those read, last first. -/
def readFlags? (seen : List (Option Flag)) : Text → Option (List (Option Flag) × Text)
  | [] => none
  | c :: rest =>
    if c = ':' ∨ c = ')' then
      if seen.head? = some none then none else some (seen.reverse, c :: rest)
    else
      match flagItem? c with
      | none => none
      | some item => if seen.contains item then none else readFlags? (item :: seen) rest

def changesOf (value : Bool) : List (Option Flag) → FlagChanges
  | [] => []
  | none :: rest => changesOf false rest
  | some f :: rest => (f, value) :: changesOf value rest

def verboseAfter (changes : FlagChanges) (before : Bool) : Bool :=
  ((changes.find? fun change => change.1 = .verbose).map Prod.snd).getD before

def isNameStart (c : Char) : Bool :=
  c = '_' || Unicode.alphabetic.contains c

private def numerals : CharSet :=
  Unicode.categoryUnion Unicode.Category.numbers

def isNameChar (c : Char) : Bool :=
  c = '_' || c = '.' || c = '[' || c = ']' || Unicode.alphabetic.contains c || numerals.contains c

def readGroupName? (t : Text) : Option (Text × Text) :=
  let name := t.takeWhile (· != '>')
  match name, t.dropWhile (· != '>') with
  | c :: more, _ :: rest =>
    if isNameStart c && more.all isNameChar then some (name, rest) else none
  | _, _ => none

def openNamed? (s : Progress) (t : Text) : Option (Progress × Text) :=
  match readGroupName? t with
  | none => none
  | some (name, rest) =>
    if s.names.contains name then none
    else some ({ s.openCapture with names := name :: s.names }, rest)

/-- Reads what follows an opening parenthesis: a look around, which no pattern may have, a name,
options, or nothing of its own. -/
def readGroup? (s : Progress) (t : Text) : Option (Progress × Text) :=
  match skip s.verbose t with
  | '?' :: '=' :: _ | '?' :: '!' :: _ | '?' :: '<' :: '=' :: _ | '?' :: '<' :: '!' :: _ => none
  | '?' :: 'P' :: '<' :: rest => openNamed? s rest
  | '?' :: '<' :: rest => openNamed? s rest
  | '?' :: rest =>
    match readFlags? [] rest with
    | some (items, ':' :: rest) =>
      let changes := changesOf true items
      some (s.openGroup (.plain changes) (verboseAfter changes s.verbose), rest)
    | some (item :: items, ')' :: rest) =>
      let changes := changesOf true (item :: items)
      some ({ s.push (.flags changes) with verbose := verboseAfter changes s.verbose }, rest)
    | _ => none
  | t => some (s.openCapture, t)

def readCount? (verbose : Bool) (t : Text) : Option Nat × Text :=
  let (digits, rest) := takeAllSpaced verbose Char.isDigit (t.dropWhile Text.isBlank)
  let count := Nat.ofDigitChars 10 digits 0
  let rest := if verbose then rest else rest.dropWhile Text.isBlank
  (if digits.isEmpty || maxCount < count then none else some count, rest)

def readGreed : Text → Bool × Text
  | '?' :: rest => (false, rest)
  | t => (true, t)

/-- Reads a counted repetition, after its brace: a number, a least number, or both bounds. -/
def readCounted? (s : Progress) (t : Text) : Option (Progress × Text) :=
  match readCount? s.verbose (skip s.verbose t) with
  | (some least, '\x7d' :: rest) =>
    let (greedy, rest) := readGreed (skip s.verbose rest)
    (s.repeatLast? least (some least) greedy).map fun s => (s, rest)
  | (some least, ',' :: rest) =>
    match skip s.verbose rest with
    | '\x7d' :: rest =>
      let (greedy, rest) := readGreed (skip s.verbose rest)
      (s.repeatLast? least none greedy).map fun s => (s, rest)
    | rest =>
      match readCount? s.verbose rest with
      | (some most, '\x7d' :: rest) =>
        let (greedy, rest) := readGreed (skip s.verbose rest)
        if least ≤ most then (s.repeatLast? least (some most) greedy).map fun s => (s, rest) else none
      | _ => none
  | _ => none

def readNext? (s : Progress) (c : Char) (rest : Text) : Option (Progress × Text) :=
  match c with
  | '(' => readGroup? s rest
  | ')' => s.closeGroup?.map fun s => (s, rest)
  | '|' => some ({ s with level := s.level.nextBranch }, rest)
  | '[' => (readBracket? s.verbose rest).map fun (a, rest) => (s.push a, rest)
  | '?' =>
    let (greedy, rest) := readGreed rest
    (s.repeatLast? 0 (some 1) greedy).map fun s => (s, rest)
  | '*' =>
    let (greedy, rest) := readGreed rest
    (s.repeatLast? 0 none greedy).map fun s => (s, rest)
  | '+' =>
    let (greedy, rest) := readGreed rest
    (s.repeatLast? 1 none greedy).map fun s => (s, rest)
  | '\x7b' => readCounted? s rest
  | '\\' => (readEscape? s.verbose rest).map fun (a, rest) => (s.push a, rest)
  | '.' => some (s.push .dot, rest)
  | '^' => some (s.push (.assertion .startLine), rest)
  | '$' => some (s.push (.assertion .endLine), rest)
  | c => some (s.push (.literal c false), rest)

def readAll? : Nat → Progress → Text → Option Ast
  | 0, _, _ => none
  | turns + 1, s, t =>
    match skip s.verbose t with
    | [] => if s.outer.isEmpty then some s.level.ast else none
    | c :: rest =>
      match readNext? s c rest with
      | none => none
      | some (s, rest) => readAll? turns s rest

/-- The syntax tree of a pattern, for a well-formed text that is not nested too deeply. -/
def read? (t : Text) : Option Ast :=
  match readAll? (t.length + 1) ⟨.empty, [], false, 0, []⟩ t with
  | some ast => if ast.depth ≤ maxDepth then some ast else none
  | none => none

end Lockstep.Pattern
