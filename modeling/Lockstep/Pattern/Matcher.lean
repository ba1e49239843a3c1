import Lockstep.Library
import Lockstep.Pattern.Expr

set_option autoImplicit false
set_option relaxedAutoImplicit false

/-!
Matching of patterns. A matcher turns a row, which tells for every place of a line how well the rest of
the pattern matches from there, into the row for itself in front of that rest. Places are handled from
the end of the line backwards, so that no place is matched twice and a long line takes no longer than
its length and the nesting of repetitions ask for. Of several ways to match, the first in the order of
the pattern is taken.
-/

namespace Lockstep.Pattern

/-- A place in a line: the character before it and the text after it. -/
structure Place where
  before : Option Char
  after : Text
deriving DecidableEq

/-- What the first group has seen, by the text that followed: where it was last entered and left. -/
structure Seen where
  entered : Option Text
  left : Option Text
deriving DecidableEq

/-- For every place of a line, from left to right, what is seen by the best match from there. -/
abbrev Row := List (Option Seen)

/-- Matchers: expressions in which repetitions are spelled out but for loops, and in which only the
first group is remembered. A run is a loop over single characters. -/
inductive Matcher where
  | empty
  | one (chars : CharSet)
  | look (condition : Look)
  | enter
  | leave
  | seq (first second : Matcher)
  | alt (first second : Matcher)
  | run (greedy : Bool) (chars : CharSet)
  | loop (greedy : Bool) (body : Matcher)

namespace Place

def along (before : Option Char) : Text → List Place
  | [] => [⟨before, []⟩]
  | c :: rest => ⟨before, c :: rest⟩ :: along (some c) rest

def isWord (unicode : Bool) (c : Option Char) : Bool :=
  match c with
  | none => false
  | some c =>
    if unicode then Unicode.wordCharacters.contains c
    else c.isAlphanum || c = '_'

def satisfies (p : Place) (l : Look) : Bool :=
  let next := p.after.head?
  match l with
  | .start => p.before.isNone
  | .finish => next.isNone
  | .lineStart => p.before.isNone || p.before = some '\n'
  | .lineFinish => next.isNone || next = some '\n'
  | .crlfStart =>
    p.before.isNone || p.before = some '\n' || (p.before = some '\r' && next != some '\n')
  | .crlfFinish => next.isNone || next = some '\r' || (next = some '\n' && p.before != some '\r')
  | .wordBoundary u => isWord u p.before != isWord u next
  | .notWordBoundary u => isWord u p.before == isWord u next
  | .wordStart u => !isWord u p.before && isWord u next
  | .wordFinish u => isWord u p.before && !isWord u next
  | .notAfterWord u => !isWord u p.before
  | .notBeforeWord u => !isWord u next

def startsIn (p : Place) (chars : CharSet) : Bool :=
  match p.after with
  | [] => false
  | c :: _ => chars.contains c

end Place

namespace Seen

def enterAt (s : Seen) (after : Text) : Seen :=
  { s with entered := s.entered.or (some after) }

def leaveAt (s : Seen) (after : Text) : Seen :=
  { s with left := s.left.or (some after) }

/-- The text of the first group and the text after it, if the group took part in the match. -/
def group? (s : Seen) : Option (Text × Text) :=
  match s.entered, s.left with
  | some entered, some left => some (entered.take (entered.length - left.length), left)
  | _, _ => none

end Seen

def prefer (greedy : Bool) (longer shorter : Option Seen) : Option Seen :=
  if greedy then longer.or shorter else shorter.or longer

namespace Matcher

/-- The row of a loop over single characters, with its value in mid-loop: at each place, a turn of the
loop or the rest of the pattern, whichever greed prefers. -/
def runRow (greedy : Bool) (chars : CharSet) : List Place → Row → Row
  | p :: places, k :: rest =>
    let later := runRow greedy chars places rest
    let turn := if p.startsIn chars then later.head?.join else none
    prefer greedy turn k :: later
  | _, _ => []

/-- The row of a loop in mid-loop, for the row function of its body. A turn that takes no character is
cut there, for it leads back to the same place. -/
def loopRow (greedy : Bool) (body : List Place → Row → Row) : List Place → Row → Row
  | p :: places, k :: rest =>
    let later := loopRow greedy body places rest
    let turn := (body (p :: places) (none :: later)).head?.join
    prefer greedy turn k :: later
  | _, _ => []

/-- The row at the entrance of a loop, where at least one turn is taken. The first turn may take no
character, and then the loop is left. -/
def entranceRow (body : List Place → Row → Row) : List Place → Row → Row → Row
  | p :: places, k :: rest, _ :: later =>
    (body (p :: places) (k :: later)).head?.join :: entranceRow body places rest later
  | _, _, _ => []

def stepRow (chars : CharSet) : List Place → Row → Row
  | p :: places, _ :: rest =>
    (if p.startsIn chars then rest.head?.join else none) :: stepRow chars places rest
  | _, _ => []

def row : Matcher → List Place → Row → Row
  | .empty, _, k => k
  | .one chars, places, k => stepRow chars places k
  | .look l, places, k =>
    List.zipWith (fun p s => if p.satisfies l then s else none) places k
  | .enter, places, k =>
    List.zipWith (fun p s => s.map fun seen => seen.enterAt p.after) places k
  | .leave, places, k =>
    List.zipWith (fun p s => s.map fun seen => seen.leaveAt p.after) places k
  | .seq x y, places, k => x.row places (y.row places k)
  | .alt x y, places, k => List.zipWith Option.or (x.row places k) (y.row places k)
  | .run greedy chars, places, k => stepRow chars places (runRow greedy chars places k)
  | .loop greedy x, places, k => entranceRow x.row places k (loopRow greedy x.row places k)

def search (m : Matcher) (line : Text) : Option Seen :=
  let places := Place.along none line
  ((m.row places (places.map fun _ => some ⟨none, none⟩)).find? Option.isSome).join

end Matcher

namespace Expr

def optional (greedy : Bool) (m : Matcher) : Matcher :=
  if greedy then .alt m .empty else .alt .empty m

def inRow (m : Matcher) : Nat → Matcher
  | 0 => .empty
  | 1 => m
  | n + 2 => .seq m (inRow m (n + 1))

/-- A matcher some number of times, halved up to `depth` times so that the nesting stays low. -/
def times (m : Matcher) : Nat → Nat → Matcher
  | 0, n => inRow m n
  | depth + 1, n =>
    if n ≤ 1 then inRow m n else .seq (times m depth (n / 2)) (times m depth (n - n / 2))

def atMost (greedy : Bool) (m : Matcher) : Nat → Matcher
  | 0 => .empty
  | 1 => optional greedy m
  | n + 2 => optional greedy (.seq m (atMost greedy m (n + 1)))

def onceOrMore (greedy : Bool) : Matcher → Matcher
  | .one chars => .run greedy chars
  | m => .loop greedy m

def andThen : Matcher → Matcher → Matcher
  | .empty, m => m
  | m, .empty => m
  | m, n => .seq m n

def matcher : Expr → Matcher
  | .empty => .empty
  | .one chars => .one chars
  | .look l => .look l
  | .capture index x =>
    if index = 1 then .seq .enter (.seq x.matcher .leave) else x.matcher
  | .repetition x 0 none greedy => optional greedy (onceOrMore greedy x.matcher)
  | .repetition x (n + 1) none greedy =>
    andThen (times x.matcher 20 n) (onceOrMore greedy x.matcher)
  | .repetition x least (some most) greedy =>
    andThen (times x.matcher 20 least) (atMost greedy x.matcher (most - least))
  | .seq x y => .seq x.matcher y.matcher
  | .alt x y => .alt x.matcher y.matcher

end Expr

/-- The regular expression, with its number of groups, whose matches a matcher finds. -/
def Matcher.regex (m : Matcher) (groups : Nat) : Regex where
  groups := groups
  firstGroup? line := (m.search line).bind Seen.group?

/-- The regular expression of a text, which must be well-formed and of bearable size. -/
def compile (source : Text) : Except Text Regex :=
  match (read? source).bind Expr.ofAst? with
  | none => .error "regex parse error:".toList
  | some x =>
    if x.fits then .ok (x.matcher.regex x.groups)
    else
      .error ("Compiled regex exceeds size limit of ".toList ++ Text.decimal sizeLimit
        ++ " bytes.".toList)

end Lockstep.Pattern
