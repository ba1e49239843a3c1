import Lockstep.Text.Basic

set_option autoImplicit false
set_option relaxedAutoImplicit false

/-!
The syntax of patterns. A pattern is a regular expression: literals, classes of characters, assertions
about a place, repetitions, groups and alternatives, with options that hold from where they are set to
the end of their group.
-/

namespace Lockstep.Pattern

inductive Flag where
  | ignoreCase
  | multiLine
  | dotAll
  | swapGreed
  | unicode
  | crlf
  | verbose
deriving DecidableEq

abbrev FlagChanges := List (Flag × Bool)

inductive Shorthand where
  | digit
  | blank
  | word
deriving DecidableEq

/-- The ways to name a class: by its own name, or by a property and a value of it. -/
inductive ClassName where
  | simple (name : Text)
  | value (property value : Text)
deriving DecidableEq

inductive ClassOperator where
  | intersection
  | difference
  | symmetricDifference
deriving DecidableEq

inductive ClassSet where
  | literal (c : Char)
  | range (first last : Char)
  | ascii (negated : Bool) (chars : CharSet)
  | named (negated : Bool) (name : ClassName)
  | shorthand (negated : Bool) (kind : Shorthand)
  | bracketed (negated : Bool) (set : ClassSet)
  | union (items : List ClassSet)
  | operation (op : ClassOperator) (left right : ClassSet)

inductive Assertion where
  | startLine
  | endLine
  | startText
  | endText
  | wordBoundary
  | notWordBoundary
  | wordStart
  | wordEnd
  | wordStartHalf
  | wordEndHalf
deriving DecidableEq

/-- What a pair of parentheses does: remember the text matched within, or change options. -/
inductive GroupKind where
  | capture (index : Nat)
  | plain (changes : FlagChanges)
deriving DecidableEq

/-- The syntax tree of a pattern. A literal that is written as a byte of two hexadecimal digits is
marked, because without Unicode it means that byte. -/
inductive Ast where
  | empty
  | flags (changes : FlagChanges)
  | literal (c : Char) (asByte : Bool)
  | dot
  | assertion (kind : Assertion)
  | named (negated : Bool) (name : ClassName)
  | shorthand (negated : Bool) (kind : Shorthand)
  | bracketed (negated : Bool) (set : ClassSet)
  | repetition (sub : Ast) (least : Nat) (most : Option Nat) (greedy : Bool)
  | group (kind : GroupKind) (sub : Ast)
  | concat (items : List Ast)
  | alternation (branches : List Ast)

namespace ClassSet

mutual

def depth : ClassSet → Nat
  | .bracketed _ s => s.depth + 1
  | .union items => if items.isEmpty then 0 else depthOfAll items + 1
  | .operation _ l r => max l.depth r.depth + 1
  | _ => 0

def depthOfAll : List ClassSet → Nat
  | [] => 0
  | s :: rest => max s.depth (depthOfAll rest)

end

def ofItems : List ClassSet → ClassSet
  | [s] => s
  | items => .union items

end ClassSet

namespace Ast

mutual

def depth : Ast → Nat
  | .bracketed _ s => s.depth + 1
  | .repetition sub .. => sub.depth + 1
  | .group _ sub => sub.depth + 1
  | .concat items => depthOfAll items + 1
  | .alternation branches => depthOfAll branches + 1
  | _ => 0

def depthOfAll : List Ast → Nat
  | [] => 0
  | a :: rest => max a.depth (depthOfAll rest)

end

def ofItems : List Ast → Ast
  | [] => .empty
  | [a] => a
  | items => .concat items

/-- The part of a class that an escape between brackets stands for. Assertions have none. -/
def toClassSet? : Ast → Option ClassSet
  | .literal c _ => some (.literal c)
  | .named negated name => some (.named negated name)
  | .shorthand negated kind => some (.shorthand negated kind)
  | _ => none

end Ast

end Lockstep.Pattern
