import QueryGroup.Pattern.Basic
import QueryGroup.Pattern.Cursor
set_option autoImplicit false

namespace QueryGroup.Pattern

/-- The smallest parts: characters, escapes, sets and conditions. -/
inductive Atom where
  /-- A character; `byte` if two hexadecimal digits stand for it. -/
  | literal (c : Char) (byte : Bool)
  /-- A set that goes by a letter, or all that is not in it. -/
  | letterSet (set : CharSet) (negated : Bool)
  /-- A property of characters by its name. -/
  | property
  | textEdge (condition : Look)
  | wordEdge (edge : WordEdge)
  | dot

inductive SetOperator where
  | intersection
  | difference
  | symmetricDifference
deriving DecidableEq, Repr

inductive SetExpression where
  /-- A list without items. -/
  | empty (span : Span)
  | atom (span : Span) (atom : Atom)
  | range (span : Span) (low high : Char × Bool × Span)
  /-- A set by its name. -/
  | named (span : Span) (set : CharSet) (negated : Bool)
  | brackets (span : Span) (negated : Bool) (inner : SetExpression)
  /-- Two items or more. -/
  | list (span : Span) (items : List SetExpression)
  | operation (span : Span) (operator : SetOperator) (left right : SetExpression)

structure Count where
  least : Nat
  most : Option Nat
  /-- A mark says that not so many are tried first, but so few. -/
  marked : Bool

inductive Expression where
  /-- A branch without items. -/
  | empty (span : Span)
  /-- Flags for what follows. -/
  | setting (span : Span)
  | atom (span : Span) (flags : Flags) (atom : Atom)
  | brackets (flags : Flags) (inner : SetExpression)
  | repetition (span : Span) (flags : Flags) (count : Count) (inner : Expression)
  /-- A group with its number, if it is counted. -/
  | group (span : Span) (number : Option Nat) (inner : Expression)
  /-- Two items or more. -/
  | sequence (span : Span) (items : List Expression)
  /-- Two branches or more. -/
  | choice (span : Span) (branches : List Expression)

/-- Goes into a part that has others in it, if there is room for one more. -/
def enter (span : Span) (inside : Nat → Option Span) : Nat → Option Span
  | 0 => some span
  | room + 1 => inside room

namespace SetExpression

def span : SetExpression → Span
  | empty span => span
  | atom span _ => span
  | range span _ _ => span
  | named span _ _ => span
  | brackets span _ _ => span
  | list span _ => span
  | operation span _ _ _ => span

mutual

/-- The first part inside more than so many others, as `Expression.tooDeep?` counts them. -/
def tooDeep? : SetExpression → Nat → Option Span
  | brackets span _ inner => enter span inner.tooDeep?
  | list span items => enter span (anyTooDeep? items)
  | operation span _ left right =>
      enter span fun room => (left.tooDeep? room).or (right.tooDeep? room)
  | _ => fun _ => none

def anyTooDeep? : List SetExpression → Nat → Option Span
  | [], _ => none
  | item :: rest, room => (item.tooDeep? room).or (anyTooDeep? rest room)

end

end SetExpression

namespace Expression

def span : Expression → Span
  | empty span => span
  | setting span => span
  | atom span _ _ => span
  | brackets _ inner => inner.span
  | repetition span _ _ _ => span
  | group span _ _ => span
  | sequence span _ => span
  | choice span _ => span

mutual

/-- The first part that is inside more than so many others. Parts count that have others in
them: brackets, lists, operations, repetitions, groups, sequences and choices. -/
def tooDeep? : Expression → Nat → Option Span
  | brackets _ inner => inner.tooDeep?
  | repetition span _ _ inner => enter span inner.tooDeep?
  | group span _ inner => enter span inner.tooDeep?
  | sequence span items => enter span (anyTooDeep? items)
  | choice span branches => enter span (anyTooDeep? branches)
  | _ => fun _ => none

def anyTooDeep? : List Expression → Nat → Option Span
  | [], _ => none
  | item :: rest, room => (item.tooDeep? room).or (anyTooDeep? rest room)

end

end Expression

end QueryGroup.Pattern
