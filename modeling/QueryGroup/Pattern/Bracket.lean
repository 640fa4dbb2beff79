import QueryGroup.Pattern.Escape
set_option autoImplicit false

namespace QueryGroup.Pattern

open Text

def SetOperator.read? : List Char → Option SetOperator
  | '&' :: '&' :: _ => some intersection
  | '-' :: '-' :: _ => some difference
  | '~' :: '~' :: _ => some symmetricDifference
  | _ => none

/-- A list of items in brackets that is not complete yet. -/
structure ItemList where
  /-- The place where it begins. -/
  start : Span
  /-- The latest item first. -/
  items : List SetExpression := []

namespace ItemList

def add (list : ItemList) (item : SetExpression) : ItemList :=
  { list with items := item :: list.items }

def addCharacter (list : ItemList) (cursor : Cursor) (c : Char) : ItemList :=
  list.add (.atom cursor.character (.literal c false))

def expression (list : ItemList) : SetExpression :=
  match list.items.reverse with
  | [] => .empty list.start
  | [item] => item
  | first :: rest =>
      .list ⟨first.span.start, ((rest.getLast?.getD first).span).stop⟩ (first :: rest)

end ItemList

structure OpenSet where
  /-- The opening bracket with what may stand only behind it. -/
  opening : Span
  negated : Bool
  list : ItemList
  /-- The operator before the present list, with what stands to its left. -/
  pending : Option (SetOperator × SetExpression) := none

namespace OpenSet

def add (opened : OpenSet) (item : SetExpression) : OpenSet :=
  { opened with list := opened.list.add item }

def joined (opened : OpenSet) : SetExpression :=
  let right := opened.list.expression
  match opened.pending with
  | none => right
  | some (operator, left) => .operation ⟨left.span.start, right.span.stop⟩ operator left right

def operate (operator : SetOperator) (behind : Cursor) (opened : OpenSet) : OpenSet :=
  { opened with list := ⟨behind.here, []⟩, pending := some (operator, opened.joined) }

def close (stop : Cursor) (opened : OpenSet) : SetExpression :=
  .brackets ⟨opened.opening.start, stop.index⟩ opened.negated opened.joined

def unclosed {α : Type} (opened : OpenSet) : Except Fault α := blame .classUnclosed opened.opening

end OpenSet

def readHyphens (flags : Flags) (start : Cursor) :
    Nat → ItemList → Cursor → Except Fault (ItemList × Cursor)
  | 0, list, cursor => .ok (list, cursor)
  | fuel + 1, list, cursor =>
      if cursor.head? = some '-' then
        let behind := cursor.nextGap flags
        if behind.atEnd then blame .classUnclosed start.here
        else readHyphens flags start fuel (list.addCharacter cursor '-') behind
      else .ok (list, cursor)

/-- Reads the opening bracket of a set with what may stand only there: a caret, hyphens, and
a closing bracket that is an item. -/
def openSet (flags : Flags) (start : Cursor) : Except Fault (OpenSet × Cursor) := do
  let unclosed (cursor : Cursor) : Except Fault Unit :=
    if cursor.atEnd then blame .classUnclosed (start.spanTo cursor) else .ok ()
  let cursor := start.nextGap flags
  unclosed cursor
  let negated := cursor.head? == some '^'
  let cursor := if negated then cursor.nextGap flags else cursor
  unclosed cursor
  let (list, cursor) ← readHyphens flags start cursor.rest.length ⟨cursor.here, []⟩ cursor
  if list.items.isEmpty && cursor.head? == some ']' then
    let behind := cursor.nextGap flags
    unclosed behind
    return (⟨start.spanTo behind, negated, list.addCharacter cursor ']', none⟩, behind)
  return (⟨start.spanTo cursor, negated, list, none⟩, cursor)

/-- A named set such as `[:alpha:]`, if one stands here, and where it ends. -/
def namedSet? (cursor : Cursor) : Option (SetExpression × Cursor) := do
  let inside ← cursor.after? "[:"
  let negated := inside.head? == some '^'
  let inside := if negated then inside.next else inside
  let close := inside.skip (· != ':')
  let set ← CharSet.named? (.ofList (inside.rest.takeWhile (· != ':')))
  let behind ← close.after? ":]"
  return (.named (cursor.spanTo behind) set negated, behind)

def readItem (flags : Flags) (cursor : Cursor) : Except Fault Found :=
  match cursor.head? with
  | some '\\' => readEscape flags cursor
  | some c => .ok ⟨.literal c false, cursor.character, cursor.next⟩
  | none => blame .classUnclosed cursor.here

/-- What was found as a character that ends a range. -/
def Found.rangeEnd (found : Found) : Except Fault (Char × Bool × Span) :=
  match found.atom with
  | .literal c byte => .ok (c, byte, found.span)
  | _ => blame .classRangeBoundary found.span

/-- What was found as an item of its own. Conditions are none. -/
def Found.item (found : Found) : Except Fault SetExpression :=
  match found.atom with
  | .textEdge _ | .wordEdge _ => blame .classEscape found.span
  | atom => .ok (.atom found.span atom)

/-- The character behind a hyphen. Where blanks are passed over they do not count, nor does
the mark of a comment, but what the comment says does. -/
def behindHyphen? (flags : Flags) (cursor : Cursor) : Option Char :=
  if flags.spaced then
    let behind := cursor.next.skip isBlank
    if behind.head? = some '#' then (behind.next.skip isBlank).head? else behind.head?
  else cursor.next.head?

/-- Reads an item or a range. A hyphen before a closing bracket or another hyphen makes no
range. -/
def readRange (flags : Flags) (opened : OpenSet) (cursor : Cursor) :
    Except Fault (SetExpression × Cursor) := do
  let first ← readItem flags cursor
  let cursor := first.cursor.skipGap flags
  if cursor.atEnd then opened.unclosed
  let next := behindHyphen? flags cursor
  if cursor.head? ≠ some '-' ∨ next = some ']' ∨ next = some '-' then
    return (← first.item, cursor)
  let behind := cursor.nextGap flags
  if behind.atEnd then opened.unclosed
  let last ← readItem flags behind
  let low ← first.rangeEnd
  let high ← last.rangeEnd
  let span : Span := ⟨first.span.start, last.span.stop⟩
  if high.1 < low.1 then blame .classRange span
  return (.range span low high, last.cursor)

/-- Reads the rest of a set; `fuel` bounds the number of its items. -/
def readSet (flags : Flags) : Nat → OpenSet → Cursor → Except Fault (SetExpression × Cursor)
  | 0, opened, _ => opened.unclosed
  | fuel + 1, opened, cursor => do
      let cursor := cursor.skipGap flags
      match cursor.rest with
      | [] => opened.unclosed
      | ']' :: _ => return (opened.close cursor.next, cursor.next)
      | '[' :: _ =>
          match namedSet? cursor with
          | some (item, behind) => readSet flags fuel (opened.add item) behind
          | none =>
              let (inner, inside) ← openSet flags cursor
              let (item, behind) ← readSet flags fuel inner inside
              readSet flags fuel (opened.add item) behind
      | rest =>
          match SetOperator.read? rest with
          | some operator =>
              let behind := cursor.advance 2
              readSet flags fuel (opened.operate operator behind) behind
          | none =>
              let (item, behind) ← readRange flags opened cursor
              readSet flags fuel (opened.add item) behind

def readBrackets (flags : Flags) (start : Cursor) : Except Fault (SetExpression × Cursor) := do
  let (opened, cursor) ← openSet flags start
  readSet flags (start.rest.length + 1) opened cursor

end QueryGroup.Pattern
