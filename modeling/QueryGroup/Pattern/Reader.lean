import QueryGroup.Pattern.Bracket
import QueryGroup.Text.Alphabetic
set_option autoImplicit false

namespace QueryGroup.Pattern

open Text

/-- Branches and items, the latest first, and the places where the first branch and the
present one begin. -/
structure Level where
  start : Nat
  branchStart : Nat
  branches : List Expression := []
  items : List Expression := []

namespace Level

def startingAt (start : Nat) : Level := { start, branchStart := start }

def add (level : Level) (item : Expression) : Level :=
  { level with items := item :: level.items }

def branch (stop : Nat) (level : Level) : Expression :=
  let span : Span := ⟨level.branchStart, stop⟩
  match level.items.reverse with
  | [] => .empty span
  | [item] => item
  | items => .sequence span items

def startBranch (bar : Cursor) (level : Level) : Level :=
  { level with
    branchStart := bar.next.index
    branches := level.branch bar.index :: level.branches
    items := [] }

def expression (stop : Nat) (level : Level) : Expression :=
  let last := level.branch stop
  match level.branches with
  | [] => last
  | earlier => .choice ⟨level.start, stop⟩ (last :: earlier).reverse

end Level

structure OpenGroup where
  opening : Span
  number : Option Nat
  /-- The flags and the level outside the group. -/
  flags : Flags
  level : Level

structure ReaderState where
  cursor : Cursor
  flags : Flags := {}
  level : Level := .startingAt 0
  groups : List OpenGroup := []
  /-- How many groups have been counted. -/
  counted : Nat := 0
  names : List (List Char × Span) := []

def setFlag? (value : Bool) (flags : Flags) (c : Char) : Option Flags :=
  if c = 'i' then some { flags with anyCase := value }
  else if c = 'm' then some { flags with lines := value }
  else if c = 's' then some { flags with dotAll := value }
  else if c = 'R' then some { flags with returns := value }
  else if c = 'x' then some { flags with spaced := value }
  else if c = 'u' then some { flags with ascii := !value }
  else if c = 'U' then some { flags with swapped := value }
  else none

/-- Reads flags up to a colon or a closing parenthesis. `seen` holds those read so far with
their places, `negated` the place of a hyphen among them. -/
def readFlags (flags : Flags) (negated : Option Span) (seen : List (Char × Span)) :
    Nat → List Char → Except Fault (Flags × List Char)
  | _, [] => .ok (flags, [])
  | index, c :: rest =>
      let span : Span := ⟨index, index + 1⟩
      if c = ':' ∨ c = ')' then
        match seen with
        | ('-', dangling) :: _ => blame .flagDanglingNegation dangling
        | _ => .ok (flags, c :: rest)
      else
        let earlier := (seen.find? fun pair => pair.1 == c).map Prod.snd
        let ended : Bool := rest.isEmpty
        if c = '-' then
          if let some earlier := earlier then blameBeside .flagRepeatedNegation span earlier
          else if ended then blame .flagEnd ⟨index + 1, index + 1⟩
          else readFlags flags (some span) ((c, span) :: seen) (index + 1) rest
        else
          match setFlag? negated.isNone flags c with
          | none => blame .flagUnknown span
          | some changed =>
              if let some earlier := earlier then blameBeside .flagDuplicate span earlier
              else if ended then blame .flagEnd ⟨index + 1, index + 1⟩
              else readFlags changed negated ((c, span) :: seen) (index + 1) rest

def mayName (first : Bool) (c : Char) : Bool :=
  if first then c == '_' || isAlphabetic c
  else c == '_' || c == '.' || c == '[' || c == ']' || isAlphanumeric c

def readName (names : List (List Char × Span)) (start : Cursor) :
    Except Fault (List Char × Cursor) :=
  let name := start.rest.takeWhile (· != '>')
  let close := start.skip (· != '>')
  let bad := (List.range name.length).find? fun i => !(name[i]?.all (mayName (i == 0)))
  match bad with
  | some i => blame .groupNameInvalid ⟨start.index + i, start.index + i + 1⟩
  | none =>
      if close.atEnd then blame .groupNameEnd close.here
      else if name.isEmpty then blame .groupNameEmpty start.here
      else
        match names.find? fun pair => pair.1 == name with
        | some (_, earlier) => blameBeside .groupNameDuplicate (start.spanTo close) earlier
        | none => .ok (name, close.next)

namespace ReaderState

/-- Enters a group; what is read from here on belongs to it. -/
def enter (state : ReaderState) (opening : Span) (number : Option Nat) (flags : Flags)
    (cursor : Cursor) : ReaderState :=
  { state with
    cursor, flags, level := .startingAt cursor.index
    groups := ⟨opening, number, state.flags, state.level⟩ :: state.groups }

def enterCounted (state : ReaderState) (opening : Span) (cursor : Cursor) : ReaderState :=
  let number := state.counted + 1
  { state.enter opening (some number) state.flags cursor with counted := number }

def enterNamed (state : ReaderState) (opening : Span) (start : Cursor) :
    Except Fault ReaderState := do
  let (name, cursor) ← readName state.names start
  return { state.enterCounted opening cursor with
    names := (name, start.spanTo ⟨start.index + name.length, []⟩) :: state.names }

def add (state : ReaderState) (item : Expression) (cursor : Cursor) : ReaderState :=
  { state with cursor, level := state.level.add item }

/-- Reads what follows the question mark of a group: flags for it, or for what follows. -/
def enterFlags (state : ReaderState) (opening : Span) (mark start : Cursor) :
    Except Fault ReaderState := do
  if start.atEnd then blame .groupUnclosed opening
  let (flags, rest) ← readFlags state.flags none [] start.index start.rest
  let cursor := start.advance (start.rest.length - rest.length)
  if cursor.head? = some ')' then
    if cursor.index = start.index then blame .repetitionMissing mark.here
    let setting := Expression.setting ⟨opening.start, cursor.next.index⟩
    return { state.add setting cursor.next with flags }
  return state.enter opening none flags cursor.next

def openGroup (state : ReaderState) : Except Fault ReaderState :=
  let opening := state.cursor.character
  let inside := state.cursor.nextGap state.flags
  let lookAround? := ["?=", "?!", "?<=", "?<!"].findSome? inside.after?
  match lookAround? with
  | some behind => blame .lookAround ⟨opening.start, behind.index⟩
  | none =>
      match (inside.after? "?P<").or (inside.after? "?<") with
      | some start => state.enterNamed opening start
      | none =>
          match inside.after? "?" with
          | some start => state.enterFlags opening inside start
          | none => .ok (state.enterCounted opening inside)

def closeGroup (state : ReaderState) : Except Fault ReaderState :=
  match state.groups with
  | [] => blame .groupUnopened state.cursor.character
  | opened :: outer =>
      let behind := state.cursor.next
      let inner := state.level.expression state.cursor.index
      let group := Expression.group ⟨opened.opening.start, behind.index⟩ opened.number inner
      .ok { state with
        cursor := behind, flags := opened.flags
        level := opened.level.add group, groups := outer }

def repeatable (state : ReaderState) : Except Fault (Expression × Level) :=
  match state.level.items with
  | [] => blame .repetitionMissing state.cursor.here
  | .setting _ :: _ => blame .repetitionMissing state.cursor.here
  | item :: items => .ok (item, { state.level with items })

/-- Repeats an item; the cursor is where a mark may stand. -/
def repeated (state : ReaderState) (item : Expression) (level : Level) (least : Nat)
    (most : Option Nat) (cursor : Cursor) : ReaderState :=
  let marked := cursor.head? == some '?'
  let behind := if marked then cursor.next else cursor
  let span : Span := ⟨item.span.start, behind.index⟩
  { state with
    cursor := behind
    level := level.add (.repetition span state.flags ⟨least, most, marked⟩ item) }

def repeatItem (state : ReaderState) (least : Nat) (most : Option Nat) :
    Except Fault ReaderState := do
  let (item, level) ← state.repeatable
  return state.repeated item level least most state.cursor.next

end ReaderState

def readCount (flags : Flags) (cursor : Cursor) : Except Fault Nat × Cursor :=
  let start := cursor.skip isBlank
  let (digits, stop) := start.readAll flags Char.isDigit
  let count := digits.foldl (fun n c => n * 10 + (c.toNat - '0'.toNat)) 0
  let read : Except Fault Nat :=
    if digits.isEmpty then blame .countEmpty (start.spanTo stop)
    else if count < UInt32.size then .ok count
    else blame .decimalInvalid (start.spanTo stop)
  (read, (stop.readAll flags isBlank).2)

def readCounts (flags : Flags) (start : Cursor) : Except Fault ((Nat × Option Nat) × Cursor) := do
  let unclosed (cursor : Cursor) : Except Fault Unit :=
    if cursor.atEnd then blame .countUnclosed (start.spanTo cursor) else .ok ()
  let inside := start.nextGap flags
  unclosed inside
  let (least, cursor) := readCount flags inside
  unclosed cursor
  if cursor.head? = some ',' then
    let cursor := cursor.nextGap flags
    unclosed cursor
    if cursor.head? = some '}' then return ((← least, none), cursor)
    let least ← least
    let (most, cursor) := readCount flags cursor
    return ((least, some (← most)), cursor)
  let count ← least
  return ((count, some count), cursor)

namespace ReaderState

/-- Repeats an item as often as the braces at the cursor say. -/
def repeatCounted (state : ReaderState) : Except Fault ReaderState := do
  let start := state.cursor
  let (item, level) ← state.repeatable
  let ((least, most), close) ← readCounts state.flags start
  if close.head? ≠ some '}' then blame .countUnclosed (start.spanTo close)
  let state := state.repeated item level least most (close.nextGap state.flags)
  if most.any (· < least) then blame .countInvalid (start.spanTo state.cursor)
  return state

def readAtom (state : ReaderState) (c : Char) : Except Fault Found :=
  let flags := state.flags
  let plain (atom : Atom) : Except Fault Found :=
    .ok ⟨atom, state.cursor.character, state.cursor.next⟩
  if c = '\\' then readEscape flags state.cursor
  else if c = '.' then plain .dot
  else if c = '^' then
    plain (.textEdge (if flags.lines then .lineStart flags.returns else .textStart))
  else if c = '$' then
    plain (.textEdge (if flags.lines then .lineEnd flags.returns else .textEnd))
  else plain (.literal c false)

def step (state : ReaderState) (c : Char) : Except Fault ReaderState :=
  if c = '(' then state.openGroup
  else if c = ')' then state.closeGroup
  else if c = '|' then
    .ok { state with
      cursor := state.cursor.next, level := state.level.startBranch state.cursor }
  else if c = '[' then do
    let (inner, cursor) ← readBrackets state.flags state.cursor
    return state.add (.brackets state.flags inner) cursor
  else if c = '?' then state.repeatItem 0 (some 1)
  else if c = '*' then state.repeatItem 0 none
  else if c = '+' then state.repeatItem 1 none
  else if c = '{' then state.repeatCounted
  else do
    let found ← state.readAtom c
    return state.add (.atom found.span state.flags found.atom) found.cursor

/-- Reads to the end of the text; `fuel` bounds the number of steps. -/
def read : Nat → ReaderState → Except Fault ReaderState
  | 0, state => .ok state
  | fuel + 1, state =>
      let state := { state with cursor := state.cursor.skipGap state.flags }
      match state.cursor.head? with
      | none => .ok state
      | some c => do read fuel (← state.step c)

def finish (state : ReaderState) : Except Fault Expression :=
  match state.groups with
  | opened :: _ => blame .groupUnclosed opened.opening
  | [] => .ok (state.level.expression state.cursor.index)

end ReaderState

def Expression.ofText (text : String) : Except Fault Expression := do
  let chars := text.toList
  let state ← ReaderState.read (chars.length + 1) { cursor := ⟨0, chars⟩ }
  state.finish

end QueryGroup.Pattern
