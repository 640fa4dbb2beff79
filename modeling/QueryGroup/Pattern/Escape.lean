import QueryGroup.Json.Text
import QueryGroup.Pattern.Expression
set_option autoImplicit false

namespace QueryGroup.Pattern

open Json

/-- What was read, where it stood, and where the reading goes on. -/
structure Found where
  atom : Atom
  span : Span
  cursor : Cursor

def isHexDigit (c : Char) : Bool := (hexDigit? c).isSome

def charOfHex? (digits : List Char) : Option Char :=
  (hexNumber? digits).bind fun n =>
    if n < 0xD800 ∨ (0xE000 ≤ n ∧ n < 0x110000) then some (Char.ofNat n) else none

def isEscapable (c : Char) : Bool :=
  c.toNat < 0x80 && !c.isAlphanum && c != '<' && c != '>'

def readDigits (flags : Flags) (start : Cursor) :
    Nat → List Char → Cursor → Except Fault (Char × Cursor)
  | 0, digits, cursor =>
      match charOfHex? digits with
      | some c => .ok (c, cursor)
      | none => blame .hexInvalid (start.spanTo cursor)
  | count + 1, digits, cursor =>
      match cursor.head? with
      | none => blame .escapeEnd cursor.here
      | some c =>
          if isHexDigit c then
            readDigits flags start count (digits ++ [c]) (cursor.nextGap flags)
          else blame .hexDigit cursor.character

def readBraced (flags : Flags) (brace : Cursor) : Except Fault (Char × Cursor) :=
  let (digits, close) := (brace.nextGap flags).readAll flags isHexDigit
  let behind := close.nextGap flags
  match close.head? with
  | none => blame .escapeEnd (brace.spanTo close)
  | some '}' =>
      if digits.isEmpty then blame .hexEmpty (brace.spanTo behind)
      else
        match charOfHex? digits with
        | some c => .ok (c, behind)
        | none => blame .hexInvalid (brace.next.spanTo close)
  | some _ => blame .hexDigit close.character

/-- Reads a character by its number, of `count` digits or between braces. -/
def readHex (flags : Flags) (count : Nat) (cursor : Cursor) : Except Fault (Char × Cursor) :=
  match cursor.head? with
  | none => blame .escapeEnd cursor.here
  | some '{' => readBraced flags cursor
  | some _ => readDigits flags cursor count [] cursor

/-- Reads the name of a property behind a backslash and a letter. -/
def readProperty (flags : Flags) (start cursor : Cursor) : Except Fault Found :=
  match cursor.head? with
  | none => blame .escapeEnd cursor.here
  | some '{' =>
      let (_, close) := (cursor.nextGap flags).readAll flags (· != '}')
      if close.atEnd then blame .escapeEnd close.here
      else .ok ⟨.property, start.spanTo close.next, close.next⟩
  | some '\\' => blame .propertyInvalid cursor.character
  | some _ =>
      let behind := cursor.nextGap flags
      .ok ⟨.property, start.spanTo behind, behind⟩

def edge? (name : String) : Option WordEdge :=
  if name = "start" then some .start
  else if name = "end" then some .finish
  else if name = "start-half" then some .noneBefore
  else if name = "end-half" then some .noneAfter
  else none

/-- Reads what may stand in braces behind an edge of words. Where no name stands there the
braces are left for a repetition. -/
def readEdge (flags : Flags) (start cursor : Cursor) : Except Fault (WordEdge × Cursor) :=
  let inName (c : Char) : Bool := c.isAlpha || c == '-'
  let inside := cursor.nextGap flags
  if cursor.head? ≠ some '{' then .ok (.startOrEnd, cursor)
  else if inside.atEnd then blame .edgeEnd (start.spanTo inside)
  else
    let (name, close) := inside.readAll flags inName
    if name.isEmpty then .ok (.startOrEnd, cursor)
    else if close.head? ≠ some '}' then blame .edgeUnclosed (cursor.spanTo close)
    else
      match edge? (.ofList name) with
      | some edge => .ok (edge, close.next)
      | none => blame .edgeUnknown (inside.spanTo close)

def control? (c : Char) : Option Char :=
  if c = 'a' then some (Char.ofNat 7)
  else if c = 'f' then some (Char.ofNat 12)
  else if c = 't' then some '\t'
  else if c = 'n' then some '\n'
  else if c = 'r' then some '\r'
  else if c = 'v' then some (Char.ofNat 11)
  else none

/-- The set that a letter behind a backslash stands for; a capital stands for all others. -/
def letterSet? (c : Char) : Option Atom :=
  let set? := if c.toLower = 'd' then some CharSet.digit
    else if c.toLower = 's' then some CharSet.blank
    else if c.toLower = 'w' then some CharSet.word
    else none
  set?.map fun set => .letterSet set c.isUpper

def condition? (c : Char) : Option Atom :=
  if c = 'A' then some (.textEdge .textStart)
  else if c = 'z' then some (.textEdge .textEnd)
  else if c = 'B' then some (.wordEdge .neither)
  else if c = '<' then some (.wordEdge .start)
  else if c = '>' then some (.wordEdge .finish)
  else none

def digitCount? (c : Char) : Option Nat :=
  if c = 'x' then some 2 else if c = 'u' then some 4 else if c = 'U' then some 8 else none

def readEscape (flags : Flags) (start : Cursor) : Except Fault Found :=
  let cursor := start.next
  match cursor.head? with
  | none => blame .escapeEnd (start.spanTo cursor)
  | some c =>
      let behind := cursor.next
      let plain (atom : Atom) : Except Fault Found := .ok ⟨atom, start.spanTo behind, behind⟩
      if c.isDigit then blame .backreference (start.spanTo behind)
      else if c = 'p' ∨ c = 'P' then readProperty flags start (cursor.nextGap flags)
      else if c = 'b' then do
        let (edge, rest) ← readEdge flags start behind
        return ⟨.wordEdge edge, start.spanTo rest, rest⟩
      else
        match digitCount? c with
        | some count => do
            let digits := cursor.nextGap flags
            let (c, rest) ← readHex flags count digits
            return ⟨.literal c (count == 2 && digits.head? != some '{'), start.spanTo rest, rest⟩
        | none =>
            match letterSet? c, control? c, condition? c with
            | some set, _, _ => plain set
            | _, some control, _ => plain (.literal control false)
            | _, _, some condition => plain condition
            | none, none, none =>
                if isEscapable c then plain (.literal c false)
                else blame .escapeUnknown (start.spanTo behind)

end QueryGroup.Pattern
