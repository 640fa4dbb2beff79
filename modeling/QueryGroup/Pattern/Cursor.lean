import QueryGroup.Pattern.Fault
import QueryGroup.Text.Blank
set_option autoImplicit false

namespace QueryGroup.Pattern

open Text

/-- What a pattern is read with, as its text sets and unsets it. -/
structure Flags where
  anyCase : Bool := false
  /-- Line starts and ends match too, not only those of the text. -/
  lines : Bool := false
  /-- A dot matches a line feed too. -/
  dotAll : Bool := false
  /-- Carriage returns end lines. -/
  returns : Bool := false
  /-- Blanks and comments in the pattern are passed over. -/
  spaced : Bool := false
  /-- Sets, cases and words are those of ASCII. -/
  ascii : Bool := false
  /-- Of repetitions those without a mark try fewer first. -/
  swapped : Bool := false
deriving DecidableEq, Repr

structure Cursor where
  /-- The number of characters before it. -/
  index : Nat
  rest : List Char
deriving Repr

namespace Cursor

def head? (cursor : Cursor) : Option Char := cursor.rest.head?

def atEnd (cursor : Cursor) : Bool := cursor.rest.isEmpty

def next (cursor : Cursor) : Cursor :=
  match cursor.rest with
  | [] => cursor
  | _ :: rest => ⟨cursor.index + 1, rest⟩

def advance : Nat → Cursor → Cursor
  | 0, cursor => cursor
  | count + 1, cursor => cursor.next.advance count

/-- The cursor behind a word, if that stands here. -/
def after? (word : String) (cursor : Cursor) : Option Cursor :=
  if word.toList.isPrefixOf cursor.rest then some (cursor.advance word.length) else none

def skip (kind : Char → Bool) (cursor : Cursor) : Cursor :=
  cursor.advance (cursor.rest.takeWhile kind).length

/-- The length of the blanks and comments at the start of a text; `comment` tells whether
one is open. -/
def gapLength : Bool → List Char → Nat
  | _, [] => 0
  | true, c :: rest => gapLength (c != '\n') rest + 1
  | false, c :: rest =>
      if isBlank c then gapLength false rest + 1
      else if c = '#' then gapLength true rest + 1
      else 0

/-- Passes over blanks and comments where the flags say so. -/
def skipGap (flags : Flags) (cursor : Cursor) : Cursor :=
  if flags.spaced then cursor.advance (gapLength false cursor.rest) else cursor

def nextGap (flags : Flags) (cursor : Cursor) : Cursor := cursor.next.skipGap flags

/-- The characters of a kind that follow one another but for gaps, and the place behind them
and their gaps; `fuel` bounds their number. -/
def readUpTo (flags : Flags) (kind : Char → Bool) : Nat → Cursor → List Char × Cursor
  | 0, cursor => ([], cursor)
  | fuel + 1, cursor =>
      match cursor.head? with
      | none => ([], cursor)
      | some c =>
          if kind c then
            let (characters, stop) := readUpTo flags kind fuel (cursor.nextGap flags)
            (c :: characters, stop)
          else ([], cursor)

def readAll (flags : Flags) (kind : Char → Bool) (cursor : Cursor) : List Char × Cursor :=
  readUpTo flags kind cursor.rest.length cursor

def spanTo (start stop : Cursor) : Span := ⟨start.index, stop.index⟩

def here (cursor : Cursor) : Span := ⟨cursor.index, cursor.index⟩

def character (cursor : Cursor) : Span := cursor.spanTo cursor.next

end Cursor

def blame {α : Type} (reason : Blame) (span : Span) : Except Fault α :=
  .error (.part reason span none)

def blameBeside {α : Type} (reason : Blame) (span earlier : Span) : Except Fault α :=
  .error (.part reason span (some earlier))

end QueryGroup.Pattern
