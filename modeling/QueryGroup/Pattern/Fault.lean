import QueryGroup.Text.Parts
set_option autoImplicit false

namespace QueryGroup.Pattern

open Text

/-- A part of a text, from the number of characters before it to that behind it. -/
structure Span where
  start : Nat
  stop : Nat
deriving DecidableEq, Repr

inductive Blame where
  | classEscape
  | classRange
  | classRangeBoundary
  | classUnclosed
  | decimalEmpty
  | decimalInvalid
  | hexEmpty
  | hexInvalid
  | hexDigit
  | escapeEnd
  | escapeUnknown
  | flagDanglingNegation
  | flagDuplicate
  | flagRepeatedNegation
  | flagEnd
  | flagUnknown
  | groupNameDuplicate
  | groupNameEmpty
  | groupNameInvalid
  | groupNameEnd
  | groupUnclosed
  | groupUnopened
  | countInvalid
  | countEmpty
  | countUnclosed
  | repetitionMissing
  | edgeUnclosed
  | edgeUnknown
  | edgeEnd
  | propertyInvalid
  | backreference
  | lookAround
  /-- Parts are inside one another more often than `greatestDepth`. -/
  | tooDeep
  /-- The letters of other scripts are not at hand for sets, nor are their cases. -/
  | propertyUnknown
  | setUnknown
  | caseUnknown
  /-- Something beyond ASCII where sets hold single bytes. -/
  | beyondAscii
  /-- Bytes could match that make up no characters. -/
  | brokenCharacters
deriving DecidableEq, Repr

def greatestDepth : Nat := 250

def Blame.message : Blame → String
  | classEscape => "invalid escape sequence found in character class"
  | classRange => "invalid character class range, the start must be <= the end"
  | classRangeBoundary => "invalid range boundary, must be a literal"
  | classUnclosed => "unclosed character class"
  | decimalEmpty => "decimal literal empty"
  | decimalInvalid => "decimal literal invalid"
  | hexEmpty => "hexadecimal literal empty"
  | hexInvalid => "hexadecimal literal is not a Unicode scalar value"
  | hexDigit => "invalid hexadecimal digit"
  | escapeEnd => "incomplete escape sequence, reached end of pattern prematurely"
  | escapeUnknown => "unrecognized escape sequence"
  | flagDanglingNegation => "dangling flag negation operator"
  | flagDuplicate => "duplicate flag"
  | flagRepeatedNegation => "flag negation operator repeated"
  | flagEnd => "expected flag but got end of regex"
  | flagUnknown => "unrecognized flag"
  | groupNameDuplicate => "duplicate capture group name"
  | groupNameEmpty => "empty capture group name"
  | groupNameInvalid => "invalid capture group character"
  | groupNameEnd => "unclosed capture group name"
  | groupUnclosed => "unclosed group"
  | groupUnopened => "unopened group"
  | countInvalid => "invalid repetition count range, the start must be <= the end"
  | countEmpty => "repetition quantifier expects a valid decimal"
  | countUnclosed => "unclosed counted repetition"
  | repetitionMissing => "repetition operator missing expression"
  | edgeUnclosed =>
      "special word boundary assertion is either unclosed or contains an invalid character"
  | edgeUnknown =>
      "unrecognized special word boundary assertion, valid choices are: start, end, " ++
        "start-half or end-half"
  | edgeEnd =>
      "found either the beginning of a special word boundary or a bounded repetition on a \\b " ++
        "with an opening brace, but no closing brace"
  | propertyInvalid => "invalid Unicode character class"
  | backreference => "backreferences are not supported"
  | lookAround => "look-around, including look-ahead and look-behind, is not supported"
  | tooDeep =>
      s!"exceed the maximum number of nested parentheses/brackets ({greatestDepth})"
  | propertyUnknown => "Unicode property not found"
  | setUnknown =>
      "Unicode-aware Perl class not found (make sure the unicode-perl feature is enabled)"
  | caseUnknown =>
      "Unicode-aware case insensitivity matching is not available " ++
        "(make sure the unicode-case feature is enabled)"
  | beyondAscii => "Unicode not allowed here"
  | brokenCharacters => "pattern can match invalid UTF-8"

inductive Fault where
  /-- A part of the text is to blame, with an earlier part that it refers to. -/
  | part (blame : Blame) (span : Span) (earlier : Option Span)
  /-- The pattern would take up more than `greatestWeight`. -/
  | size
  /-- Edges of words of all scripts are asked for. -/
  | wordEdges
deriving DecidableEq, Repr

def greatestWeight : Nat := 10 * 1024 * 1024

/-- The line of a place in a text and its column there, both counted from one. -/
def position (text : List Char) (index : Nat) : Nat × Nat :=
  let lines := partsAt '\n' (text.take index)
  (lines.length, (lines.getLast?.getD []).length + 1)

/-- A line of marks under parts of a line, in their order; a part without characters has a
mark too. -/
def underline (column : Nat) : List Span → String
  | [] => ""
  | span :: rest =>
      let width := max 1 (span.stop - span.start)
      .ofList (List.replicate (span.start - column) ' ' ++ List.replicate width '^') ++
        underline (max column span.start + width) rest

/-- The part of a line that a part of the text is, unless it goes beyond the line. -/
def withinLine? (text : List Char) (number : Nat) (span : Span) : Option Span :=
  let (first, start) := position text span.start
  let (last, stop) := position text span.stop
  if first = number ∧ last = number then some ⟨start - 1, stop - 1⟩ else none

def beyondLine? (text : List Char) (span : Span) : Option String :=
  let (first, start) := position text span.start
  let (last, stop) := position text span.stop
  if first = last then none
  else some (s!"on line {first} (column {start}) through line {last} (column {stop - 1})")

/-- A line of the text behind its margin, and the marks under it if a part lies within it. -/
def markedLine (text : List Char) (spans : List Span) (margin : Nat → String) (number : Nat)
    (line : List Char) : List String :=
  let behind := margin number
  let blank : String := .ofList (List.replicate behind.length ' ')
  let marks := spans.filterMap (withinLine? text number)
  (behind ++ .ofList line) :: (if marks.isEmpty then [] else [blank ++ underline 0 marks])

/-- The lines of a text. Each but the last loses a carriage return at its end, and nothing
behind the last line feed is no line. -/
def linesOf (text : List Char) : List (List Char) :=
  let parts := partsAt '\n' text
  let last := parts.getLast?.getD []
  parts.dropLast.map (fun line => if line.getLast? = some '\r' then line.dropLast else line) ++
    if last.isEmpty then [] else [last]

/-- The text with the parts marked. Several lines stand between rules and have numbers. -/
def marked (text : List Char) (spans : List Span) : List String :=
  if '\n' ∈ text then
    let rule : String := .ofList (List.replicate 79 '~')
    let width := (toString (partsAt '\n' text).length).length
    let margin (number : Nat) : String :=
      let digits := toString number
      .ofList (List.replicate (width - digits.length) ' ') ++ digits ++ ": "
    let notes := spans.filterMap (beyondLine? text)
    [rule] ++
      ((linesOf text).zipIdx 1).flatMap (fun (line, number) =>
        markedLine text spans margin number line) ++
      [rule] ++ notes
  else markedLine text spans (fun _ => "    ") 1 text

def Fault.message (text : String) : Fault → String
  | part blame span earlier =>
      "\n".intercalate ("regex parse error:" :: marked text.toList (earlier.toList ++ [span]) ++
        ["error: " ++ blame.message])
  | size => s!"Compiled regex exceeds size limit of {greatestWeight} bytes."
  | wordEdges => "error building NFA"

end QueryGroup.Pattern
