import QueryGroup.Json.Number
import QueryGroup.Json.Text
set_option autoImplicit false

namespace QueryGroup.Json

inductive Token where
  | openArray
  | closeArray
  | openObject
  | closeObject
  | comma
  | colon
  | null
  | bool (value : Bool)
  /-- Without a value where it is beyond the doubles. -/
  | number (value : Option Number)
  /-- Without a value where half a pair of units stands in it. -/
  | string (value : Option String)
  | stray
deriving Repr

namespace Token

def isGap (c : Char) : Bool := c == ' ' || c == '\t' || c == '\n' || c == '\r'

def after? (word text : List Char) : Option (List Char) :=
  if word.isPrefixOf text then some (text.drop word.length) else none

def scanBare? (text : List Char) : Option (Token × List Char) :=
  match after? nullWord text with
  | some rest => some (.null, rest)
  | none =>
  match after? (boolWord true) text with
  | some rest => some (.bool true, rest)
  | none =>
  match after? (boolWord false) text with
  | some rest => some (.bool false, rest)
  | none =>
  match Numeral.scan? text with
  | some (numeral, rest) => some (.number numeral.number?, rest)
  | none => none

/-- Reads the token that starts with `c`. -/
def scan? (c : Char) (rest : List Char) : Option (Token × List Char) :=
  if c = '[' then some (.openArray, rest)
  else if c = ']' then some (.closeArray, rest)
  else if c = '{' then some (.openObject, rest)
  else if c = '}' then some (.closeObject, rest)
  else if c = ',' then some (.comma, rest)
  else if c = ':' then some (.colon, rest)
  else if c = '"' then
    (scanPieces? rest).map fun read =>
      (.string ((joinPieces? read.1).map String.ofList), read.2)
  else scanBare? (c :: rest)

theorem after?_length {c : Char} {word text rest : List Char}
    (read : after? (c :: word) text = some rest) : rest.length < text.length := by
  unfold after? at read
  split at read
  · cases text with
    | nil => simp at *
    | cons d tail =>
      cases read
      simp only [List.length_cons, List.drop_succ_cons, List.length_drop]
      omega
  · contradiction

theorem scanBare?_length {text rest : List Char} {token : Token}
    (scanned : scanBare? text = some (token, rest)) : rest.length < text.length := by
  unfold scanBare? at scanned
  split at scanned
  · next read => cases scanned; exact after?_length read
  split at scanned
  · next read => cases scanned; exact after?_length read
  split at scanned
  · next read => cases scanned; exact after?_length read
  split at scanned
  · next read => cases scanned; exact Numeral.scan?_length read
  · contradiction

theorem scan?_length {c : Char} {rest after : List Char} {token : Token}
    (scanned : scan? c rest = some (token, after)) : after.length ≤ rest.length := by
  unfold scan? at scanned
  iterate 6
    split at scanned
    · cases scanned; exact Nat.le_refl _
  split at scanned
  · obtain ⟨read, taken, same⟩ := Option.map_eq_some_iff.1 scanned
    cases same
    exact Nat.le_of_lt (scanPieces?_length taken)
  · exact Nat.le_of_lt_succ (scanBare?_length scanned)

/-- The tokens of the text; what follows a place where no token starts is not looked at. -/
def ofChars : List Char → List Token
  | [] => []
  | c :: rest =>
      if isGap c then ofChars rest
      else
        match scanned : scan? c rest with
        | none => [.stray]
        | some (token, after) =>
            have _shorter := Nat.lt_succ_of_le (scan?_length scanned)
            token :: ofChars after
termination_by text => text.length
decreasing_by
  all_goals simp only [List.length_cons] at *
  all_goals omega

end Token

end QueryGroup.Json
