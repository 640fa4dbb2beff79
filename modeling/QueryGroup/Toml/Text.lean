import QueryGroup.Json.Text
set_option autoImplicit false

namespace QueryGroup.Toml

open Json

/-- Characters that a document may not hold, line breaks aside. -/
def isControl (c : Char) : Bool := (c.toNat < 0x20 && c != '\t') || c.toNat == 0x7F

def isSpace (c : Char) : Bool := c == ' ' || c == '\t'

def isLine (text : List Char) : Bool := text.all fun c => !isControl c

/-- A text on several lines, each ended by a line feed that a carriage return may precede. -/
def isLines : List Char → Bool
  | [] => true
  | '\n' :: rest => isLines rest
  | '\r' :: '\n' :: rest => isLines rest
  | c :: rest => !isControl c && isLines rest

/-- The character of that number, if it has one. -/
def charOf? (n : Nat) : Option Char :=
  if n < 0xD800 ∨ (0xE000 ≤ n ∧ n < 0x110000) then some (Char.ofNat n) else none

/-- A character given by `count` digits. -/
def numbered? (count : Nat) (text : List Char) : Option (Char × List Char) :=
  if text.length < count then none
  else ((hexNumber? (text.take count)).bind charOf?).map fun c => (c, text.drop count)

def readEscape? : List Char → Option (Char × List Char)
  | [] => none
  | c :: rest =>
      if c = 'b' then some (Char.ofNat 8, rest)
      else if c = 't' then some ('\t', rest)
      else if c = 'n' then some ('\n', rest)
      else if c = 'f' then some (Char.ofNat 12, rest)
      else if c = 'r' then some ('\r', rest)
      else if c = 'e' then some (Char.ofNat 27, rest)
      else if c = '"' then some ('"', rest)
      else if c = '\\' then some ('\\', rest)
      else if c = 'x' then numbered? 2 rest
      else if c = 'u' then numbered? 4 rest
      else if c = 'U' then numbered? 8 rest
      else none

/-- The text after a backslash at the end of a line, without the blanks and line breaks
that such a backslash takes away. -/
def continued? (text : List Char) : Option (List Char) :=
  let blank (c : Char) : Bool := isSpace c || c == '\n' || c == '\r'
  match text.dropWhile isSpace with
  | '\n' :: rest => some (rest.dropWhile blank)
  | '\r' :: '\n' :: rest => some (rest.dropWhile blank)
  | _ => none

/-- Replaces the escapes of a text; `fuel` bounds its length. -/
def unescape? (lines : Bool) : Nat → List Char → Option (List Char)
  | 0, text => if text.isEmpty then some [] else none
  | _ + 1, [] => some []
  | fuel + 1, '\\' :: rest =>
      match if lines then continued? rest else none with
      | some rest => unescape? lines fuel rest
      | none =>
          match readEscape? rest with
          | some (c, rest) => (unescape? lines fuel rest).map (c :: ·)
          | none => none
  | fuel + 1, c :: rest => (unescape? lines fuel rest).map (c :: ·)

/-- The text up to a closing quote and what follows it. Where backslashes escape, a quote
behind one does not close. -/
def cut? (quote : Char) (escapes : Bool) : List Char → Option (List Char × List Char)
  | [] => none
  | '\\' :: c :: rest =>
      if escapes then (cut? quote escapes rest).map fun parts => ('\\' :: c :: parts.1, parts.2)
      else (cut? quote escapes (c :: rest)).map fun parts => ('\\' :: parts.1, parts.2)
  | c :: rest =>
      if c = quote then some ([], rest)
      else (cut? quote escapes rest).map fun parts => (c :: parts.1, parts.2)

def closeLines (quote : Char) : List Char → List Char × List Char
  | a :: b :: rest =>
      if a = quote then if b = quote then ([a, b], rest) else ([a], b :: rest)
      else ([], a :: b :: rest)
  | [a] => if a = quote then ([a], []) else ([], [a])
  | [] => ([], [])

def cutLines? (quote : Char) (escapes : Bool) : List Char → Option (List Char × List Char)
  | '\\' :: c :: rest =>
      if escapes then
        (cutLines? quote escapes rest).map fun parts => ('\\' :: c :: parts.1, parts.2)
      else (cutLines? quote escapes (c :: rest)).map fun parts => ('\\' :: parts.1, parts.2)
  | a :: b :: c :: rest =>
      if a = quote ∧ b = quote ∧ c = quote then some (closeLines quote rest)
      else (cutLines? quote escapes (b :: c :: rest)).map fun parts => (a :: parts.1, parts.2)
  | _ => none

/-- The first line break of a text of several lines is not part of it. -/
def dropFirstBreak : List Char → List Char
  | '\n' :: rest => rest
  | '\r' :: '\n' :: rest => rest
  | text => text

def usesEscapes (quote : Char) : Bool := quote == '"'

def scanLine? (quote : Char) (text : List Char) : Option (List Char × List Char) := do
  let (body, rest) ← cut? quote (usesEscapes quote) text
  if !isLine body then none
  else if usesEscapes quote then return (← unescape? false body.length body, rest)
  else return (body, rest)

def scanLines? (quote : Char) (text : List Char) : Option (List Char × List Char) := do
  let (body, rest) ← cutLines? quote (usesEscapes quote) (dropFirstBreak text)
  if !isLines body then none
  else if usesEscapes quote then return (← unescape? true body.length body, rest)
  else return (body, rest)

def scanString? (quote : Char) : List Char → Option (List Char × List Char)
  | a :: b :: rest =>
      if a = quote ∧ b = quote then scanLines? quote rest else scanLine? quote (a :: b :: rest)
  | text => scanLine? quote text

end QueryGroup.Toml
