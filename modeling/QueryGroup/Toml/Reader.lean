import QueryGroup.Toml.Scalar
import QueryGroup.Toml.Table
set_option autoImplicit false

namespace QueryGroup.Toml

open Document

def skipSpaces (text : List Char) : List Char := text.dropWhile isSpace

/-- Passes over blanks, line breaks and comments; `comment` tells whether one is open. -/
def skipLines? : Bool → List Char → Option (List Char)
  | _, [] => some []
  | _, '\n' :: rest => skipLines? false rest
  | _, '\r' :: '\n' :: rest => skipLines? false rest
  | true, c :: rest => if isControl c then none else skipLines? true rest
  | false, c :: rest =>
      if isSpace c then skipLines? false rest
      else if c = '#' then skipLines? true rest
      else some (c :: rest)

/-- The rest after a statement, which nothing but a comment may follow on its line. -/
def endLine? (text : List Char) : Option (List Char) :=
  match skipSpaces text with
  | [] => some []
  | '#' :: rest => skipLines? true rest
  | '\n' :: rest => some rest
  | '\r' :: '\n' :: rest => some rest
  | _ => none

def isBare (c : Char) : Bool := c.isAlphanum || c == '_' || c == '-'

def scanName? : List Char → Option (String × List Char)
  | '"' :: rest => (scanLine? '"' rest).map fun read => (.ofList read.1, read.2)
  | '\'' :: rest => (scanLine? '\'' rest).map fun read => (.ofList read.1, read.2)
  | text =>
      let name := text.takeWhile isBare
      if name.isEmpty then none else some (.ofList name, text.dropWhile isBare)

/-- A key: the tables on its way, and its last part. -/
structure Key where
  path : List String
  last : String

/-- The most arrays and inline tables inside one another, and the most parts of a key. -/
def greatestDepth : Nat := 80

def scanParts? : Nat → List Char → Option (Key × List Char)
  | 0, _ => none
  | most + 1, text => do
      let (name, rest) ← scanName? (skipSpaces text)
      match skipSpaces rest with
      | '.' :: rest =>
          let (key, rest) ← scanParts? most rest
          return (⟨name :: key.path, key.last⟩, rest)
      | rest => return (⟨[], name⟩, rest)

def scanKey? (text : List Char) : Option (Key × List Char) := scanParts? greatestDepth text

/-- A scalar goes up to a blank, a line break or a character that separates values. -/
def isScalarChar (c : Char) : Bool :=
  !(isSpace c || c == '\n' || c == '\r' || c == '=' || c == ',' || c == '#' ||
    c == '[' || c == ']' || c == '{' || c == '}')

/-- A scalar and the rest. A single space may stand between a date and a time. -/
def cutScalar (text : List Char) : List Char × List Char :=
  let front := text.takeWhile isScalarChar
  match text.dropWhile isScalarChar with
  | ' ' :: c :: rest =>
      if c.isDigit && (scanDate? front).any (·.2.isEmpty) then
        (front ++ ' ' :: (c :: rest).takeWhile isScalarChar, (c :: rest).dropWhile isScalarChar)
      else (front, ' ' :: c :: rest)
  | rest => (front, rest)

mutual

/-- Reads a value; `fuel` bounds the steps and `depth` the containers. -/
def value? (depth : Nat) : Nat → List Char → Option (Tree × List Char)
  | 0, _ => none
  | fuel + 1, text =>
      match text with
      | '"' :: rest => (scanString? '"' rest).map fun read =>
          (.string (some (.ofList read.1)), read.2)
      | '\'' :: rest => (scanString? '\'' rest).map fun read =>
          (.string (some (.ofList read.1)), read.2)
      | '[' :: rest =>
          if depth = 0 then none
          else (items? (depth - 1) fuel [] rest).map fun read => (.array read.1, read.2)
      | '{' :: rest =>
          if depth = 0 then none
          else (entries? (depth - 1) fuel [] rest).map fun read =>
            (.object (membersOf read.1), read.2)
      | text =>
          (scalar? (cutScalar text).1).map fun tree => (tree, (cutScalar text).2)

def items? (depth : Nat) : Nat → List Tree → List Char → Option (List Tree × List Char)
  | 0, _, _ => none
  | fuel + 1, done, text => do
      match ← skipLines? false text with
      | ']' :: rest => return (done, rest)
      | text =>
          let (item, rest) ← value? depth fuel text
          match ← skipLines? false rest with
          | ',' :: rest => items? depth fuel (done ++ [item]) rest
          | ']' :: rest => return (done ++ [item], rest)
          | _ => none

def entries? (depth : Nat) : Nat → Entries → List Char → Option (Entries × List Char)
  | 0, _, _ => none
  | fuel + 1, done, text => do
      match ← skipLines? false text with
      | '}' :: rest => return (done, rest)
      | text =>
          let (key, rest) ← scanKey? text
          match ← skipLines? false rest with
          | '=' :: rest =>
              let (tree, rest) ← value? depth fuel (← skipLines? false rest)
              let done ← done.assign? key.last tree key.path
              match ← skipLines? false rest with
              | ',' :: rest => entries? depth fuel done rest
              | '}' :: rest => return (done, rest)
              | _ => none
          | _ => none

end

inductive Statement where
  | openTable (key : Key)
  | addTable (key : Key)
  | assign (key : Key) (tree : Tree)

def scanStatement? (text : List Char) : Option (Statement × List Char) :=
  match text with
  | '[' :: '[' :: rest => do
      match ← scanKey? rest with
      | (key, ']' :: ']' :: rest) => return (.addTable key, ← endLine? rest)
      | _ => none
  | '[' :: rest => do
      match ← scanKey? rest with
      | (key, ']' :: rest) => return (.openTable key, ← endLine? rest)
      | _ => none
  | text => do
      match ← scanKey? text with
      | (key, '=' :: rest) =>
          let (tree, rest) ← value? greatestDepth (2 * rest.length + 2) (skipSpaces rest)
          return (.assign key tree, ← endLine? rest)
      | _ => none

/-- The statements of a document; `fuel` bounds their number. -/
def statements? : Nat → List Char → Option (List Statement)
  | 0, _ => none
  | fuel + 1, text => do
      match ← skipLines? false text with
      | [] => return []
      | text =>
          let (statement, rest) ← scanStatement? text
          return statement :: (← statements? fuel rest)

def assignAll? : List Statement → Entries → Option Entries
  | .assign key tree :: rest, entries => do
      assignAll? rest (← entries.assign? key.last tree key.path)
  | _, entries => some entries

def applyHeaders? : List Statement → Entries → Option Entries
  | [], entries => some entries
  | .assign _ _ :: rest, entries => applyHeaders? rest entries
  | .openTable key :: rest, entries => do
      applyHeaders? rest
        (← entries.descend? (Entries.openTable? key.last (assignAll? rest)) key.path)
  | .addTable key :: rest, entries => do
      applyHeaders? rest
        (← entries.descend? (Entries.addTable? key.last (assignAll? rest)) key.path)

/-- The tree of a TOML document. A byte order mark may stand in front of it. -/
def treeOfText? (text : String) : Option Tree := do
  let chars := match text.toList with
    | c :: rest => if c.toNat = 0xFEFF then rest else c :: rest
    | [] => []
  let statements ← statements? (chars.length + 1) chars
  let entries ← assignAll? statements []
  return .object (membersOf (← applyHeaders? statements entries))

end QueryGroup.Toml
