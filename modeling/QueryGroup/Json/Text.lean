set_option autoImplicit false

namespace QueryGroup.Json

def nullWord : List Char := ['n', 'u', 'l', 'l']

def boolWord (value : Bool) : List Char :=
  if value then ['t', 'r', 'u', 'e'] else ['f', 'a', 'l', 's', 'e']

/-- A character as written, or a 16-bit unit given by its number. -/
inductive Piece where
  | char (c : Char)
  | unit (n : Nat)
deriving DecidableEq, Repr

def hexDigit? (c : Char) : Option Nat :=
  if '0' ≤ c ∧ c ≤ '9' then some (c.toNat - '0'.toNat)
  else if 'a' ≤ c ∧ c ≤ 'f' then some (c.toNat - 'a'.toNat + 10)
  else if 'A' ≤ c ∧ c ≤ 'F' then some (c.toNat - 'A'.toNat + 10)
  else none

def hexNumber? (digits : List Char) : Option Nat :=
  digits.foldlM (fun number c => (hexDigit? c).map fun digit => number * 16 + digit) 0

def shortEscape? (c : Char) : Option Char :=
  if c = '"' then some '"'
  else if c = '\\' then some '\\'
  else if c = '/' then some '/'
  else if c = 'b' then some (Char.ofNat 8)
  else if c = 'f' then some (Char.ofNat 12)
  else if c = 'n' then some '\n'
  else if c = 'r' then some '\r'
  else if c = 't' then some '\t'
  else none

/-- Reads a string up to its closing quote. Controls and unknown escapes end the reading. -/
def scanPieces? : List Char → Option (List Piece × List Char)
  | [] => none
  | '"' :: rest => some ([], rest)
  | '\\' :: 'u' :: a :: b :: c :: d :: rest =>
      match hexNumber? [a, b, c, d], scanPieces? rest with
      | some n, some (pieces, rest) => some (.unit n :: pieces, rest)
      | _, _ => none
  | '\\' :: c :: rest =>
      match shortEscape? c, scanPieces? rest with
      | some shown, some (pieces, rest) => some (.char shown :: pieces, rest)
      | _, _ => none
  | c :: rest =>
      if c.toNat < 0x20 ∨ c = '\\' then none
      else
        match scanPieces? rest with
        | some (pieces, rest) => some (.char c :: pieces, rest)
        | none => none

def isLeading (n : Nat) : Bool := 0xD800 ≤ n && n < 0xDC00

def isTrailing (n : Nat) : Bool := 0xDC00 ≤ n && n < 0xE000

/-- The characters of the pieces, if every unit of a pair stands in a pair. -/
def joinPieces? : List Piece → Option (List Char)
  | [] => some []
  | .char c :: rest => (joinPieces? rest).map (c :: ·)
  | .unit n :: .unit m :: rest =>
      if isLeading n && isTrailing m then
        (joinPieces? rest).map
          (Char.ofNat (0x10000 + (n - 0xD800) * 0x400 + (m - 0xDC00)) :: ·)
      -- Half a pair leaves the string readable but without a text.
      else if isLeading n || isTrailing n then none
      else (joinPieces? (.unit m :: rest)).map (Char.ofNat n :: ·)
  | .unit n :: rest =>
      if isLeading n || isTrailing n then none
      else (joinPieces? rest).map (Char.ofNat n :: ·)

def escapeChar (c : Char) : List Char :=
  if c = '"' then ['\\', '"']
  else if c = '\\' then ['\\', '\\']
  else if c = Char.ofNat 8 then ['\\', 'b']
  else if c = '\t' then ['\\', 't']
  else if c = '\n' then ['\\', 'n']
  else if c = Char.ofNat 12 then ['\\', 'f']
  else if c = '\r' then ['\\', 'r']
  else if c.toNat < 0x20 then
    ['\\', 'u', '0', '0', Nat.digitChar (c.toNat / 16), Nat.digitChar (c.toNat % 16)]
  else [c]

def stringChars (text : List Char) : List Char := '"' :: text.flatMap escapeChar ++ ['"']

theorem scanPieces?_length {text rest : List Char} {pieces : List Piece}
    (scanned : scanPieces? text = some (pieces, rest)) : rest.length < text.length := by
  fun_induction scanPieces? text generalizing pieces rest with
  | case1 => contradiction
  | case2 =>
    cases scanned
    exact Nat.lt_succ_self _
  | case3 a b c d tail n inner after read _ ih =>
    cases scanned
    have shorter := ih read
    simp only [List.length_cons]
    omega
  | case4 => contradiction
  | case5 c tail _ shown inner after read _ ih =>
    cases scanned
    have shorter := ih read
    simp only [List.length_cons]
    omega
  | case6 => contradiction
  | case7 => contradiction
  | case8 c tail _ _ _ _ inner after read ih =>
    cases scanned
    exact Nat.lt_succ_of_lt (ih read)
  | case9 => contradiction

end QueryGroup.Json
