import QueryGroup.Document.Tree
set_option autoImplicit false

namespace QueryGroup.Toml

open Document

structure Date where
  year : Nat
  month : Nat
  day : Nat
deriving DecidableEq, Repr

structure Time where
  hour : Nat
  minute : Nat
  second : Nat
  nanosecond : Nat
deriving DecidableEq, Repr

inductive Offset where
  | zulu
  | minutes (ahead : Int)
deriving DecidableEq, Repr

inductive Moment where
  | date (date : Date)
  | time (time : Time)
  | dateTime (date : Date) (time : Time) (offset : Option Offset)
deriving DecidableEq, Repr

def isLeap (year : Nat) : Bool := year % 4 == 0 && (year % 100 != 0 || year % 400 == 0)

def daysIn (year month : Nat) : Nat :=
  if month = 2 then if isLeap year then 29 else 28
  else if month ∈ [4, 6, 9, 11] then 30 else 31

def decimal (digits : List Char) : Nat :=
  digits.foldl (fun number c => number * 10 + (c.toNat - '0'.toNat)) 0

def digits? (count least most : Nat) (text : List Char) : Option (Nat × List Char) :=
  let front := text.take count
  if front.length = count ∧ front.all Char.isDigit ∧ least ≤ decimal front ∧
      decimal front ≤ most then
    some (decimal front, text.drop count)
  else none

def passed? (expected : Char) : List Char → Option (List Char)
  | [] => none
  | c :: rest => if c = expected then some rest else none

def scanDate? (text : List Char) : Option (Date × List Char) := do
  let (year, rest) ← digits? 4 0 9999 text
  let (month, rest) ← digits? 2 1 12 (← passed? '-' rest)
  let (day, rest) ← digits? 2 1 (daysIn year month) (← passed? '-' rest)
  return (⟨year, month, day⟩, rest)

/-- The seconds, which may be left out, and their fraction, of which nine digits count. -/
def scanSeconds? : List Char → Option ((Nat × Nat) × List Char)
  | ':' :: rest => do
      let (second, rest) ← digits? 2 0 60 rest
      match rest with
      | '.' :: rest =>
          let places := rest.takeWhile Char.isDigit
          if places.isEmpty then none
          else return ((second, decimal ((places.take 9).rightpad 9 '0')), rest.dropWhile Char.isDigit)
      | rest => return ((second, 0), rest)
  | rest => some ((0, 0), rest)

def scanTime? (text : List Char) : Option (Time × List Char) := do
  let (hour, rest) ← digits? 2 0 23 text
  let (minute, rest) ← digits? 2 0 59 (← passed? ':' rest)
  let ((second, nanosecond), rest) ← scanSeconds? rest
  return (⟨hour, minute, second, nanosecond⟩, rest)

/-- The offset that a text is, if it is one at all. -/
def offset? : List Char → Option Offset
  | ['Z'] | ['z'] => some .zulu
  | sign :: rest => do
      let (hours, rest) ← digits? 2 0 23 rest
      let (minutes, rest) ← digits? 2 0 59 (← passed? ':' rest)
      if !rest.isEmpty then none
      else if sign = '+' then some (.minutes (hours * 60 + minutes))
      else if sign = '-' then some (.minutes (-(hours * 60 + minutes)))
      else none
  | [] => none

def isBetween (c : Char) : Bool := c == 'T' || c == 't' || c == ' '

def moment? (text : List Char) : Option Moment :=
  match scanDate? text with
  | some (date, []) => some (.date date)
  | some (date, c :: rest) =>
      if !isBetween c then none
      else do
        match ← scanTime? rest with
        | (time, []) => return .dateTime date time none
        | (time, rest) => return .dateTime date time (some (← offset? rest))
  | none => do
      match ← scanTime? text with
      | (time, []) => return .time time
      | _ => none

/-- A text is to be a moment if it starts with digits and a dash or a colon. -/
def startsMoment (text : List Char) : Bool :=
  let rest := text.dropWhile Char.isDigit
  rest.length < text.length && (rest.head? == some '-' || rest.head? == some ':')

def padded (width number : Nat) : String := .ofList ((toString number).toList.leftpad width '0')

def Date.text (date : Date) : String :=
  padded 4 date.year ++ "-" ++ padded 2 date.month ++ "-" ++ padded 2 date.day

def Time.text (time : Time) : String :=
  let places := (padded 9 time.nanosecond).toList.reverse.dropWhile (· == '0')
  padded 2 time.hour ++ ":" ++ padded 2 time.minute ++ ":" ++ padded 2 time.second ++
    (if places.isEmpty then "" else .ofList ('.' :: places.reverse))

def Offset.text : Offset → String
  | .zulu => "Z"
  | .minutes ahead =>
      (if ahead < 0 then "-" else "+") ++ padded 2 (ahead.natAbs / 60) ++ ":" ++
        padded 2 (ahead.natAbs % 60)

def Moment.text : Moment → String
  | .date day => day.text
  | .time clock => clock.text
  | .dateTime day clock offset =>
      day.text ++ "T" ++ clock.text ++ (offset.map Offset.text).getD ""

/-- Moments are decoded as objects with a single member of a name that nothing else has. -/
def Moment.tree (moment : Moment) : Tree :=
  .object [(some "$__toml_private_datetime", .string (some moment.text))]

end QueryGroup.Toml
