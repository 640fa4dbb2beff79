import QueryGroup.Pattern.Bytes
import QueryGroup.Pattern.CharSet
set_option autoImplicit false

namespace QueryGroup.Pattern

inductive Direction where
  | forward
  | backward
deriving DecidableEq, Repr

/-- A list as it is met when reading in the direction. -/
def Direction.order {α : Type} : Direction → List α → List α
  | forward, list => list
  | backward, list => list.reverse

def stateWeight : Nat := 32

def branching (ways : Nat) : Nat := stateWeight + 4 * ways

/-- A state that goes on by the next byte, of which it tells so many ranges apart. -/
def switching (ranges : Nat) : Nat := stateWeight + 8 * ranges

def total (weights : List Nat) : Nat := weights.foldl (fun sum weight => sum + weight) 0

section Rows

variable {α : Type} [DecidableEq α]

def starts (rows : List (List α)) : List α := (rows.filterMap List.head?).eraseDups

def behind (rows : List (List α)) (start : α) : List (List α) :=
  rows.filterMap fun row => if row.head? = some start then row.tail? else none

def remainders : Nat → List (List α) → List (List (List α))
  | 0, _ => []
  | depth + 1, rows =>
      if (starts rows).isEmpty then []
      else rows :: (starts rows).flatMap fun start => remainders depth (behind rows start)

end Rows

namespace CharSet

def sequences (set : CharSet) : List (List ByteRange) := set.ranges.flatMap ByteRange.sequences

/-- Forward, states with the same left to read are one; a character has four bytes at most. -/
def forwardWeight (set : CharSet) : Nat :=
  let states := (remainders 4 set.sequences).eraseDups
  stateWeight + total (states.map fun rows => switching (starts rows).length)

def backwardWeight (set : CharSet) : Nat :=
  let fronts := set.sequences.flatMap fun row =>
    (List.range row.length).map fun count => row.take (count + 1)
  branching set.sequences.length + stateWeight + stateWeight * fronts.eraseDups.length

/-- What a set takes up. One of ASCII characters is told from others by a single byte. -/
def weight (direction : Direction) (set : CharSet) : Nat :=
  if set.isAscii then switching set.ranges.length + stateWeight
  else
    match direction with
    | .forward => set.forwardWeight
    | .backward => set.backwardWeight

end CharSet

def betweenEnds : List (List UInt8) → List (List (List UInt8))
  | [] => [[]]
  | [] :: rest => [] :: betweenEnds rest
  | bytes :: rest =>
      match betweenEnds rest with
      | first :: later => (bytes :: first) :: later
      | [] => [[bytes]]

/-- Of the texts that end first one is as good as several. -/
def endOnce : List (List UInt8) → List (List UInt8)
  | [] :: rest => [] :: rest.dropWhile List.isEmpty
  | texts => texts

/-- A choice between texts of less than so many bytes. Texts that start alike share states,
but not with those behind one that has ended, which come after that. -/
def textsWeight : Nat → List (List UInt8) → Nat
  | 0, _ => 0
  | depth + 1, texts =>
      if texts.all List.isEmpty then 0
      else
        let parts := betweenEnds (endOnce texts)
        let filled := parts.filter fun part => !part.isEmpty
        let weights := filled.map fun part =>
          let ways := (starts part).length
          (if ways = 1 then stateWeight else switching ways) +
            total ((starts part).map fun start => textsWeight depth (behind part start))
        branching (filled.length + parts.length - 1) + total weights

end QueryGroup.Pattern
