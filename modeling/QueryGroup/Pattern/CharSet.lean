import QueryGroup.Text.Ranges
set_option autoImplicit false

namespace QueryGroup.Pattern

open Text

structure CharSet where
  ranges : Ranges := []
deriving DecidableEq, Repr

namespace CharSet

def nothing : CharSet := {}

def everything : CharSet := ⟨[(0, 0x10FFFF)]⟩

def isEmpty (set : CharSet) : Bool := set.ranges.isEmpty

def holds (set : CharSet) (c : Char) : Bool := set.ranges.holds c

def isAscii (set : CharSet) : Bool := set.ranges.all fun range => range.2 < 0x80

/-- Puts a range among others, as one with those that it touches. -/
def insert (range : Nat × Nat) : Ranges → Ranges
  | [] => [range]
  | other :: rest =>
      if range.2 + 1 < other.1 then range :: other :: rest
      else if other.2 + 1 < range.1 then other :: insert range rest
      else insert (min range.1 other.1, max range.2 other.2) rest

def ofRanges (ranges : Ranges) : CharSet := ⟨ranges.foldl (fun kept range => insert range kept) []⟩

def range (low high : Char) : CharSet := ⟨[(low.toNat, high.toNat)]⟩

def single (c : Char) : CharSet := range c c

def ofList (characters : List Char) : CharSet :=
  ofRanges (characters.map fun c => (c.toNat, c.toNat))

def union (first second : CharSet) : CharSet := ofRanges (first.ranges ++ second.ranges)

def intersection (first second : CharSet) : CharSet :=
  ⟨first.ranges.flatMap fun range =>
    second.ranges.filterMap fun other =>
      let low := max range.1 other.1
      let high := min range.2 other.2
      if low ≤ high then some (low, high) else none⟩

/-- The number of the next character. Surrogates are none. -/
def next (n : Nat) : Nat := if n = 0xD7FF then 0xE000 else n + 1

def previous (n : Nat) : Nat := if n = 0xE000 then 0xD7FF else n - 1

def without (range other : Nat × Nat) : Ranges :=
  if range.2 < other.1 ∨ other.2 < range.1 then [range]
  else
    (if range.1 < other.1 then [(range.1, previous other.1)] else []) ++
      (if other.2 < range.2 then [(next other.2, range.2)] else [])

def difference (first second : CharSet) : CharSet :=
  ⟨second.ranges.foldl (fun kept other => kept.flatMap fun range => without range other)
    first.ranges⟩

/-- In the first or the second, but not in both. -/
def symmetricDifference (first second : CharSet) : CharSet :=
  difference (union first second) (intersection first second)

/-- The ranges behind a character and between those of a set. Two that only surrogates part
have no characters between them; there the range goes from the one over to the other. -/
def gaps (last : Nat) : Ranges → Ranges
  | [] => if last < 0x10FFFF then [(next last, 0x10FFFF)] else []
  | range :: rest =>
      let low := next last
      let high := previous range.1
      (min low high, max low high) :: gaps range.2 rest

def complement (set : CharSet) : CharSet :=
  match set.ranges with
  | [] => everything
  | range :: rest =>
      ⟨(if 0 < range.1 then [(0, previous range.1)] else []) ++ gaps range.2 rest⟩

def anyCase (set : CharSet) : CharSet :=
  let lower := (intersection set (range 'a' 'z')).ranges.map fun r => (r.1 - 32, r.2 - 32)
  let upper := (intersection set (range 'A' 'Z')).ranges.map fun r => (r.1 + 32, r.2 + 32)
  ofRanges (set.ranges ++ lower ++ upper)

def digit : CharSet := range '0' '9'

def letter : CharSet := union (range 'a' 'z') (range 'A' 'Z')

def blank : CharSet := ofList ['\t', '\n', Char.ofNat 11, Char.ofNat 12, '\r', ' ']

def word : CharSet := union (union letter digit) (single '_')

def named? (name : String) : Option CharSet :=
  Option.map Prod.snd <| List.find? (fun pair => pair.1 == name) [
    ("alnum", union letter digit),
    ("alpha", letter),
    ("ascii", ⟨[(0, 0x7F)]⟩),
    ("blank", ofList [' ', '\t']),
    ("cntrl", ⟨[(0, 0x1F), (0x7F, 0x7F)]⟩),
    ("digit", digit),
    ("graph", range '!' '~'),
    ("lower", range 'a' 'z'),
    ("print", range ' ' '~'),
    ("punct", difference (range '!' '~') (union letter digit)),
    ("space", blank),
    ("upper", range 'A' 'Z'),
    ("word", word),
    ("xdigit", union digit (union (range 'a' 'f') (range 'A' 'F')))]

/-- The character that a set holds, if that is only one. -/
def only? (set : CharSet) : Option Char :=
  match set.ranges with
  | [(low, high)] => if low = high then some (Char.ofNat low) else none
  | _ => none

end CharSet

end QueryGroup.Pattern
