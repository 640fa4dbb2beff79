import QueryGroup.Pattern.Basic
set_option autoImplicit false

namespace QueryGroup.Pattern

mutual

def same : Pattern → Pattern → Bool
  | empty, empty => true
  | text first, text second => first == second
  | oneOf bytes first, oneOf others second => bytes == others && first == second
  | look first, look second => first == second
  | repeated least most lazy first, repeated fewest greatest other second =>
      least == fewest && most == greatest && lazy == other && first.same second
  | group number first, group other second => number == other && first.same second
  | sequence first, sequence second => sameAll first second
  | choice first, choice second => sameAll first second
  | _, _ => false

def sameAll : List Pattern → List Pattern → Bool
  | [], [] => true
  | first :: rest, second :: others => first.same second && sameAll rest others
  | _, _ => false

end

mutual

def hasPart (kind : Pattern → Bool) : Pattern → Bool
  | repeated least most lazy inner =>
      kind (repeated least most lazy inner) || inner.hasPart kind
  | group number inner => kind (group number inner) || inner.hasPart kind
  | sequence items => kind (sequence items) || anyHasPart kind items
  | choice branches => kind (choice branches) || anyHasPart kind branches
  | pattern => kind pattern

def anyHasPart (kind : Pattern → Bool) : List Pattern → Bool
  | [] => false
  | pattern :: rest => pattern.hasPart kind || anyHasPart kind rest

end

/-- Of the matches of a pattern the fewest and the most bytes. What can never match has no
such number, and neither has a pattern that it is a part of. -/
structure Lengths where
  fewest : Option Nat
  most : Option Nat
deriving DecidableEq, Repr

namespace Lengths

def exactly (bytes : Nat) : Lengths := ⟨some bytes, some bytes⟩

def ofSet (set : CharSet) : Lengths where
  fewest := set.ranges.head?.map fun range => (Char.ofNat range.1).utf8Size
  most := set.ranges.getLast?.map fun range => (Char.ofNat range.2).utf8Size

def andThen (first second : Lengths) : Lengths where
  fewest := first.fewest.bind fun bytes => second.fewest.map (bytes + ·)
  most := first.most.bind fun bytes => second.most.map (bytes + ·)

def either (first second : Lengths) : Lengths where
  fewest := first.fewest.bind fun bytes => second.fewest.map (min bytes)
  most := first.most.bind fun bytes => second.most.map (max bytes)

def times (least : Nat) (most : Option Nat) (inner : Lengths) : Lengths where
  fewest := inner.fewest.map (least * ·)
  most := most.bind fun most => inner.most.map (most * ·)

/-- The lengths where one of several patterns has to match. -/
def eitherOf : List Lengths → Lengths
  | [] => ⟨none, none⟩
  | first :: rest => rest.foldl either first

end Lengths

def byteLength (characters : List Char) : Nat :=
  characters.foldl (fun bytes c => bytes + c.utf8Size) 0

mutual

def lengths : Pattern → Lengths
  | empty => .exactly 0
  | look _ => .exactly 0
  | text characters => .exactly (byteLength characters)
  | oneOf _ set => .ofSet set
  | repeated least most _ inner => inner.lengths.times least most
  | group _ inner => inner.lengths
  | sequence items => (lengthsOf items).foldl .andThen (.exactly 0)
  | choice branches => .eitherOf (lengthsOf branches)

def lengthsOf : List Pattern → List Lengths
  | [] => []
  | pattern :: rest => pattern.lengths :: lengthsOf rest

end

def isEmptyOnly (pattern : Pattern) : Bool := pattern.lengths.most == some 0

def nothing : Pattern := oneOf true .nothing

def ofSet (bytes : Bool) (set : CharSet) : Pattern :=
  if set.isEmpty then nothing
  else
    match set.only? with
    | some c => text [c]
    | none => oneOf bytes set

/-- A repetition. In a row of empty matches one is as good as several. -/
def repeatedOf (least : Nat) (most : Option Nat) (lazy : Bool) (inner : Pattern) : Pattern :=
  let (least, most) :=
    if inner.isEmptyOnly then (min least 1, some (min (most.getD 1) 1)) else (least, most)
  if most = some 0 then empty
  else if least = 1 ∧ most = some 1 then inner
  else repeated least most lazy inner

/-- A pattern as items of a sequence. -/
def items : Pattern → List Pattern
  | empty => []
  | sequence items => items
  | pattern => [pattern]

/-- Puts an item before others; texts side by side become one. -/
def joinItem : Pattern → List Pattern → List Pattern
  | text first, text second :: rest => text (first ++ second) :: rest
  | item, rest => item :: rest

def sequenceOf (patterns : List Pattern) : Pattern :=
  match (patterns.flatMap items).foldr joinItem [] with
  | [] => empty
  | [item] => item
  | items => sequence items

/-- A pattern as branches of a choice. -/
def branches : Pattern → List Pattern
  | choice branches => branches
  | pattern => [pattern]

def singleCharacter? : Pattern → Option Char
  | text [c] => some c
  | _ => none

def set? : Pattern → Option CharSet
  | oneOf _ set => some set
  | _ => none

def sequence? : Pattern → Option (List Pattern)
  | sequence items => some items
  | _ => none

/-- A choice between several patterns as one set, if each is a character or each is a set. -/
def setOf? (patterns : List Pattern) : Option CharSet :=
  match patterns.mapM singleCharacter? with
  | some characters => some (.ofList characters)
  | none => (patterns.mapM set?).map fun sets => sets.foldl .union .nothing

def choiceBetween : List Pattern → Pattern
  | [] => nothing
  | [branch] => branch
  | branches =>
      match setOf? branches with
      | some set => ofSet false set
      | none => choice branches

def sharedItems : List Pattern → List Pattern → List Pattern
  | first :: rest, second :: others =>
      if first.same second then first :: sharedItems rest others else []
  | _, _ => []

/-- What all branches start with goes before the choice, if each of them is a sequence. -/
def choiceOf (patterns : List Pattern) : Pattern :=
  match choiceBetween (patterns.flatMap branches) with
  | choice branches =>
      match branches.mapM sequence? with
      | some (first :: others) =>
          let shared := others.foldl sharedItems first
          let rests := (first :: others).map fun items => sequenceOf (items.drop shared.length)
          if shared.isEmpty then choice branches
          else sequenceOf (shared ++ [choiceBetween (rests.flatMap Pattern.branches)])
      | _ => choice branches
  | pattern => pattern

end QueryGroup.Pattern
