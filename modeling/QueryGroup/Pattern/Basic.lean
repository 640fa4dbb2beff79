import QueryGroup.Pattern.CharSet
set_option autoImplicit false

namespace QueryGroup

namespace Pattern

structure Place where
  /-- The number of characters before it. -/
  index : Nat
  before : Option Char
  rest : List Char
deriving DecidableEq, Repr

inductive WordEdge where
  | startOrEnd
  | neither
  | start
  | finish
  | noneBefore
  | noneAfter
deriving DecidableEq, Repr

/-- What must hold of a place. A line ends at a line feed, where `returns` says so at a
carriage return too, of which two together end one line. Words consist of letters, digits
and underscores, of ASCII or of all scripts. -/
inductive Look where
  | textStart
  | textEnd
  | lineStart (returns : Bool)
  | lineEnd (returns : Bool)
  | word (edge : WordEdge) (ascii : Bool)
deriving DecidableEq, Repr

namespace Place

def wordBefore (place : Place) : Bool := place.before.any CharSet.word.holds

def wordAfter (place : Place) : Bool := place.rest.head?.any CharSet.word.holds

def atLineStart (returns : Bool) (place : Place) : Bool :=
  match place.before with
  | none => true
  | some c => c == '\n' || (returns && c == '\r' && place.rest.head? != some '\n')

def atLineEnd (returns : Bool) (place : Place) : Bool :=
  match place.rest with
  | [] => true
  | c :: _ =>
      if returns then c == '\r' || (c == '\n' && place.before != some '\r') else c == '\n'

def next? (place : Place) (kind : Char → Bool) : Option Place :=
  match place.rest with
  | [] => none
  | c :: rest => if kind c then some ⟨place.index + 1, some c, rest⟩ else none

def behind? : List Char → Place → Option Place
  | [], place => some place
  | c :: rest, place => (place.next? (· == c)).bind (behind? rest)

def onward (index : Nat) (before : Option Char) : List Char → List Place
  | [] => [⟨index, before, []⟩]
  | c :: rest => ⟨index, before, c :: rest⟩ :: onward (index + 1) (some c) rest

end Place

def WordEdge.holds (before after : Bool) : WordEdge → Bool
  | startOrEnd => before != after
  | neither => before == after
  | start => !before && after
  | finish => before && !after
  | noneBefore => !before
  | noneAfter => !after

/-- Patterns with edges of words of all scripts are refused, so words are those of ASCII. -/
def Look.holds : Look → Place → Bool
  | textStart, place => place.before.isNone
  | textEnd, place => place.rest.isEmpty
  | lineStart returns, place => place.atLineStart returns
  | lineEnd returns, place => place.atLineEnd returns
  | word edge _, place => edge.holds place.wordBefore place.wordAfter

def distinct (places : List Place) : List Place :=
  (places.foldl (fun kept place =>
    if kept.any fun other => other.index == place.index then kept else place :: kept) []).reverse

/-- Exactly so many steps. One that leads to the places where it began is as good as all. -/
def times (step : List Place → List Place) : Nat → List Place → List Place
  | 0, places => places
  | count + 1, places =>
      let reached := distinct (step places)
      if reached.map Place.index = places.map Place.index then reached
      else times step count reached

def upTo (step : List Place → List Place) : Nat → List Place → List Place → List Place
  | 0, reached, _ => reached
  | count + 1, reached, last =>
      let fresh := (distinct (step last)).filter fun place =>
        !reached.any fun other => other.index == place.index
      if fresh.isEmpty then reached else upTo step count (reached ++ fresh) fresh

/-- A step goes onward or stays. So more steps than this reach no other places. -/
def furthest (places : List Place) : Nat :=
  places.foldl (fun most place => max most place.rest.length) 0 + 1

end Pattern

open Pattern in
inductive Pattern where
  | empty
  | text (characters : List Char)
  /-- A character of a set; `bytes` if the set was given by single bytes. -/
  | oneOf (bytes : Bool) (set : CharSet)
  | look (condition : Look)
  /-- So many of a pattern in a row; `lazy` if fewer are tried first. -/
  | repeated (least : Nat) (most : Option Nat) (lazy : Bool) (inner : Pattern)
  /-- A group that is counted, by its number. -/
  | group (number : Nat) (inner : Pattern)
  | sequence (items : List Pattern)
  | choice (branches : List Pattern)

namespace Pattern

mutual

def ends : Pattern → List Place → List Place
  | empty => id
  | text characters => fun places => places.filterMap (Place.behind? characters)
  | oneOf _ set => fun places => places.filterMap fun place => place.next? set.holds
  | look condition => fun places => places.filter condition.holds
  | repeated least most _ inner => fun places =>
      let required := times inner.ends (min least (furthest places)) places
      let further := match most with
        | some most => most - least
        | none => furthest required
      upTo inner.ends further required required
  | group _ inner => inner.ends
  | sequence items => sequenceEnds items
  | choice branches => fun places => distinct (choiceEnds branches places)

def sequenceEnds : List Pattern → List Place → List Place
  | [] => id
  | item :: rest => fun places => sequenceEnds rest (item.ends places)

def choiceEnds : List Pattern → List Place → List Place
  | [] => fun _ => []
  | branch :: rest => fun places => branch.ends places ++ choiceEnds rest places

end

def occursIn (pattern : Pattern) (text : String) : Bool :=
  !(pattern.ends (Place.onward 0 none text.toList)).isEmpty

end Pattern

end QueryGroup
