import QueryGroup.Pattern.Build
import QueryGroup.Pattern.States
import QueryGroup.Pattern.Texts
set_option autoImplicit false

namespace QueryGroup.Pattern

def text? : Pattern → Option (List Char)
  | text characters => some characters
  | _ => none

def choiceWeight (direction : Direction) (branches : List Pattern) (weights : Nat) : Nat :=
  match branches.mapM text? with
  | some texts =>
      let bytes := texts.map fun characters => direction.order (utf8 characters)
      let longest := bytes.foldl (fun most bytes => max most bytes.length) 0
      stateWeight + textsWeight (longest + 1) bytes
  | none => branching branches.length + stateWeight + weights

def repeatedWeight (least : Nat) (most : Option Nat) (mayBeEmpty : Bool) (weight : Nat) : Nat :=
  match least, most with
  | 0, none =>
      if mayBeEmpty then weight + 2 * branching 2 + stateWeight else weight + branching 2
  | least, none => least * weight + branching 2
  | 0, some 1 => branching 2 + stateWeight + weight
  | least, some most =>
      let required := if least = 0 then stateWeight else least * weight
      if least = most then required
      else required + stateWeight + (most - least) * (branching 2 + weight)

def groupWeight : Direction → Nat
  | .forward => 2 * stateWeight
  | .backward => 0

mutual

def weight (direction : Direction) : Pattern → Nat
  | empty => stateWeight
  | look _ => stateWeight
  | text characters => stateWeight * byteLength characters
  | oneOf _ set => set.weight direction
  | repeated least most _ inner =>
      repeatedWeight least most (!inner.lengths.fewest.any (0 < ·)) (inner.weight direction)
  | group _ inner => groupWeight direction + inner.weight direction
  | sequence items => weightOf direction items
  | choice branches => choiceWeight direction branches (weightOf direction branches)

def weightOf (direction : Direction) : List Pattern → Nat
  | [] => 0
  | pattern :: rest => pattern.weight direction + weightOf direction rest

end

/-- Whether the first of some patterns in a row that is not empty is bound to an edge, or one
before it is. Of each pattern is given whether it is bound and whether it is empty. -/
def leadsAtEdge : List (Bool × Bool) → Bool
  | [] => false
  | (bound, isEmpty) :: rest => bound || (isEmpty && leadsAtEdge rest)

/-- The edge of a text where reading in a direction begins. -/
def edgeOf : Direction → Look
  | .forward => .textStart
  | .backward => .textEnd

mutual

/-- The pattern can only match at the edge of the text where reading begins. -/
def isAtEdge (direction : Direction) : Pattern → Bool
  | look condition => condition == edgeOf direction
  | repeated least _ _ inner => 0 < least && inner.isAtEdge direction
  | group _ inner => inner.isAtEdge direction
  | sequence items =>
      leadsAtEdge (direction.order
        ((areAtEdge direction items).zip (items.map isEmptyOnly)))
  | choice branches => (areAtEdge direction branches).all id
  | _ => false

def areAtEdge (direction : Direction) : List Pattern → List Bool
  | [] => []
  | pattern :: rest => pattern.isAtEdge direction :: areAtEdge direction rest

end

/-- What the machine for a direction takes up. One that may start at any place begins with a
repetition of any byte. The whole pattern is a group. -/
def machineWeight (direction : Direction) (pattern : Pattern) : Nat :=
  let begin :=
    if pattern.isAtEdge direction then stateWeight
    else branching 2 + stateWeight + switching 1
  begin + groupWeight direction + pattern.weight direction + stateWeight

end QueryGroup.Pattern
