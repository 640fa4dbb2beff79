import QueryGroup.Pattern.Build
import QueryGroup.Pattern.Expression
set_option autoImplicit false

/- What the parts of a pattern mean under their flags. The letters of all scripts and their
cases are not at hand: sets that go by a letter and letters in any case are those of ASCII,
and where the flags do not say so they mean nothing. -/
namespace QueryGroup.Pattern

/-- A set or all that is not in it. A set of bytes cannot have the bytes beyond ASCII. -/
def CharSet.withSign (flags : Flags) (span : Span) (negated : Bool) (set : CharSet) :
    Except Fault CharSet :=
  if !negated then .ok set
  else if flags.ascii then blame .brokenCharacters span
  else .ok set.complement

/-- A character as such. One that is given as a byte beyond ASCII is no character where
bytes count. -/
def literalOf (flags : Flags) (span : Span) (c : Char) (byte : Bool) : Except Fault Char :=
  if flags.ascii && byte && 0x80 ≤ c.toNat then blame .brokenCharacters span else .ok c

/-- A character as an item of a set. -/
def itemOf (flags : Flags) (span : Span) (c : Char) (byte : Bool) : Except Fault Char := do
  let c ← literalOf flags span c byte
  if flags.ascii && 0x80 ≤ c.toNat then blame .beyondAscii span
  return c

def dotSet (flags : Flags) : CharSet :=
  if flags.dotAll then .everything
  else if flags.returns then CharSet.complement (.ofList ['\n', '\r'])
  else CharSet.complement (.single '\n')

/-- The set that an atom stands for, as an item of a set or by itself. -/
def Atom.set (flags : Flags) (span : Span) : Atom → Except Fault CharSet
  | literal c byte => CharSet.single <$> itemOf flags span c byte
  | letterSet set negated =>
      if flags.ascii then set.withSign flags span negated else blame .setUnknown span
  | property => blame (if flags.ascii then .beyondAscii else .propertyUnknown) span
  | dot => if flags.ascii then blame .brokenCharacters span else .ok (dotSet flags)
  | textEdge _ | wordEdge _ => .ok .nothing

def Atom.meaning (flags : Flags) (span : Span) : Atom → Except Fault Pattern
  | literal c byte => do
      let c ← literalOf flags span c byte
      if !flags.anyCase then return text [c]
      else if flags.ascii then return ofSet true (.anyCase (.single c))
      else blame .caseUnknown span
  | textEdge condition => return look condition
  | wordEdge edge => return look (.word edge flags.ascii)
  | atom => ofSet flags.ascii <$> atom.set flags span

def SetOperator.apply : SetOperator → CharSet → CharSet → CharSet
  | intersection => .intersection
  | difference => .difference
  | symmetricDifference => .symmetricDifference

namespace SetExpression

def isCharacters : SetExpression → Bool
  | atom _ _ => true
  | range _ _ _ => true
  | _ => false

/-- There are characters among the items whose cases would have to be known. What is left of
nested sets and operations is nothing or everything, which has no cases. -/
def hasCharacters : SetExpression → Bool
  | list _ items => items.any isCharacters
  | item => item.isCharacters

/-- The set of an expression in any case of letters, if the flags ask for that. -/
def withCase (flags : Flags) (span : Span) (expression : SetExpression) (set : CharSet) :
    Except Fault CharSet :=
  if !flags.anyCase then .ok set
  else if flags.ascii then .ok set.anyCase
  else if expression.hasCharacters then blame .caseUnknown span
  else .ok set

mutual

def meaning (flags : Flags) : SetExpression → Except Fault CharSet
  | empty _ => .ok .nothing
  | atom span item => item.set flags span
  | range _ (low, lowByte, lowSpan) (high, highByte, highSpan) => do
      let low ← itemOf flags lowSpan low lowByte
      let high ← itemOf flags highSpan high highByte
      return .range low high
  | named span set negated => do
      if flags.anyCase && !flags.ascii then blame .caseUnknown span
      let set := if flags.anyCase then set.anyCase else set
      set.withSign flags span negated
  | brackets span negated inner => do
      let set ← inner.meaning flags
      let set ← inner.withCase flags span set
      set.withSign flags span negated
  | list _ items => union flags items
  | operation _ operator left right => do
      let leftSet ← left.meaning flags
      let rightSet ← right.meaning flags
      let rightSet ← right.withCase flags right.span rightSet
      let leftSet ← left.withCase flags left.span leftSet
      return operator.apply leftSet rightSet

def union (flags : Flags) : List SetExpression → Except Fault CharSet
  | [] => .ok .nothing
  | item :: rest => do
      let set ← item.meaning flags
      return .union set (← union flags rest)

end

end SetExpression

namespace Expression

mutual

def meaning : Expression → Except Fault Pattern
  | empty _ => .ok .empty
  | setting _ => .ok .empty
  | atom span flags item => item.meaning flags span
  | brackets flags inner => ofSet flags.ascii <$> inner.meaning flags
  | repetition _ flags count inner =>
      repeatedOf count.least count.most (count.marked != flags.swapped) <$> inner.meaning
  | group _ number inner =>
      match number with
      | some number => Pattern.group number <$> inner.meaning
      | none => inner.meaning
  | sequence _ items => sequenceOf <$> meaningOf items
  | choice _ branches => choiceOf <$> meaningOf branches

def meaningOf : List Expression → Except Fault (List Pattern)
  | [] => .ok []
  | item :: rest => do
      let first ← item.meaning
      return first :: (← meaningOf rest)

end

end Expression

end QueryGroup.Pattern
