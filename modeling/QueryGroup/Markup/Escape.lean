import QueryGroup.Text.Substitute
set_option autoImplicit false

namespace QueryGroup.Markup

open Text

/-- A character that is written as an entity. -/
inductive Entity where
  | amp
  | quot
  | lt
  | gt
  | apos
deriving DecidableEq, Repr

namespace Entity

def char : Entity → Char
  | .amp => '&'
  | .quot => '"'
  | .lt => '<'
  | .gt => '>'
  | .apos => '\''

def written : Entity → List Char
  | .amp => "&amp;".toList
  | .quot => "&quot;".toList
  | .lt => "&lt;".toList
  | .gt => "&gt;".toList
  | .apos => "&apos;".toList

/-- In the order in which escaping replaces them. The ampersand comes first, so that no entity
is escaped again. -/
def all : List Entity := [amp, quot, lt, gt, apos]

/-- The entity for a character, if it needs one. -/
def ofChar? (c : Char) : Option Entity := all.find? fun entity => entity.char == c

end Entity

/-- Replaces every special character by its entity. -/
def escapeChars (text : List Char) : List Char :=
  Entity.all.foldl (fun text entity => substitute [entity.char] entity.written text) text

def escape (text : String) : String := .ofList (escapeChars text.toList)

def charText (c : Char) : List Char :=
  match Entity.ofChar? c with
  | some entity => entity.written
  | none => [c]

def readEntity? (text : List Char) : Option (Entity × List Char) :=
  Entity.all.findSome? fun entity =>
    if entity.written.isPrefixOf text then some (entity, text.drop entity.written.length)
    else none

/-- The text holds no special character bare, and every ampersand in it starts an entity. -/
def isEscaped : List Char → Bool
  | [] => true
  | c :: rest =>
      (if c = '&' then (readEntity? (c :: rest)).isSome else (Entity.ofChar? c).isNone) &&
        isEscaped rest

theorem readEntity?_length {text rest : List Char} {entity : Entity}
    (read : readEntity? text = some (entity, rest)) : rest.length < text.length := by
  obtain ⟨candidate, _, found⟩ := List.exists_of_findSome?_eq_some read
  split at found
  · next starts =>
    cases found
    have long := (List.isPrefixOf_iff_prefix.1 starts).length_le
    have positive : 0 < entity.written.length := by cases entity <;> decide
    rw [List.length_drop]
    omega
  · contradiction

/-- Reads escaped text back. A special character that stands bare, or an ampersand that
starts no entity, is refused. -/
def decode? : List Char → Option (List Char)
  | [] => some []
  | c :: rest =>
      match read : readEntity? (c :: rest) with
      | some (entity, after) =>
          have _shorter := readEntity?_length read
          (decode? after).map (entity.char :: ·)
      | none => if (Entity.ofChar? c).isSome then none else (decode? rest).map (c :: ·)
termination_by text => text.length
decreasing_by
  all_goals simp only [List.length_cons] at *
  all_goals omega

end QueryGroup.Markup
