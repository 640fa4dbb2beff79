set_option autoImplicit false

namespace QueryGroup.Markup

/-- An attribute's name and its value as written. -/
abbrev RawAttribute := List Char × List Char

inductive Token where
  | text (raw : List Char)
  | opening (name : List Char) (attributes : List RawAttribute)
  | single (name : List Char) (attributes : List RawAttribute)
  | closing (name : List Char)
deriving DecidableEq, Repr

namespace Token

/-- An attribute as it stands in a tag, with the blank before it. -/
def attributeWritten (pair : RawAttribute) : List Char :=
  ' ' :: pair.1 ++ '=' :: '"' :: pair.2 ++ ['"']

def written : Token → List Char
  | .text raw => raw
  | .opening name attributes => '<' :: name ++ attributes.flatMap attributeWritten ++ ['>']
  | .single name attributes => '<' :: name ++ attributes.flatMap attributeWritten ++ [' ', '/', '>']
  | .closing name => '<' :: '/' :: name ++ ['>']

/-- Names are words of ASCII letters. -/
def isName (text : List Char) : Bool := !text.isEmpty && text.all Char.isAlpha

def splitAt? (stop : Char) (text : List Char) : Option (List Char × List Char) :=
  match text.dropWhile (· != stop) with
  | [] => none
  | _ :: rest => some (text.takeWhile (· != stop), rest)

theorem splitAt?_length {stop : Char} {text front rest : List Char}
    (split : splitAt? stop text = some (front, rest)) : rest.length < text.length := by
  unfold splitAt? at split
  split at split
  · contradiction
  · next c after dropped =>
    cases split
    have short := (List.dropWhile_suffix (l := text) (· != stop)).length_le
    rw [dropped, List.length_cons] at short
    exact short

/-- Reads attributes to the end of a tag, and whether a slash ends it. Each is a blank, a
name, an equals sign and a quoted value. -/
def scanAttributes? : List Char → Option (List RawAttribute × Bool)
  | [] => some ([], false)
  | [' ', '/'] => some ([], true)
  | ' ' :: behind =>
      match named : splitAt? '=' behind with
      | some (name, '"' :: quoted) =>
          -- An escaped value holds no quote, so it ends at the next one.
          match valued : splitAt? '"' quoted with
          | some (value, rest) =>
              have _first := splitAt?_length named
              have _second := splitAt?_length valued
              if isName name then
                (scanAttributes? rest).map fun read => ((name, value) :: read.1, read.2)
              else none
          | none => none
      | _ => none
  | _ => none
termination_by text => text.length
decreasing_by
  all_goals simp only [List.length_cons] at *
  all_goals omega

def ofTag? : List Char → Option Token
  | '/' :: name => if isName name then some (.closing name) else none
  | tag =>
      let name := tag.takeWhile (· != ' ')
      if isName name then
        (scanAttributes? (tag.dropWhile (· != ' '))).map fun read =>
          if read.2 then .single name read.1 else .opening name read.1
      else none

/-- The tokens of the text; no text token is empty, and no two stand together. -/
def scan? : List Char → Option (List Token)
  | [] => some []
  | c :: rest =>
      if c = '<' then
        match tagged : splitAt? '>' rest with
        | some (tag, after) =>
            have _shorter := splitAt?_length tagged
            match ofTag? tag, scan? after with
            | some token, some tokens => some (token :: tokens)
            | _, _ => none
        | none => none
      else
        have _shorter := (List.dropWhile_suffix (l := rest) (· != '<')).length_le
        (scan? (rest.dropWhile (· != '<'))).map
          (.text (c :: rest.takeWhile (· != '<')) :: ·)
termination_by text => text.length
decreasing_by
  all_goals simp only [List.length_cons] at *
  all_goals omega

end Token

end QueryGroup.Markup
