import Mathlib.Data.List.Basic
import Mathlib.Data.List.Induction
import QueryGroup.Proofs.Escaping
set_option autoImplicit false

/- The replacements that escaping makes, one after another. Whatever one of them looks for, no
earlier one has written, so an entity once written is never looked into; hence the order comes
to one pass in which each character is written on its own. -/
namespace QueryGroup.Markup

open Text

/-- The text after these replacements, made in order. -/
def escapedBy (entities : List Entity) (text : List Char) : List Char :=
  entities.foldl (fun text entity => substitute [entity.char] entity.written text) text

theorem escapedBy_append_singleton (earlier : List Entity) (last : Entity) (text : List Char) :
    escapedBy (earlier ++ [last]) text =
      substitute [last.char] last.written (escapedBy earlier text) := by
  simp [escapedBy]

/-- A stretch of a text that is being escaped: a character of the text as it was given, or an
entity that a replacement has written. -/
inductive Piece where
  | given (c : Char)
  | written (entity : Entity)
deriving DecidableEq, Repr

namespace Piece

def text : Piece → List Char
  | .given c => [c]
  | .written entity => entity.written

/-- A replacement that looks at given characters only. -/
def replace (entity : Entity) : Piece → Piece
  | .given c => if c = entity.char then .written entity else .given c
  | .written earlier => .written earlier

/-- The pieces of a text after such replacements, made in order. -/
def escapedBy (entities : List Entity) (text : List Char) : List Piece :=
  entities.foldl (fun pieces entity => pieces.map (replace entity)) (text.map .given)

theorem escapedBy_append_singleton (earlier : List Entity) (last : Entity) (text : List Char) :
    escapedBy (earlier ++ [last]) text = (escapedBy earlier text).map (replace last) := by
  simp [escapedBy]

/-- Only what was replaced so far is written. -/
theorem mem_of_written_mem {entities : List Entity} {text : List Char} {entity : Entity}
    (member : written entity ∈ escapedBy entities text) : entity ∈ entities := by
  induction entities using List.reverseRecOn with
  | nil => simp [escapedBy] at member
  | append_singleton earlier last ih =>
      rw [escapedBy_append_singleton, List.mem_map] at member
      obtain ⟨before, inside, becomes⟩ := member
      cases before with
      | given c =>
          by_cases sought : c = last.char
          · rw [replace, if_pos sought, written.injEq] at becomes
            simp [becomes]
          · rw [replace, if_neg sought] at becomes
            cases becomes
      | written found =>
          rw [replace, written.injEq] at becomes
          subst becomes
          exact List.mem_append_left _ (ih inside)

end Piece

/-- A replacement goes piece by piece, if what it looks for was not written before. -/
theorem substitute_flatMap_text {pieces : List Piece} {entity : Entity}
    (fresh : ∀ earlier, .written earlier ∈ pieces → entity.char ∉ earlier.written) :
    substitute [entity.char] entity.written (pieces.flatMap Piece.text) =
      (pieces.map (Piece.replace entity)).flatMap Piece.text := by
  have each : ∀ piece ∈ pieces, substitute [entity.char] entity.written piece.text =
      (piece.replace entity).text := by
    intro piece inside
    cases piece with
    | given c =>
        rw [substitute_single, Piece.text, List.flatMap_singleton, Piece.replace]
        split
        · rfl
        · rfl
    | written earlier => exact substitute_single_of_not_mem (fresh earlier inside) entity.written
  rw [substitute_single, List.flatMap_assoc, List.flatMap_map]
  simp only [← substitute_single]
  exact List.flatMap_congr each

/-- No entity holds the character that a later replacement looks for. -/
theorem pairwise_not_mem_written :
    Entity.all.Pairwise fun earlier later => later.char ∉ earlier.written := by
  decide

/-- The replacements on the text are the replacements on its pieces, at every stage. -/
theorem escapedBy_eq_flatMap_text {entities : List Entity}
    (apart : entities.Pairwise fun earlier later => later.char ∉ earlier.written)
    (text : List Char) :
    escapedBy entities text = (Piece.escapedBy entities text).flatMap Piece.text := by
  induction entities using List.reverseRecOn with
  | nil =>
      simp only [escapedBy, Piece.escapedBy, List.foldl_nil, List.flatMap_map, Piece.text,
        List.flatMap_singleton']
  | append_singleton earlier last ih =>
      obtain ⟨before, -, behind⟩ := List.pairwise_append.1 apart
      -- From the back: what is written when the last one is made, earlier ones have written.
      have fresh : ∀ entity, .written entity ∈ Piece.escapedBy earlier text →
          last.char ∉ entity.written := by
        intro entity member
        exact behind entity (Piece.mem_of_written_mem member) last (by simp)
      rw [escapedBy_append_singleton, ih before, substitute_flatMap_text fresh,
        Piece.escapedBy_append_singleton]

theorem charText_eq (c : Char) :
    charText c =
      if c = '&' then "&amp;".toList else if c = '"' then "&quot;".toList
      else if c = '<' then "&lt;".toList else if c = '>' then "&gt;".toList
      else if c = '\'' then "&apos;".toList else [c] := by
  cases found : Entity.ofChar? c with
  | some entity =>
      rw [← Entity.char_of_ofChar? found, charText_char]
      cases entity <;> rfl
  | none =>
      obtain ⟨amp, quot, lt, gt, apos⟩ := (Entity.ofChar?_eq_none_iff c).1 found
      rw [charText_of_ofChar?_eq_none found, if_neg amp, if_neg quot, if_neg lt, if_neg gt,
        if_neg apos]

theorem escape_eq_ofList_flatMap (text : String) :
    escape text = .ofList (text.toList.flatMap charText) := by
  rw [escape, escapeChars_eq_flatMap]

/-- Escaping is one pass over the characters, though it is made by replacing in the whole text
one special character after another. After any number of the replacements the text is what
they make of the given characters, with every entity written before left as it is. -/
theorem escape_singlePass (text : String) :
    escape text = .ofList (text.toList.flatMap charText) ∧
      (∀ c, charText c =
        if c = '&' then "&amp;".toList else if c = '"' then "&quot;".toList
        else if c = '<' then "&lt;".toList else if c = '>' then "&gt;".toList
        else if c = '\'' then "&apos;".toList else [c]) ∧
      (∀ rest, escape (text ++ rest) = escape text ++ escape rest) ∧
      escape text = .ofList (escapedBy Entity.all text.toList) ∧
      (∀ count, escapedBy (Entity.all.take count) text.toList =
        (Piece.escapedBy (Entity.all.take count) text.toList).flatMap Piece.text) ∧
      Entity.all.Pairwise fun earlier later =>
        substitute [later.char] later.written earlier.written = earlier.written := by
  have append (rest : String) : escape (text ++ rest) = escape text ++ escape rest := by
    simp only [escape_eq_ofList_flatMap, String.toList_append, List.flatMap_append,
      String.ofList_append]
  have stage (count : Nat) := escapedBy_eq_flatMap_text
    (pairwise_not_mem_written.sublist (List.take_sublist count Entity.all)) text.toList
  have untouched : Entity.all.Pairwise fun earlier later =>
      substitute [later.char] later.written earlier.written = earlier.written :=
    pairwise_not_mem_written.imp fun absent => substitute_single_of_not_mem absent _
  exact ⟨escape_eq_ofList_flatMap text, charText_eq, append, rfl, stage, untouched⟩

example : escape "<&lt;'" = "&lt;&amp;lt;&apos;" := by decide +kernel

end QueryGroup.Markup
