import QueryGroup.Markup.Checker
import QueryGroup.Proofs.ElementText
set_option autoImplicit false

namespace QueryGroup.Markup

namespace Element

theorem isEscaped_gap (level : Nat) : isEscaped (gap level) = true := by
  rw [← escapeChars_gap]
  exact isEscaped_escapeChars _

theorem isEscaped_rawAttributes (attributes : List (String × String)) :
    ((rawAttributes attributes).all fun pair => isEscaped pair.2) = true := by
  rw [List.all_eq_true]
  intro pair member
  obtain ⟨source, -, rfl⟩ := List.mem_map.1 member
  dsimp only
  exact isEscaped_escapeChars _

theorem isEscaped_textTokens {raw : List Char} (escaped : isEscaped raw = true) :
    ∀ token ∈ textTokens raw, token.isEscaped = true := by
  cases raw with
  | nil => simp [textTokens]
  | cons c rest =>
      intro token member
      cases List.mem_singleton.1 member
      exact escaped

theorem isEscaped_childTokens {level : Nat} {children : List Element}
    (each : ∀ child ∈ children, ∀ token ∈ child.tokens (level + 1), token.isEscaped = true) :
    ∀ token ∈ childTokens level children, token.isEscaped = true := by
  induction children with
  | nil =>
      intro token member
      cases List.mem_singleton.1 member
      exact isEscaped_gap level
  | cons child rest ih =>
      intro token member
      rw [childTokens, List.cons_append, List.mem_cons, List.mem_append] at member
      rcases member with rfl | inChild | inRest
      · exact isEscaped_gap (level + 1)
      · exact each child (by simp) token inChild
      · exact ih (fun other member => each other (List.mem_cons_of_mem _ member)) token inRest

/-- Whatever strings an element holds, no token of it has a special character bare. -/
theorem isEscaped_tokens (element : Element) (level : Nat) :
    ∀ token ∈ element.tokens level, token.isEscaped = true := by
  induction element generalizing level with
  | empty name attributes =>
      intro token member
      cases List.mem_singleton.1 member
      exact isEscaped_rawAttributes attributes
  | text name attributes text =>
      intro token member
      rw [tokens, List.mem_cons, List.mem_append, List.mem_singleton] at member
      rcases member with rfl | inside | rfl
      · exact isEscaped_rawAttributes attributes
      · exact isEscaped_textTokens (isEscaped_escapeChars _) token inside
      · rfl
  | elements name attributes children ih =>
      intro token member
      rw [tokens, List.mem_cons, List.mem_append, List.mem_singleton] at member
      rcases member with rfl | inside | rfl
      · exact isEscaped_rawAttributes attributes
      · exact isEscaped_childTokens (fun child member => ih child member (level + 1)) token inside
      · rfl

end Element

namespace Nesting

theorem enter_of_opened {nesting : Nesting} (name : List Char) (inside : nesting.opened ≠ []) :
    nesting.enter name = nesting := by
  simp [enter, inside]

theorem opened_enter (nesting : Nesting) (name : List Char) :
    (nesting.enter name).opened = nesting.opened := by
  unfold enter
  split <;> rfl

/-- A tag that opens and one that closes, with nothing but whole elements between them. -/
theorem foldlM_step?_between (nesting : Nesting) (name : List Char)
    (attributes : List RawAttribute) {inner : List Token}
    (neutral : ∀ nesting : Nesting, nesting.opened ≠ [] →
      inner.foldlM step? nesting = some nesting) :
    (.opening name attributes :: (inner ++ [.closing name])).foldlM step? nesting =
      some (nesting.enter name) := by
  have entered := neutral { nesting.enter name with opened := name :: nesting.opened } (by simp)
  simp only [List.foldlM_cons, List.foldlM_append, step?, Option.bind_eq_bind, Option.bind_some,
    entered, if_true, List.foldlM_nil, Option.pure_def]
  rw [← opened_enter nesting name]

theorem foldlM_step?_textTokens (raw : List Char) (nesting : Nesting) :
    (Element.textTokens raw).foldlM step? nesting = some nesting := by
  cases raw <;> rfl

theorem foldlM_step?_childTokens {level : Nat} {children : List Element}
    (each : ∀ child ∈ children, ∀ nesting : Nesting,
      (child.tokens (level + 1)).foldlM step? nesting =
        some (nesting.enter child.name.toList))
    (nesting : Nesting) (inside : nesting.opened ≠ []) :
    (Element.childTokens level children).foldlM step? nesting = some nesting := by
  induction children with
  | nil => rfl
  | cons child rest ih =>
      have later := ih fun other member => each other (List.mem_cons_of_mem _ member)
      simp only [Element.childTokens, List.cons_append, List.foldlM_cons, List.foldlM_append,
        step?, Option.bind_eq_bind, Option.bind_some, each child (by simp),
        enter_of_opened _ inside, later]

/-- An element's tokens close everything they open. -/
theorem foldlM_step?_tokens (element : Element) (level : Nat) (nesting : Nesting) :
    (element.tokens level).foldlM step? nesting = some (nesting.enter element.name.toList) := by
  induction element generalizing level nesting with
  | empty name attributes => rfl
  | text name attributes text =>
      rw [Element.tokens]
      exact foldlM_step?_between nesting _ _ fun inner _ => foldlM_step?_textTokens _ inner
  | elements name attributes children ih =>
      rw [Element.tokens]
      apply foldlM_step?_between
      exact foldlM_step?_childTokens fun child member => ih child member (level + 1)

end Nesting

namespace Element

/-- The names in a tag are words. -/
def HasNames (name : String) (attributes : List (String × String)) : Prop :=
  Token.isName name.toList = true ∧ ∀ pair ∈ attributes, Token.isName pair.1.toList = true

/-- The element can be told from its text: its names are words, and where it has a list of
children the list is not empty. -/
inductive Readable : Element → Prop
  | empty {name : String} {attributes : List (String × String)}
      (named : HasNames name attributes) : Readable (.node name attributes .empty)
  | text {name : String} {attributes : List (String × String)}
      (named : HasNames name attributes) (text : String) :
      Readable (.node name attributes (.text text))
  | elements {name : String} {attributes : List (String × String)} {children : List Element}
      (named : HasNames name attributes) (nonempty : children ≠ [])
      (each : ∀ child ∈ children, Readable child) :
      Readable (.node name attributes (.elements children))

theorem plain_rawAttributes {attributes : List (String × String)}
    (named : ∀ pair ∈ attributes, Token.isName pair.1.toList = true) :
    ∀ pair ∈ rawAttributes attributes, Token.Plain pair := by
  intro pair member
  obtain ⟨source, inside, rfl⟩ := List.mem_map.1 member
  constructor <;> dsimp only
  · exact named source inside
  · exact not_mem_escapeChars _ (.inr (.inr rfl))
  · exact not_mem_escapeChars _ (.inr (.inl rfl))

theorem written_tokens_eq_cons (element : Element) (level : Nat) :
    ∃ tail, (element.tokens level).flatMap Token.written = '<' :: tail := by
  cases element with
  | node name attributes content => cases content <;> simp [tokens, Token.written]

/-- A line of indentation never runs into the tag behind it. -/
theorem scan?_gap (level : Nat) (rest : List Char) :
    Token.scan? (gap level ++ '<' :: rest) =
      (Token.scan? ('<' :: rest)).map (.text (gap level) :: ·) := by
  have plain : '<' ∉ gap level := by
    simp [gap, List.mem_replicate]
  exact Token.scan?_text (by simp [gap]) plain (by simp)

theorem scan?_textTokens {raw : List Char} (plain : '<' ∉ raw) (rest : List Char) :
    Token.scan? (raw ++ '<' :: rest) = (Token.scan? ('<' :: rest)).map (textTokens raw ++ ·) := by
  cases raw with
  | nil => simp [textTokens]
  | cons c tail =>
      rw [Token.scan?_text (by simp) plain (by simp)]
      rfl

theorem scan?_childTokens {level : Nat} {children : List Element}
    (each : ∀ child ∈ children, ∀ rest,
      Token.scan? ((child.tokens (level + 1)).flatMap Token.written ++ rest) =
        (Token.scan? rest).map (child.tokens (level + 1) ++ ·))
    (rest : List Char) :
    Token.scan? ((childTokens level children).flatMap Token.written ++ '<' :: rest) =
      (Token.scan? ('<' :: rest)).map (childTokens level children ++ ·) := by
  induction children with
  | nil =>
      simp only [childTokens, List.flatMap_cons, List.flatMap_nil, List.append_nil]
      exact scan?_gap level rest
  | cons child children ih =>
      have later := ih fun other member => each other (List.mem_cons_of_mem _ member)
      have first := each child (by simp)
        ((childTokens level children).flatMap Token.written ++ '<' :: rest)
      obtain ⟨tail, shape⟩ := written_tokens_eq_cons child (level + 1)
      simp only [childTokens, List.cons_append, List.flatMap_cons, List.flatMap_append,
        List.append_assoc]
      rw [later] at first
      rw [shape, List.cons_append] at first ⊢
      rw [Token.written, scan?_gap, first]
      simp [Function.comp_def]

/-- A tag that opens and one that closes, with tokens between them that end at a bracket. -/
theorem scan?_between {name : String} {attributes : List (String × String)}
    (named : HasNames name attributes) {inner : List Token}
    (read : ∀ rest, Token.scan? (inner.flatMap Token.written ++ '<' :: rest) =
      (Token.scan? ('<' :: rest)).map (inner ++ ·)) (rest : List Char) :
    Token.scan? ((.opening name.toList (rawAttributes attributes) ::
        (inner ++ [.closing name.toList])).flatMap Token.written ++ rest) =
      (Token.scan? rest).map (.opening name.toList (rawAttributes attributes) ::
        (inner ++ [.closing name.toList]) ++ ·) := by
  have first : (Token.opening name.toList (rawAttributes attributes)).IsPlainTag :=
    ⟨named.1, plain_rawAttributes named.2⟩
  have last : (Token.closing name.toList).IsPlainTag := named.1
  have closed := Token.scan?_written last rest
  simp only [List.flatMap_cons, List.flatMap_append, List.flatMap_nil, List.append_nil,
    List.append_assoc]
  rw [Token.scan?_written first]
  rw [Token.written, List.cons_append, List.cons_append] at closed ⊢
  rw [read, closed]
  simp [Function.comp_def]

/-- An element's tokens are scanned from its text, whatever follows it. -/
theorem scan?_tokens {element : Element} (readable : element.Readable) (level : Nat)
    (rest : List Char) :
    Token.scan? ((element.tokens level).flatMap Token.written ++ rest) =
      (Token.scan? rest).map (element.tokens level ++ ·) := by
  induction readable generalizing level rest with
  | @empty name attributes named =>
      have tag : (Token.single name.toList (rawAttributes attributes)).IsPlainTag :=
        ⟨named.1, plain_rawAttributes named.2⟩
      simpa [tokens] using Token.scan?_written tag rest
  | text named text =>
      rw [tokens]
      apply scan?_between named
      intro rest
      rw [flatMap_written_textTokens]
      exact scan?_textTokens (not_mem_escapeChars _ (.inl rfl)) rest
  | elements named _ _ ih =>
      rw [tokens]
      apply scan?_between named
      exact scan?_childTokens fun child member => ih child member (level + 1)

/-- The tokens of a whole text: those of its element and the last line feed. -/
theorem scan?_writtenLines {element : Element} (readable : element.Readable) :
    Token.scan? (writtenLines (element.lines 0)).toList =
      some (element.tokens 0 ++ [.text (gap 0)]) := by
  have feed : Token.scan? (gap 0) = some [.text (gap 0)] := by
    simp [gap, Token.scan?]
  rw [toList_writtenLines_root, List.flatMap_append, scan?_tokens readable]
  simp [Token.written, feed]

/-- The lines of a readable element are one well-formed element of its name. -/
theorem isWellFormed_writtenLines {element : Element} (readable : element.Readable) :
    isWellFormed element.name (writtenLines (element.lines 0)) = true := by
  have escaped : (element.tokens 0 ++ [Token.text (gap 0)]).all Token.isEscaped = true := by
    rw [List.all_eq_true]
    intro token member
    rcases List.mem_append.1 member with inside | last
    · exact isEscaped_tokens element 0 token inside
    · cases List.mem_singleton.1 last
      exact isEscaped_gap 0
  have nested : isNested element.name.toList (element.tokens 0 ++ [.text (gap 0)]) = true := by
    rw [isNested, List.foldlM_append, Nesting.foldlM_step?_tokens]
    simp [Nesting.step?, Nesting.enter]
  simp only [isWellFormed, scan?_writtenLines readable, escaped, nested, Bool.and_self]

end Element

end QueryGroup.Markup
