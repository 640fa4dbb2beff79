import QueryGroup.Markup.Reader
import QueryGroup.Proofs.ElementTokens
set_option autoImplicit false

namespace QueryGroup.Markup

namespace ReaderState

theorem decodeText?_escapeChars (text : String) :
    decodeText? (escapeChars text.toList) = some text := by
  simp [decodeText?, decode?_escapeChars]

theorem decodeAttributes?_rawAttributes (attributes : List (String × String)) :
    decodeAttributes? (Element.rawAttributes attributes) = some attributes := by
  unfold decodeAttributes?
  induction attributes with
  | nil => rfl
  | cons pair rest ih =>
      rw [Element.rawAttributes] at ih ⊢
      rw [List.map_cons, List.mapM_cons, ih]
      simp [decodeText?_escapeChars]

theorem isIndentation_gap (level : Nat) : isIndentation (.ofList (Element.gap level)) = true := by
  simp only [isIndentation, String.toList_ofList, List.all_eq_true]
  intro c inside
  rcases Element.mem_gap inside with rfl | rfl <;> rfl

theorem decodeText?_gap (level : Nat) :
    decodeText? (Element.gap level) = some (.ofList (Element.gap level)) := by
  rw [decodeText?, ← Element.escapeChars_gap, decode?_escapeChars, Option.map_some,
    Element.escapeChars_gap]

/-- Indentation may stand in any open element. -/
theorem step?_gap (state : ReaderState) (innermost : Opened) (outer : List Opened) (level : Nat) :
    step? { state with opened := innermost :: outer } (.text (Element.gap level)) =
      some { state with
        opened := { innermost with text := .ofList (Element.gap level) } :: outer } := by
  simp [step?, decodeText?_gap, takeText?, isIndentation_gap]

theorem foldlM_step?_textTokens (state : ReaderState) (name : String)
    (attributes : List (String × String)) (text : String) (outer : List Opened) :
    (Element.textTokens (escapeChars text.toList)).foldlM step?
        { state with opened := { name, attributes } :: outer } =
      some { state with opened := { name, attributes, text } :: outer } := by
  have decoded := decodeText?_escapeChars text
  cases raw : escapeChars text.toList with
  | nil =>
      rw [raw, decodeText?, decode?] at decoded
      cases decoded
      rfl
  | cons c rest =>
      rw [raw] at decoded
      simp [Element.textTokens, step?, decoded, takeText?]

/-- A tag that opens an element and one that closes it, once what is between them is taken. -/
theorem foldlM_step?_between {state : ReaderState} (ready : state.atTag = true)
    (filled : Opened) {inner : List Token}
    (taken : inner.foldlM step? { state with
        opened := { name := filled.name, attributes := filled.attributes } :: state.opened } =
      some { state with opened := filled :: state.opened }) :
    (.opening filled.name.toList (Element.rawAttributes filled.attributes) ::
        (inner ++ [.closing filled.name.toList])).foldlM step? state =
      some (state.deliver filled.element) := by
  have opened : step? state
        (.opening filled.name.toList (Element.rawAttributes filled.attributes)) =
      some { state with
        opened := { name := filled.name, attributes := filled.attributes } :: state.opened } := by
    simp [step?, ready, decodeAttributes?_rawAttributes]
  have closed : step? { state with opened := filled :: state.opened }
        (.closing filled.name.toList) = some (state.deliver filled.element) := by
    simp [step?]
  simp [List.foldlM_cons, List.foldlM_append, opened, taken, closed]

theorem foldlM_step?_childTokens {level : Nat} {children : List Element}
    (each : ∀ child ∈ children, ∀ state : ReaderState, state.atTag = true →
      (child.tokens (level + 1)).foldlM step? state = some (state.deliver child))
    (state : ReaderState) (innermost : Opened) (outer : List Opened) :
    (Element.childTokens level children).foldlM step?
        { state with opened := innermost :: outer } =
      some { state with
        opened := { innermost with
          text := .ofList (Element.gap level)
          children := innermost.children ++ children } :: outer } := by
  induction children generalizing innermost with
  | nil => simp [Element.childTokens, step?_gap]
  | cons child rest ih =>
      have later := ih (fun other member => each other (List.mem_cons_of_mem _ member))
        (innermost.addChild child)
      have first := each child (by simp)
        { state with
          opened := { innermost with text := .ofList (Element.gap (level + 1)) } :: outer }
        (isIndentation_gap (level + 1))
      simp only [Element.childTokens, List.cons_append, List.foldlM_cons, List.foldlM_append,
        step?_gap, Option.bind_eq_bind, Option.bind_some, first]
      simpa [deliver, Opened.addChild] using later

/-- Wherever a tag may stand, the tokens of a readable element deliver it. -/
theorem foldlM_step?_tokens {element : Element} (readable : element.Readable) (level : Nat)
    (state : ReaderState) (ready : state.atTag = true) :
    (element.tokens level).foldlM step? state = some (state.deliver element) := by
  induction readable generalizing level state with
  | empty named =>
      simp [Element.tokens, step?, ready, decodeAttributes?_rawAttributes]
  | @text name attributes named text =>
      have taken := foldlM_step?_textTokens state name attributes text state.opened
      have delivered := foldlM_step?_between ready { name, attributes, text } taken
      simpa [Element.tokens, Opened.element] using delivered
  | @elements name attributes children named nonempty each ih =>
      have taken := foldlM_step?_childTokens
        (fun child member state => ih child member (level + 1) state) state
        { name, attributes } state.opened
      have delivered := foldlM_step?_between ready
        { name, attributes, text := .ofList (Element.gap level), children } taken
      simpa [Element.tokens, Opened.element, nonempty] using delivered

end ReaderState

namespace Element

theorem ofTokens?_tokens {element : Element} (readable : element.Readable) :
    ofTokens? (element.tokens 0 ++ [.text (gap 0)]) = some element := by
  have taken := ReaderState.foldlM_step?_tokens readable 0 {} rfl
  simp [ofTokens?, List.foldlM_append, taken, ReaderState.deliver, ReaderState.step?,
    ReaderState.decodeText?_gap, ReaderState.takeText?, ReaderState.isIndentation_gap]

/-- The lines of a readable element are the text of no other. -/
theorem ofMarkup?_writtenLines {element : Element} (readable : element.Readable) :
    ofMarkup? (writtenLines (element.lines 0)) = some element := by
  rw [ofMarkup?, scan?_writtenLines readable, Option.bind_some, ofTokens?_tokens readable]

end Element

end QueryGroup.Markup
