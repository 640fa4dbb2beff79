import QueryGroup.Proofs.Building
import QueryGroup.Proofs.LineEnds
import QueryGroup.Proofs.ReadBack
set_option autoImplicit false

namespace QueryGroup.Markup

open Xml

theorem Content.ofList_cons (first : Element) (rest : List Element) :
    Content.ofList (first :: rest) = .elements (first :: rest) := rfl

namespace Element

def mapValues (value : String → String) (attributes : List (String × String)) :
    List (String × String) :=
  attributes.map fun pair => (pair.1, value pair.2)

mutual

/-- The tree with its attributes' values and its texts put through these functions. -/
def mapStrings (value text : String → String) : Element → Element
  | .node name attributes .empty => .node name (mapValues value attributes) .empty
  | .node name attributes (.text content) =>
      .node name (mapValues value attributes) (.text (text content))
  | .node name attributes (.elements children) =>
      .node name (mapValues value attributes) (.elements (mapStringsAll value text children))

def mapStringsAll (value text : String → String) : List Element → List Element
  | [] => []
  | child :: rest => mapStrings value text child :: mapStringsAll value text rest

end

mutual

/-- Every attribute's value and every text of the tree is of its kind. -/
def Holds (value text : String → Prop) : Element → Prop
  | .node _ attributes .empty => ∀ pair ∈ attributes, value pair.2
  | .node _ attributes (.text content) => (∀ pair ∈ attributes, value pair.2) ∧ text content
  | .node _ attributes (.elements children) =>
      (∀ pair ∈ attributes, value pair.2) ∧ HoldsAll value text children

def HoldsAll (value text : String → Prop) : List Element → Prop
  | [] => True
  | child :: rest => Holds value text child ∧ HoldsAll value text rest

end

theorem mapStringsAll_eq_map (value text : String → String) (children : List Element) :
    mapStringsAll value text children = children.map (mapStrings value text) := by
  induction children with
  | nil => rfl
  | cons child rest ih => rw [mapStringsAll, ih, List.map_cons]

theorem holdsAll_iff {value text : String → Prop} {children : List Element} :
    HoldsAll value text children ↔ ∀ child ∈ children, child.Holds value text := by
  induction children with
  | nil => simp [HoldsAll]
  | cons child rest ih => rw [HoldsAll, ih, List.forall_mem_cons]

theorem map_eq_self_iff {α : Type} {read : α → α} {items : List α} :
    items.map read = items ↔ ∀ item ∈ items, read item = item := by
  simpa using List.map_inj_left (l := items) (f := read) (g := id)

theorem mapValues_eq_self_iff {value : String → String} {attributes : List (String × String)} :
    mapValues value attributes = attributes ↔ ∀ pair ∈ attributes, value pair.2 = pair.2 := by
  simp [mapValues, map_eq_self_iff, Prod.ext_iff]

/-- A tree stays the same exactly when each of its strings does. -/
theorem mapStrings_eq_self_iff {value text : String → String} (element : Element) :
    element.mapStrings value text = element ↔
      element.Holds (fun string => value string = string) fun string => text string = string := by
  induction element with
  | empty name attributes => simp [mapStrings, Holds, mapValues_eq_self_iff]
  | text name attributes content => simp [mapStrings, Holds, mapValues_eq_self_iff]
  | elements name attributes children ih =>
      simp only [mapStrings, Holds, mapStringsAll_eq_map, holdsAll_iff, node.injEq,
        Content.elements.injEq, mapValues_eq_self_iff, map_eq_self_iff, true_and]
      exact and_congr_right fun _ => forall₂_congr ih

theorem mapValues_mapValues (first second : String → String)
    (attributes : List (String × String)) :
    mapValues second (mapValues first attributes) = mapValues (second ∘ first) attributes := by
  simp [mapValues]

theorem mapStrings_mapStrings (value value' text text' : String → String) (element : Element) :
    (element.mapStrings value text).mapStrings value' text' =
      element.mapStrings (value' ∘ value) (text' ∘ text) := by
  induction element with
  | empty name attributes => simp only [mapStrings, mapValues_mapValues]
  | text name attributes content =>
      simp only [mapStrings, mapValues_mapValues, Function.comp_apply]
  | elements name attributes children ih =>
      have each : children.map (Element.mapStrings value' text' ∘ Element.mapStrings value text) =
          children.map (Element.mapStrings (value' ∘ value) (text' ∘ text)) :=
        List.map_congr_left ih
      simp only [mapStrings, mapStringsAll_eq_map, mapValues_mapValues, List.map_map, each]

theorem HasNames.mapValues {name : String} {attributes : List (String × String)}
    (named : HasNames name attributes) (value : String → String) :
    HasNames name (Element.mapValues value attributes) := by
  refine ⟨named.1, ?_⟩
  intro pair member
  obtain ⟨source, inside, rfl⟩ := List.mem_map.1 member
  exact named.2 source inside

theorem Readable.mapStrings {element : Element} (readable : element.Readable)
    (value text : String → String) : (element.mapStrings value text).Readable := by
  induction readable with
  | empty named => exact .empty (named.mapValues value)
  | text named content => exact .text (named.mapValues value) (text content)
  | elements named nonempty each ih =>
      rw [Element.mapStrings, mapStringsAll_eq_map]
      refine .elements (named.mapValues value) (by simpa using nonempty) ?_
      intro child member
      obtain ⟨source, inside, rfl⟩ := List.mem_map.1 member
      exact ih source inside

theorem mapStrings_ofList (value text : String → String) (name : String)
    (attributes : List (String × String)) (children : List Element) :
    (Element.node name attributes (.ofList children)).mapStrings value text =
      .node name (mapValues value attributes) (.ofList (children.map (mapStrings value text))) := by
  cases children with
  | nil => rfl
  | cons child rest =>
      rw [Content.ofList_cons, mapStrings, mapStringsAll_eq_map]
      rfl

theorem holds_ofList {value text : String → Prop} (name : String)
    (attributes : List (String × String)) (children : List Element) :
    (Element.node name attributes (.ofList children)).Holds value text ↔
      (∀ pair ∈ attributes, value pair.2) ∧ ∀ child ∈ children, child.Holds value text := by
  cases children with
  | nil => simp [Content.ofList, Holds]
  | cons child rest => rw [Content.ofList_cons, Holds, holdsAll_iff]

/-- A section is read item by item. -/
theorem mapStrings_section {α : Type} {value text : String → String} {build : α → Element}
    {read : α → α} (each : ∀ item, (build item).mapStrings value text = build (read item))
    (name : String) (items : List α) :
    ((named name).children (items.map build)).mapStrings value text =
      (named name).children ((items.map read).map build) := by
  simp only [named, children_empty, mapStrings_ofList, List.map_map, Function.comp_def, each]
  rfl

theorem holds_section {α : Type} {value text : String → Prop} (build : α → Element)
    (name : String) (items : List α) :
    ((named name).children (items.map build)).Holds value text ↔
      ∀ item ∈ items, (build item).Holds value text := by
  simp [named, children_empty, holds_ofList]

/-- The characters that a tag has besides its names and values. -/
theorem isChar_marks : isChar '<' = true ∧ isChar '>' = true ∧ isChar '/' = true ∧
    isChar ' ' = true ∧ isChar '=' = true ∧ isChar '"' = true := by decide

theorem all_isChar_of_isName {name : List Char} (named : Token.isName name = true) :
    name.all isChar = true :=
  List.all_eq_true.2 fun _ inside =>
    isChar_of_isAlpha (Token.isAlpha_of_mem_isName named inside)

theorem all_isChar_gap (level : Nat) : (gap level).all isChar = true := by
  rw [List.all_eq_true]
  intro c inside
  rcases mem_gap inside with rfl | rfl <;> rfl

theorem all_isChar_attributeWritten {pair : RawAttribute} (named : Token.isName pair.1 = true) :
    (Token.attributeWritten pair).all isChar = pair.2.all isChar := by
  simp [isChar_marks, Token.attributeWritten, all_isChar_of_isName named]

theorem all_isChar_rawAttributes {attributes : List (String × String)}
    (named : ∀ pair ∈ attributes, Token.isName pair.1.toList = true) :
    ((rawAttributes attributes).flatMap Token.attributeWritten).all isChar = true ↔
      ∀ pair ∈ attributes, isText pair.2 = true := by
  rw [List.all_flatMap, rawAttributes, List.all_map, List.all_eq_true]
  apply forall₂_congr
  intro pair member
  rw [Function.comp_apply, all_isChar_attributeWritten (named pair member),
    all_isChar_escapeChars, isText]

/-- The tree holds no character that is not allowed. -/
abbrev IsAllowed (element : Element) : Prop :=
  element.Holds (fun value => isText value = true) fun text => isText text = true

theorem all_isChar_childTokens {level : Nat} {children : List Element}
    (each : ∀ child ∈ children,
      ((child.tokens (level + 1)).flatMap Token.written).all isChar = true ↔ child.IsAllowed) :
    ((childTokens level children).flatMap Token.written).all isChar = true ↔
      ∀ child ∈ children, child.IsAllowed := by
  induction children with
  | nil => simp [childTokens, Token.written, all_isChar_gap]
  | cons child rest ih =>
      have later := ih fun other member => each other (List.mem_cons_of_mem _ member)
      simp only [childTokens, List.flatMap_append, List.flatMap_cons, List.all_append,
        Token.written, all_isChar_gap, Bool.true_and, Bool.and_eq_true, each child (by simp),
        later, List.forall_mem_cons]

/-- What is between the strings of a tree is allowed anyway. -/
theorem all_isChar_tokens {element : Element} (readable : element.Readable) (level : Nat) :
    ((element.tokens level).flatMap Token.written).all isChar = true ↔ element.IsAllowed := by
  induction readable generalizing level with
  | empty named =>
      have attributes := all_isChar_rawAttributes named.2
      simp only [tokens, Token.written, Holds, IsAllowed, List.flatMap_singleton, List.all_append,
        List.all_cons, List.all_nil, isChar_marks, all_isChar_of_isName named.1, attributes,
        Bool.true_and, Bool.and_true]
  | text named content =>
      have attributes := all_isChar_rawAttributes named.2
      have text := all_isChar_escapeChars content.toList
      simp only [tokens, Token.written, Holds, IsAllowed, isText, List.flatMap_cons,
        List.flatMap_append, List.flatMap_nil, flatMap_written_textTokens, List.all_append,
        List.all_cons, List.all_nil, isChar_marks, all_isChar_of_isName named.1, attributes, text,
        Bool.true_and, Bool.and_true, Bool.and_eq_true]
  | elements named nonempty each ih =>
      have attributes := all_isChar_rawAttributes named.2
      have inner := all_isChar_childTokens fun child member => ih child member (level + 1)
      simp only [tokens, Token.written, Holds, IsAllowed, holdsAll_iff, List.flatMap_cons,
        List.flatMap_append, List.flatMap_nil, List.all_append, List.all_cons, List.all_nil,
        isChar_marks, all_isChar_of_isName named.1, attributes, inner, Bool.true_and,
        Bool.and_true, Bool.and_eq_true]

theorem lineFeeds_attributeWritten {name value : List Char} (named : Token.isName name = true)
    (rest : List Char) :
    lineFeeds (Token.attributeWritten (name, value) ++ rest) =
      Token.attributeWritten (name, lineFeeds value) ++ lineFeeds rest := by
  have absent : '\r' ∉ ' ' :: name ++ ['=', '"'] := by
    simp [Token.not_mem_isName named]
  -- No carriage return stands before the value, and a quote behind it.
  have pieces (value rest : List Char) : Token.attributeWritten (name, value) ++ rest =
      (' ' :: name ++ ['=', '"']) ++ (value ++ '"' :: rest) := by
    simp [Token.attributeWritten]
  rw [pieces, pieces, lineFeeds_append_of_not_mem absent, lineFeeds_append (.inr (by simp)),
    lineFeeds_cons (by decide)]

theorem lineFeeds_rawAttributes {attributes : List (String × String)}
    (named : ∀ pair ∈ attributes, Token.isName pair.1.toList = true) (rest : List Char) :
    lineFeeds ((rawAttributes attributes).flatMap Token.attributeWritten ++ rest) =
      (rawAttributes (mapValues readText attributes)).flatMap Token.attributeWritten ++
        lineFeeds rest := by
  induction attributes with
  | nil => rfl
  | cons pair attributes ih =>
      have later := ih fun other member => named other (List.mem_cons_of_mem _ member)
      rw [rawAttributes, rawAttributes, mapValues] at later ⊢
      simp only [List.map_cons, List.flatMap_cons, List.append_assoc,
        lineFeeds_attributeWritten (named pair (by simp)), later, readText, String.toList_ofList,
        lineFeeds_escapeChars]

theorem not_mem_name {name : String} (named : Token.isName name.toList = true) :
    '\r' ∉ name.toList :=
  Token.not_mem_isName named rfl

/-- A tag that opens and one that closes, with text between them in which no line end is cut
by a bracket. -/
theorem lineFeeds_between {name : String} {attributes : List (String × String)}
    (named : HasNames name attributes) {inner inner' : List Token}
    (read : ∀ rest, lineFeeds (inner.flatMap Token.written ++ '<' :: rest) =
      inner'.flatMap Token.written ++ lineFeeds ('<' :: rest)) (rest : List Char) :
    lineFeeds ((.opening name.toList (rawAttributes attributes) ::
        (inner ++ [.closing name.toList])).flatMap Token.written ++ rest) =
      (.opening name.toList (rawAttributes (mapValues readText attributes)) ::
        (inner' ++ [.closing name.toList])).flatMap Token.written ++ lineFeeds rest := by
  have first : '\r' ∉ '<' :: name.toList := by simp [not_mem_name named.1]
  have last : '\r' ∉ '<' :: '/' :: name.toList ++ ['>'] := by simp [not_mem_name named.1]
  have closed : lineFeeds ('<' :: ('/' :: name.toList ++ (['>'] ++ rest))) =
      '<' :: '/' :: name.toList ++ (['>'] ++ lineFeeds rest) := by
    simpa using lineFeeds_append_of_not_mem last rest
  have between : lineFeeds (inner.flatMap Token.written ++
        ('<' :: '/' :: name.toList ++ (['>'] ++ rest))) =
      inner'.flatMap Token.written ++ ('<' :: '/' :: name.toList ++ (['>'] ++ lineFeeds rest)) :=
    (read _).trans (congrArg (_ ++ ·) closed)
  simp only [List.flatMap_cons, List.flatMap_append, List.flatMap_nil, List.append_nil,
    List.append_assoc, Token.written]
  rw [lineFeeds_append_of_not_mem first, lineFeeds_rawAttributes named.2, List.singleton_append,
    lineFeeds_cons (by decide), between]
  rfl

theorem lineFeeds_childTokens {value text : String → String} {level : Nat}
    {children : List Element}
    (each : ∀ child ∈ children, ∀ rest,
      lineFeeds ((child.tokens (level + 1)).flatMap Token.written ++ rest) =
        ((child.mapStrings value text).tokens (level + 1)).flatMap Token.written ++
          lineFeeds rest)
    (rest : List Char) :
    lineFeeds ((childTokens level children).flatMap Token.written ++ rest) =
      (childTokens level (mapStringsAll value text children)).flatMap Token.written ++
        lineFeeds rest := by
  have absent (level : Nat) : '\r' ∉ gap level := by
    intro inside
    rcases mem_gap inside with feed | blank
    · cases feed
    · cases blank
  induction children with
  | nil =>
      simp [childTokens, mapStringsAll, Token.written, lineFeeds_append_of_not_mem (absent level)]
  | cons child children ih =>
      have later := ih fun other member => each other (List.mem_cons_of_mem _ member)
      simp only [childTokens, mapStringsAll, List.flatMap_cons, List.flatMap_append,
        List.append_assoc, List.cons_append, Token.written,
        lineFeeds_append_of_not_mem (absent (level + 1)), each child (by simp), later]

/-- Taking the line ends of a tree's text for line feeds is taking them so in every string. -/
theorem lineFeeds_tokens {element : Element} (readable : element.Readable) (level : Nat)
    (rest : List Char) :
    lineFeeds ((element.tokens level).flatMap Token.written ++ rest) =
      ((element.mapStrings readText readText).tokens level).flatMap Token.written ++
        lineFeeds rest := by
  induction readable generalizing level rest with
  | @empty name attributes named =>
      have first : '\r' ∉ '<' :: name.toList := by simp [not_mem_name named.1]
      have last : '\r' ∉ [' ', '/', '>'] := by decide
      simp only [tokens, mapStrings, List.flatMap_singleton, Token.written, List.append_assoc]
      rw [lineFeeds_append_of_not_mem first, lineFeeds_rawAttributes named.2,
        lineFeeds_append_of_not_mem last]
  | @text name attributes named content =>
      rw [tokens, mapStrings, tokens]
      apply lineFeeds_between named
      intro rest
      rw [flatMap_written_textTokens, flatMap_written_textTokens, lineFeeds_append (.inr (by simp)),
        lineFeeds_escapeChars, readText, String.toList_ofList]
  | @elements name attributes children named nonempty each ih =>
      rw [tokens, mapStrings, tokens]
      apply lineFeeds_between named
      intro rest
      exact lineFeeds_childTokens (fun child member => ih child member (level + 1)) _

theorem blankValues_rawAttributes (attributes : List (String × String)) :
    Token.blankValues (rawAttributes attributes) =
      rawAttributes (mapValues blankText attributes) := by
  simp [Token.blankValues, rawAttributes, mapValues, blankText, map_blank_escapeChars]

theorem map_blanked_textTokens (raw : List Char) :
    (textTokens raw).map Token.blanked = textTokens raw := by
  cases raw <;> rfl

theorem map_blanked_childTokens {level : Nat} {children : List Element}
    (each : ∀ child ∈ children, (child.tokens (level + 1)).map Token.blanked =
      (child.mapStrings blankText id).tokens (level + 1)) :
    (childTokens level children).map Token.blanked =
      childTokens level (mapStringsAll blankText id children) := by
  induction children with
  | nil => rfl
  | cons child rest ih =>
      have later := ih fun other member => each other (List.mem_cons_of_mem _ member)
      simp only [childTokens, mapStringsAll, List.cons_append, List.map_cons, List.map_append,
        each child (by simp), later, Token.blanked]

theorem map_blanked_tokens (element : Element) (level : Nat) :
    (element.tokens level).map Token.blanked = (element.mapStrings blankText id).tokens level := by
  induction element generalizing level with
  | empty name attributes =>
      simp only [tokens, mapStrings, List.map_singleton, Token.blanked, blankValues_rawAttributes]
  | text name attributes content =>
      simp only [tokens, mapStrings, List.map_cons, List.map_append, List.map_nil, Token.blanked,
        blankValues_rawAttributes, map_blanked_textTokens, id_eq]
  | elements name attributes children ih =>
      have inner := map_blanked_childTokens fun child member => ih child member (level + 1)
      simp only [tokens, mapStrings, List.map_cons, List.map_append, List.map_nil, Token.blanked,
        blankValues_rawAttributes, inner]

theorem readText_writtenLines {element : Element} (readable : element.Readable) :
    readText (writtenLines (element.lines 0)) =
      writtenLines ((element.mapStrings readText readText).lines 0) := by
  have feed := lineFeeds_tokens readable 0 (gap 0)
  rw [lineFeeds_eq_self (show '\r' ∉ gap 0 by decide)] at feed
  rw [← String.toList_inj, readText, String.toList_ofList, toList_writtenLines_root,
    toList_writtenLines_root]
  simpa [Token.written] using feed

/-- A processor reads a tree with the same names and the same shape. -/
theorem ofXml?_readText_writtenLines {element : Element} (readable : element.Readable) :
    ofXml? (readText (writtenLines (element.lines 0))) =
      some (element.mapStrings readValue readText) := by
  have feeds := readable.mapStrings readText readText
  have blanks := feeds.mapStrings blankText id
  rw [readText_writtenLines readable, ofXml?, scan?_writtenLines feeds, Option.bind_some,
    List.map_append, map_blanked_tokens]
  exact (ofTokens?_tokens blanks).trans (congrArg some (mapStrings_mapStrings ..))

theorem isText_writtenLines {element : Element} (readable : element.Readable) :
    isText (writtenLines (element.lines 0)) = true ↔ element.IsAllowed := by
  rw [isText, toList_writtenLines_root, List.flatMap_append, List.all_append, Bool.and_eq_true,
    all_isChar_tokens readable]
  simp [Token.written, all_isChar_gap]

end Element

end QueryGroup.Markup
