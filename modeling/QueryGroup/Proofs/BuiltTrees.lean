import Mathlib.Data.List.Induction
import Mathlib.Data.List.Nodup
import QueryGroup.Proofs.Building
import QueryGroup.Proofs.ReadBack
set_option autoImplicit false

namespace QueryGroup.Markup

namespace Element

/-- The element is made by calls, whose names are words, of elements made so. -/
inductive Built : Element → Prop
  | named {name : String} (word : Token.isName name.toList = true) : Built (named name)
  | withAttribute {element : Element} (built : Built element) {key : String}
      (word : Token.isName key.toList = true) (value : String) :
      Built (element.withAttribute key value)
  | text {element : Element} (built : Built element) (text : String) : Built (element.text text)
  | child {element last : Element} (built : Built element) (lastBuilt : Built last) :
      Built (element.child last)
  | children {element : Element} {added : List Element} (built : Built element)
      (each : ∀ child ∈ added, Built child) : Built (element.children added)

namespace Built

theorem readable {element : Element} (built : element.Built) : element.Readable := by
  induction built with
  | named word => exact readable_named word
  | withAttribute _ word value readable => exact readable.withAttribute word value
  | text _ text readable => exact readable.withText text
  | child _ _ readable lastReadable => exact readable.child lastReadable
  | children _ _ readable each => exact readable.children each

theorem withAttributes {name : String} {attributes : List (String × String)}
    (named : HasNames name attributes) : (node name attributes .empty).Built := by
  induction attributes using List.reverseRecOn with
  | nil => exact .named named.1
  | append_singleton front last ih =>
      have words : HasNames name front :=
        ⟨named.1, fun pair member => named.2 pair (List.mem_append_left _ member)⟩
      exact (ih words).withAttribute (named.2 last (by simp)) last.2

end Built

/-- Calls in the order of the text make any element that can be told from its text. -/
theorem Readable.built {element : Element} (readable : element.Readable) : element.Built := by
  induction readable with
  | empty named => exact .withAttributes named
  | text named text => exact (Built.withAttributes named).text text
  | @elements name attributes children named nonempty _ each =>
      have filled := (Built.withAttributes named).children each
      obtain ⟨first, rest, rfl⟩ := List.exists_cons_of_ne_nil nonempty
      rw [children_empty] at filled
      exact filled

/-- Calls never leave an empty list of children. -/
theorem not_built_elements_nil (name : String) (attributes : List (String × String)) :
    ¬ (node name attributes (.elements [])).Built := by
  intro built
  cases built.readable with
  | elements _ nonempty _ => exact nonempty rfl

/-- What a call adds is made of words and of built elements. -/
def Step.IsBuilt : Step → Prop
  | .withAttribute key _ => Token.isName key.toList = true
  | .text _ => True
  | .child last => last.Built
  | .children added => ∀ child ∈ added, child.Built

theorem Built.step {element : Element} (built : element.Built) {step : Step}
    (added : step.IsBuilt) : (element.step step).Built := by
  cases step with
  | withAttribute key value => exact built.withAttribute added value
  | text text => exact built.text text
  | child last => exact built.child added
  | children list => exact built.children added

theorem built_build {name : String} (word : Token.isName name.toList = true) {steps : List Step}
    (added : ∀ step ∈ steps, step.IsBuilt) : (build name steps).Built := by
  induction steps using List.reverseRecOn with
  | nil => exact .named word
  | append_singleton front last ih =>
      rw [build_append_singleton]
      exact (ih fun step member => added step (List.mem_append_left _ member)).step
        (added last (by simp))

theorem markup_eq (element : Element) : element.markup = writtenLines (element.lines 0) := by
  rw [markup, write_eq, String.empty_append]

end Element

namespace Token

/-- The names in the token are words. -/
def HasNames : Token → Prop
  | .text _ | .closing _ => True
  | .opening name attributes | .single name attributes =>
      isName name = true ∧ ∀ pair ∈ attributes, isName pair.1 = true

theorem isName_of_scanAttributes? {text : List Char} {read : List RawAttribute × Bool}
    (scanned : scanAttributes? text = some read) : ∀ pair ∈ read.1, isName pair.1 = true := by
  fun_induction scanAttributes? text generalizing read with
  | case1 | case2 =>
      cases scanned
      simp
  | case3 _ _ name _ _ value rest _ _ _ word ih =>
      obtain ⟨later, scannedLater, rfl⟩ := Option.map_eq_some_iff.1 scanned
      exact List.forall_mem_cons.2 ⟨word, ih scannedLater⟩
  | case4 | case5 | case6 | case7 => cases scanned

theorem hasNames_of_ofTag? {tag : List Char} {token : Token} (read : ofTag? tag = some token) :
    token.HasNames := by
  unfold ofTag? at read
  split at read
  · split at read
    · cases read
      trivial
    · cases read
  · dsimp only at read
    split at read
    · next word =>
      obtain ⟨attributes, scanned, rfl⟩ := Option.map_eq_some_iff.1 read
      have words := isName_of_scanAttributes? scanned
      split
      · exact ⟨word, words⟩
      · exact ⟨word, words⟩
    · cases read

/-- Whatever the text, its tags are given only if their names are words. -/
theorem hasNames_of_scan? {text : List Char} {tokens : List Token}
    (scanned : scan? text = some tokens) : ∀ token ∈ tokens, token.HasNames := by
  fun_induction scan? text generalizing tokens with
  | case1 =>
      cases scanned
      simp
  | case2 _ tag after _ _ token rest scannedRest read ih =>
      cases scanned
      exact List.forall_mem_cons.2 ⟨hasNames_of_ofTag? read, ih scannedRest⟩
  | case3 | case4 => cases scanned
  | case5 first rest _ _ ih =>
      obtain ⟨later, scannedLater, rfl⟩ := Option.map_eq_some_iff.1 scanned
      exact List.forall_mem_cons.2 ⟨trivial, ih scannedLater⟩

end Token

namespace ReaderState

open Element (HasNames Readable)

/-- What was read so far can be told from its text. -/
structure IsReadable (state : ReaderState) : Prop where
  opened : ∀ element ∈ state.opened,
    HasNames element.name element.attributes ∧ ∀ child ∈ element.children, child.Readable
  root : ∀ element, state.root = some element → element.Readable

theorem hasNames_of_decodeAttributes? {name : List Char} {raw : List RawAttribute}
    {attributes : List (String × String)}
    (words : Token.isName name = true ∧ ∀ pair ∈ raw, Token.isName pair.1 = true)
    (decoded : decodeAttributes? raw = some attributes) :
    HasNames (.ofList name) attributes := by
  refine ⟨by simpa using words.1, ?_⟩
  replace words := words.2
  unfold decodeAttributes? at decoded
  induction raw generalizing attributes with
  | nil =>
      cases decoded
      simp
  | cons first rest ih =>
      rw [List.mapM_cons] at decoded
      obtain ⟨pair, decodedFirst, decoded⟩ := Option.bind_eq_some_iff.1 decoded
      obtain ⟨later, decodedLater, same⟩ := Option.bind_eq_some_iff.1 decoded
      obtain ⟨value, -, rfl⟩ := Option.map_eq_some_iff.1 decodedFirst
      cases same
      rw [List.forall_mem_cons] at words ⊢
      exact ⟨by simpa using words.1, ih decodedLater words.2⟩

variable {state : ReaderState}

theorem IsReadable.deliver (readable : state.IsReadable) {element : Element}
    (delivered : element.Readable) : (state.deliver element).IsReadable := by
  rcases state with ⟨_ | ⟨innermost, outer⟩, root⟩
  · refine ⟨readable.opened, ?_⟩
    rintro read ⟨⟩
    exact delivered
  · obtain ⟨inside, outside⟩ := List.forall_mem_cons.1 readable.opened
    refine ⟨List.forall_mem_cons.2 ⟨⟨inside.1, ?_⟩, outside⟩, readable.root⟩
    intro child member
    rcases List.mem_append.1 member with before | last
    · exact inside.2 child before
    · cases List.mem_singleton.1 last
      exact delivered

theorem readable_element {opened : Opened} (named : HasNames opened.name opened.attributes)
    (each : ∀ child ∈ opened.children, child.Readable) : opened.element.Readable := by
  unfold Opened.element
  split
  · exact .text named opened.text
  · next filled => exact .elements named (by simpa using filled) each

theorem IsReadable.step? (readable : state.IsReadable) {token : Token} (words : token.HasNames)
    {next : ReaderState} (taken : state.step? token = some next) : next.IsReadable := by
  cases token with
  | text raw =>
      obtain ⟨text, -, taken⟩ := Option.bind_eq_some_iff.1 taken
      rcases state with ⟨_ | ⟨innermost, outer⟩, root⟩
      · obtain ⟨-, taken⟩ := Option.ite_none_right_eq_some.1 taken
        cases taken
        exact readable
      · obtain ⟨-, taken⟩ := Option.ite_none_right_eq_some.1 taken
        cases taken
        exact ⟨List.forall_mem_cons.2 (List.forall_mem_cons.1 readable.opened), readable.root⟩
  | opening name raw =>
      obtain ⟨-, taken⟩ := Option.ite_none_right_eq_some.1 taken
      obtain ⟨attributes, decoded, rfl⟩ := Option.map_eq_some_iff.1 taken
      have named := hasNames_of_decodeAttributes? words decoded
      exact ⟨List.forall_mem_cons.2 ⟨⟨named, by simp⟩, readable.opened⟩, readable.root⟩
  | single name raw =>
      obtain ⟨-, taken⟩ := Option.ite_none_right_eq_some.1 taken
      obtain ⟨attributes, decoded, rfl⟩ := Option.map_eq_some_iff.1 taken
      exact readable.deliver (.empty (hasNames_of_decodeAttributes? words decoded))
  | closing name =>
      rcases state with ⟨_ | ⟨innermost, outer⟩, root⟩
      · cases taken
      · obtain ⟨-, taken⟩ := Option.ite_none_right_eq_some.1 taken
        cases taken
        obtain ⟨⟨named, each⟩, outside⟩ := List.forall_mem_cons.1 readable.opened
        have before : IsReadable ⟨outer, root⟩ := ⟨outside, readable.root⟩
        exact before.deliver (readable_element named each)

theorem IsReadable.foldlM_step? (readable : state.IsReadable) {tokens : List Token}
    (words : ∀ token ∈ tokens, token.HasNames) {last : ReaderState}
    (taken : tokens.foldlM ReaderState.step? state = some last) : last.IsReadable := by
  induction tokens generalizing state with
  | nil =>
      cases taken
      exact readable
  | cons token rest ih =>
      rw [List.foldlM_cons] at taken
      obtain ⟨next, first, taken⟩ := Option.bind_eq_some_iff.1 taken
      rw [List.forall_mem_cons] at words
      exact ih (readable.step? words.1 first) words.2 taken

end ReaderState

namespace Element

/-- Nothing is read that could not be told from its text. -/
theorem readable_of_ofMarkup? {text : String} {element : Element}
    (read : ofMarkup? text = some element) : element.Readable := by
  obtain ⟨tokens, scanned, read⟩ := Option.bind_eq_some_iff.1 read
  unfold ofTokens? at read
  split at read
  · next root taken =>
    have nothing : ({} : ReaderState).IsReadable := ⟨by simp, by simp⟩
    exact (nothing.foldlM_step? (Token.hasNames_of_scan? scanned) taken).root element read
  · cases read

/-- Reading its text gives a tree back exactly when calls make that tree of words. Hence no other
tree so made has its text, while a tree that no calls make is read from no text. -/
theorem ofMarkup?_markup (element : Element) :
    (ofMarkup? element.markup = some element ↔ element.Built) ∧
      (∀ {other : Element}, element.Built → other.Built → other.markup = element.markup →
        other = element) ∧
      (¬ element.Built → ∀ text, ofMarkup? text ≠ some element) := by
  have read {tree : Element} (built : tree.Built) : ofMarkup? tree.markup = some tree := by
    rw [markup_eq, ofMarkup?_writtenLines built.readable]
  refine ⟨⟨fun given => (readable_of_ofMarkup? given).built, read⟩, ?_, ?_⟩
  · intro other built otherBuilt same
    have given := read otherBuilt
    rw [same, read built] at given
    exact (Option.some.inj given).symm
  · intro unbuilt text given
    exact unbuilt (readable_of_ofMarkup? given).built

/-- Elements that differ in what stands between their tags only: nothing, an empty text, a line
of indentation, and a child. -/
def lookalikes : List Element :=
  [named "Cell", (named "Cell").text "", (named "Cell").text "\n  ",
    (named "Cell").child (named "Cell")]

theorem ofMarkup?_markup_lookalikes :
    let grid := build "Grid"
      [.withAttribute "Name" "<&>", .text "dropped", .withAttribute "Name" "\"'",
        .children lookalikes, .children []]
    grid.Built ∧ ofMarkup? grid.markup = some grid ∧
      (∀ cell ∈ lookalikes, cell.Built) ∧ (lookalikes.map markup).Nodup ∧
      ¬ (node "Grid" [] (.elements [])).Built ∧
      ∀ text, ofMarkup? text ≠ some (node "Grid" [] (.elements [])) := by
  have cell : (named "Cell").Built := .named (by decide)
  have cells : ∀ cell ∈ lookalikes, cell.Built := by
    simp only [lookalikes, List.forall_mem_cons]
    exact ⟨cell, cell.text "", cell.text "\n  ", cell.child cell, by simp⟩
  have distinct : lookalikes.Nodup := by
    simp [lookalikes, named, text, child]
  intro grid
  have built : grid.Built := by
    have word : Token.isName "Name".toList = true := by decide
    apply built_build (by decide)
    simp only [List.forall_mem_cons]
    exact ⟨word, trivial, word, cells, by simp [Step.IsBuilt], by simp⟩
  have childless := not_built_elements_nil "Grid" []
  refine ⟨built, (ofMarkup?_markup grid).1.2 built, cells, ?_, childless,
    (ofMarkup?_markup _).2.2 childless⟩
  refine List.Nodup.map_on ?_ distinct
  intro first firstIn second secondIn same
  exact (ofMarkup?_markup second).2.1 (cells second secondIn) (cells first firstIn) same

end Element

end QueryGroup.Markup
