import QueryGroup.Proofs.ElementTokens
set_option autoImplicit false

namespace QueryGroup.Markup

/-- The content of an element that was given these children and nothing else. -/
def Content.ofList : List Element → Content Element
  | [] => .empty
  | children => .elements children

namespace Element

theorem children_elements (name : String) (attributes : List (String × String))
    (first added : List Element) :
    (Element.node name attributes (.elements first)).children added =
      .node name attributes (.elements (first ++ added)) := by
  induction added generalizing first with
  | nil => simp [children]
  | cons child rest ih =>
      have next := ih (first ++ [child])
      rw [List.append_assoc, List.singleton_append] at next
      exact next

theorem children_empty (name : String) (attributes : List (String × String))
    (added : List Element) :
    (Element.node name attributes .empty).children added =
      .node name attributes (.ofList added) := by
  cases added with
  | nil => rfl
  | cons child rest => exact children_elements name attributes [child] rest

theorem HasNames.append {name : String} {attributes : List (String × String)}
    (named : HasNames name attributes) {key : String} (word : Token.isName key.toList = true)
    (value : String) : HasNames name (attributes ++ [(key, value)]) := by
  refine ⟨named.1, ?_⟩
  intro pair member
  rcases List.mem_append.1 member with before | last
  · exact named.2 pair before
  · cases List.mem_singleton.1 last
    exact word

theorem Readable.hasNames {element : Element} (readable : element.Readable) :
    HasNames element.name element.attributes := by
  cases readable <;> assumption

theorem readable_named {name : String} (word : Token.isName name.toList = true) :
    (named name).Readable :=
  .empty ⟨word, by simp⟩

theorem Readable.withAttribute {element : Element} (readable : element.Readable) {key : String}
    (word : Token.isName key.toList = true) (value : String) :
    (element.withAttribute key value).Readable := by
  cases readable with
  | empty named => exact .empty (named.append word value)
  | text named text => exact .text (named.append word value) text
  | elements named nonempty each => exact .elements (named.append word value) nonempty each

theorem Readable.withText {element : Element} (readable : element.Readable) (text : String) :
    (element.text text).Readable := by
  have named := readable.hasNames
  cases element
  exact .text named text

theorem Readable.child {element last : Element} (readable : element.Readable)
    (lastReadable : last.Readable) : (element.child last).Readable := by
  have alone : ∀ child ∈ [last], child.Readable := by simpa using lastReadable
  cases readable with
  | empty named => exact .elements named (by simp) alone
  | text named text => exact .elements named (by simp) alone
  | @elements name attributes children named nonempty each =>
      refine .elements named (by simp) ?_
      intro child member
      rcases List.mem_append.1 member with before | added
      · exact each child before
      · exact alone child added

theorem Readable.children {element : Element} (readable : element.Readable)
    {added : List Element} (each : ∀ child ∈ added, child.Readable) :
    (element.children added).Readable := by
  induction added generalizing element with
  | nil => exact readable
  | cons child rest ih =>
      exact ih (readable.child (each child (by simp)))
        fun other member => each other (List.mem_cons_of_mem _ member)

end Element

end QueryGroup.Markup
