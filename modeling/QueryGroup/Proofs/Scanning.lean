import QueryGroup.Markup.Token
set_option autoImplicit false

namespace QueryGroup.Markup.Token

/-- Nothing in the attribute ends its tag or its value early. -/
structure Plain (pair : RawAttribute) : Prop where
  named : isName pair.1 = true
  unquoted : '"' ∉ pair.2
  inside : '>' ∉ pair.2

/-- The token is a tag that stands for itself when it is written. -/
def IsPlainTag : Token → Prop
  | .text _ => False
  | .opening name attributes | .single name attributes =>
      isName name = true ∧ ∀ pair ∈ attributes, Plain pair
  | .closing name => isName name = true

theorem splitAt?_append {stop : Char} {front : List Char} (absent : stop ∉ front)
    (rest : List Char) : splitAt? stop (front ++ stop :: rest) = some (front, rest) := by
  have passed : ∀ c ∈ front, (c != stop) = true := by
    intro c inside
    exact bne_iff_ne.2 fun same => absent (same ▸ inside)
  have taken : (front ++ stop :: rest).takeWhile (· != stop) = front := by
    rw [List.takeWhile_append_of_pos passed]
    simp
  have left : (front ++ stop :: rest).dropWhile (· != stop) = stop :: rest := by
    rw [List.dropWhile_append_of_pos passed]
    simp
  simp only [splitAt?, left, taken]

theorem isAlpha_of_mem_isName {name : List Char} (named : isName name = true) {c : Char}
    (inside : c ∈ name) : c.isAlpha = true := by
  simp only [isName, Bool.and_eq_true, List.all_eq_true] at named
  exact named.2 c inside

/-- The characters that structure a tag are no letters. -/
theorem not_mem_isName {name : List Char} (named : isName name = true) {c : Char}
    (other : c.isAlpha = false) : c ∉ name := by
  intro inside
  have letter := isAlpha_of_mem_isName named inside
  rw [other] at letter
  cases letter

theorem isName_eq_cons {name : List Char} (named : isName name = true) :
    ∃ first tail, name = first :: tail ∧ first.isAlpha = true := by
  cases name with
  | nil => cases named
  | cons first tail => exact ⟨first, tail, rfl, isAlpha_of_mem_isName named (by simp)⟩

theorem scanAttributes?_cons {pair : RawAttribute} (plain : Plain pair)
    (rest : List Char) :
    scanAttributes? (attributeWritten pair ++ rest) =
      (scanAttributes? rest).map fun read => (pair :: read.1, read.2) := by
  obtain ⟨name, value⟩ := pair
  obtain ⟨named, unquoted, -⟩ := plain
  have nameRead : splitAt? '=' (name ++ '=' :: '"' :: (value ++ '"' :: rest)) =
      some (name, '"' :: (value ++ '"' :: rest)) :=
    splitAt?_append (not_mem_isName named rfl) _
  have valueRead : splitAt? '"' (value ++ '"' :: rest) = some (value, rest) :=
    splitAt?_append unquoted _
  have noSlash : name ++ '=' :: '"' :: (value ++ '"' :: rest) ≠ ['/'] := by
    obtain ⟨first, tail, rfl, letter⟩ := isName_eq_cons named
    intro same
    cases (List.cons.inj same).1
    cases letter
  have shape : attributeWritten (name, value) ++ rest =
      ' ' :: (name ++ '=' :: '"' :: (value ++ '"' :: rest)) := by
    simp [attributeWritten]
  rw [shape, scanAttributes?]
  · split
    · next name' quoted read =>
      rw [nameRead] at read
      cases read
      split
      · next value' rest' read =>
        rw [valueRead] at read
        cases read
        simp only [named, if_true]
      · next read =>
        rw [valueRead] at read
        cases read
    · next other =>
      exact absurd nameRead (other name _)
  · exact noSlash

theorem scanAttributes?_written {attributes : List RawAttribute}
    (plain : ∀ pair ∈ attributes, Plain pair) (rest : List Char) :
    scanAttributes? (attributes.flatMap attributeWritten ++ rest) =
      (scanAttributes? rest).map fun read => (attributes ++ read.1, read.2) := by
  induction attributes with
  | nil => simp
  | cons pair attributes ih =>
      rw [List.flatMap_cons, List.append_assoc, scanAttributes?_cons (plain pair (by simp)),
        ih fun other inside => plain other (List.mem_cons_of_mem _ inside)]
      simp [Function.comp_def]

theorem ofTag?_name {name : List Char} (named : isName name = true) {rest : List Char}
    (ends : ∀ c, rest.head? = some c → c = ' ') :
    ofTag? (name ++ rest) = (scanAttributes? rest).map fun read =>
      if read.2 then .single name read.1 else .opening name read.1 := by
  obtain ⟨first, tail, rfl, letter⟩ := isName_eq_cons named
  have passed : ∀ c ∈ first :: tail, (c != ' ') = true := by
    intro c inside
    exact bne_iff_ne.2 fun same => not_mem_isName named rfl (same ▸ inside)
  have stops : rest.takeWhile (· != ' ') = [] ∧ rest.dropWhile (· != ' ') = rest := by
    cases rest with
    | nil => exact ⟨rfl, rfl⟩
    | cons c rest => cases ends c rfl; exact ⟨rfl, rfl⟩
  have taken : (first :: tail ++ rest).takeWhile (· != ' ') = first :: tail := by
    rw [List.takeWhile_append_of_pos passed, stops.1, List.append_nil]
  have left : (first :: tail ++ rest).dropWhile (· != ' ') = rest := by
    rw [List.dropWhile_append_of_pos passed, stops.2]
  have noSlash : ∀ name, first :: tail ++ rest ≠ '/' :: name := by
    intro name same
    cases (List.cons.inj same).1
    cases letter
  rw [ofTag?]
  · simp only [taken, left, named, if_true]
  · exact noSlash

theorem ofTag?_closing {name : List Char} (named : isName name = true) :
    ofTag? ('/' :: name) = some (.closing name) := by
  simp only [ofTag?, named, if_true]

theorem head?_flatMap_attributeWritten (attributes : List RawAttribute) (rest : List Char)
    (ends : ∀ c, rest.head? = some c → c = ' ') :
    ∀ c, (attributes.flatMap attributeWritten ++ rest).head? = some c → c = ' ' := by
  cases attributes with
  | nil => exact ends
  | cons pair attributes =>
      intro c first
      exact (Option.some.inj first).symm

theorem scan?_tag {tag : List Char} {token : Token} (inside : '>' ∉ tag)
    (read : ofTag? tag = some token) (rest : List Char) :
    scan? ('<' :: (tag ++ '>' :: rest)) = (scan? rest).map (token :: ·) := by
  have split := splitAt?_append inside rest
  rw [scan?, if_pos rfl]
  split
  · next tag' after split' =>
    rw [split] at split'
    cases split'
    rw [read]
    cases scan? rest <;> rfl
  · next split' =>
    rw [split] at split'
    cases split'

theorem not_mem_attributeWritten {pair : RawAttribute} (plain : Plain pair) :
    '>' ∉ attributeWritten pair := by
  have outside := not_mem_isName plain.named (c := '>') rfl
  simp [attributeWritten, outside, plain.inside]

theorem not_mem_flatMap_attributeWritten {attributes : List RawAttribute}
    (plain : ∀ pair ∈ attributes, Plain pair) :
    '>' ∉ attributes.flatMap attributeWritten := by
  rw [List.mem_flatMap]
  rintro ⟨pair, member, inside⟩
  exact not_mem_attributeWritten (plain pair member) inside

/-- A plain tag is read back from its text. -/
theorem scan?_written {token : Token} (plain : token.IsPlainTag) (rest : List Char) :
    scan? (token.written ++ rest) = (scan? rest).map (token :: ·) := by
  cases token with
  | text raw => exact plain.elim
  | opening name attributes =>
      obtain ⟨named, attributesPlain⟩ := plain
      have inside : '>' ∉ name ++ attributes.flatMap attributeWritten := by
        rw [List.mem_append, not_or]
        exact ⟨not_mem_isName named rfl, not_mem_flatMap_attributeWritten attributesPlain⟩
      have read : ofTag? (name ++ attributes.flatMap attributeWritten) =
          some (.opening name attributes) := by
        have attributesRead := scanAttributes?_written attributesPlain []
        have starts := head?_flatMap_attributeWritten attributes [] (by simp)
        rw [List.append_nil] at attributesRead starts
        rw [ofTag?_name named starts, attributesRead, scanAttributes?]
        simp
      simpa [written] using scan?_tag inside read rest
  | single name attributes =>
      obtain ⟨named, attributesPlain⟩ := plain
      have inside : '>' ∉ name ++ (attributes.flatMap attributeWritten ++ [' ', '/']) := by
        have outside := not_mem_flatMap_attributeWritten attributesPlain
        have letters := not_mem_isName named (c := '>') rfl
        simp [outside, letters]
      have read : ofTag? (name ++ (attributes.flatMap attributeWritten ++ [' ', '/'])) =
          some (.single name attributes) := by
        have starts := head?_flatMap_attributeWritten attributes [' ', '/'] (by simp)
        rw [ofTag?_name named starts, scanAttributes?_written attributesPlain, scanAttributes?]
        simp
      simpa [written] using scan?_tag inside read rest
  | closing name =>
      have inside : '>' ∉ '/' :: name := by
        have letters := not_mem_isName plain (c := '>') rfl
        simp [letters]
      simpa [written] using scan?_tag inside (ofTag?_closing plain) rest

/-- Text up to a tag, or up to the end, is one token. -/
theorem scan?_text {raw : List Char} (nonempty : raw ≠ []) (plain : '<' ∉ raw)
    {rest : List Char} (ends : ∀ c, rest.head? = some c → c = '<') :
    scan? (raw ++ rest) = (scan? rest).map (.text raw :: ·) := by
  obtain ⟨first, tail, rfl⟩ := List.exists_cons_of_ne_nil nonempty
  rw [List.mem_cons, not_or] at plain
  have passed : ∀ c ∈ tail, (c != '<') = true := by
    intro c inside
    exact bne_iff_ne.2 fun same => plain.2 (same ▸ inside)
  have stops : rest.takeWhile (· != '<') = [] ∧ rest.dropWhile (· != '<') = rest := by
    cases rest with
    | nil => exact ⟨rfl, rfl⟩
    | cons c rest => cases ends c rfl; exact ⟨rfl, rfl⟩
  rw [List.cons_append, scan?, if_neg (Ne.symm plain.1),
    List.takeWhile_append_of_pos passed, List.dropWhile_append_of_pos passed, stops.1, stops.2,
    List.append_nil]

end QueryGroup.Markup.Token
