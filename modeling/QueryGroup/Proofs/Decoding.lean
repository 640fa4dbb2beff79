import Mathlib.Data.List.Forall2
import QueryGroup.Document.Decoder
set_option autoImplicit false

namespace QueryGroup.Document

open Json

namespace Tree

theorem ofItems_eq_map (items : List Value) : ofItems items = items.map ofValue := by
  induction items with
  | nil => rfl
  | cons item rest ih => rw [ofItems, ih, List.map_cons]

theorem ofMembers_eq_map (members : List (String × Value)) :
    ofMembers members = members.map fun member => (some member.1, ofValue member.2) := by
  induction members with
  | nil => rfl
  | cons member rest ih => rw [ofMembers, ih, List.map_cons]

end Tree

theorem bind_eq_ok_iff {ε α β : Type} {first : Except ε α} {next : α → Except ε β} {value : β} :
    first >>= next = .ok value ↔ ∃ a, first = .ok a ∧ next a = .ok value := by
  cases first with
  | error error => exact ⟨nofun, nofun⟩
  | ok a => exact ⟨fun read => ⟨a, rfl, read⟩, fun ⟨_, same, read⟩ => by cases same; exact read⟩

namespace Decoder

variable {α : Type} {context : Context} {tree : Tree}

theorem mismatch_ne_ok (expected : String) (a : α) : mismatch expected tree ≠ .ok a := by
  intro read
  obtain ⟨found, -, impossible⟩ := bind_eq_ok_iff.1 read
  cases impossible

theorem string_eq_ok_iff {text : String} :
    Decoder.string context tree = .ok text ↔ tree = .string (some text) := by
  unfold Decoder.string
  split
  · simp
  · next other =>
    constructor
    · intro read
      exact absurd read (mismatch_ne_ok _ _)
    · intro same
      exact absurd same (other text)

theorem bool_eq_ok_iff {truth : Bool} :
    Decoder.bool context tree = .ok truth ↔ tree = .bool truth := by
  unfold Decoder.bool
  split
  · simp
  · next other =>
    constructor
    · intro read
      exact absurd read (mismatch_ne_ok _ _)
    · intro same
      exact absurd same (other truth)

theorem any_eq_ok_iff {value : Value} :
    Decoder.any context tree = .ok value ↔ tree.toValue? context.room = some value := by
  unfold Decoder.any
  split
  · next said => rw [said, Option.some.injEq, Except.ok.injEq]
  · next unsaid => rw [unsaid]; exact ⟨nofun, nofun⟩

theorem items_eq_ok_iff {inner : Decoder α} {trees : List Tree} {list : List α} :
    items inner context trees = .ok list ↔
      List.Forall₂ (fun tree a => inner context tree = .ok a) trees list := by
  induction trees generalizing list with
  | nil => cases list <;> simp [items]
  | cons tree rest ih =>
      rw [items, bind_eq_ok_iff, List.forall₂_cons_left_iff]
      constructor
      · rintro ⟨a, here, read⟩
        obtain ⟨later, listed, same⟩ := bind_eq_ok_iff.1 read
        cases same
        exact ⟨a, later, here, ih.1 listed, rfl⟩
      · rintro ⟨a, later, here, listed, rfl⟩
        refine ⟨a, here, ?_⟩
        rw [ih.2 listed]
        rfl

theorem list_eq_ok_iff {inner : Decoder α} {list : List α} :
    Decoder.list inner context tree = .ok list ↔
      ∃ trees inside, tree = .array trees ∧ context.enter = .ok inside ∧
        List.Forall₂ (fun tree a => inner inside tree = .ok a) trees list := by
  unfold Decoder.list
  split
  · simp only [bind_eq_ok_iff, items_eq_ok_iff, Tree.array.injEq, exists_and_left,
      exists_eq_left']
  · next other =>
    constructor
    · intro read
      exact absurd read (mismatch_ne_ok _ _)
    · rintro ⟨trees, inside, same, -⟩
      exact absurd same (other trees)

theorem pairs_eq_ok_iff {inner : Decoder α} {members : List (Option String × Tree)}
    {entries : List (String × α)} :
    pairs inner context members = .ok entries ↔
      List.Forall₂ (fun member entry => member.1 = some entry.1 ∧
        inner context member.2 = .ok entry.2) members entries := by
  induction members generalizing entries with
  | nil => cases entries <;> simp [pairs]
  | cons member rest ih =>
      rcases member with ⟨_ | name, tree⟩
      · rw [pairs, List.forall₂_cons_left_iff]
        simp
      · rw [pairs, bind_eq_ok_iff, List.forall₂_cons_left_iff]
        constructor
        · rintro ⟨a, here, read⟩
          obtain ⟨later, listed, same⟩ := bind_eq_ok_iff.1 read
          cases same
          exact ⟨(name, a), later, ⟨rfl, here⟩, ih.1 listed, rfl⟩
        · rintro ⟨⟨key, a⟩, later, ⟨named, here⟩, listed, rfl⟩
          cases named
          refine ⟨a, here, ?_⟩
          rw [ih.2 listed]
          rfl

theorem map_eq_ok_iff {inner : Decoder α} {map : OrderedMap α} :
    Decoder.map inner context tree = .ok map ↔
      ∃ members inside entries, tree = .object members ∧ context.enter = .ok inside ∧
        pairs inner inside members = .ok entries ∧ map = .ofList entries := by
  unfold Decoder.map
  split
  · next members =>
    constructor
    · intro read
      obtain ⟨inside, entered, read⟩ := bind_eq_ok_iff.1 read
      obtain ⟨entries, listed, same⟩ := bind_eq_ok_iff.1 read
      cases same
      exact ⟨members, inside, entries, rfl, entered, listed, rfl⟩
    · rintro ⟨_, inside, entries, same, entered, listed, rfl⟩
      cases same
      rw [entered]
      show (pairs inner inside members).bind _ = _
      rw [listed]
      rfl
  · next other =>
    constructor
    · intro read
      exact absurd read (mismatch_ne_ok _ _)
    · rintro ⟨members, -, -, same, -⟩
      exact absurd same (other members)

section Record

variable {σ : Type} {fields : List (RecordField σ)} {name : String} {initial : σ} {inside : Context}

theorem record_array (entered : context.enter = .ok inside) (items : List Tree) :
    Decoder.record name fields initial context (.array items) =
      positions inside items.length fields initial items := by
  rw [Decoder.record, entered]
  rfl

theorem record_object (entered : context.enter = .ok inside)
    (trees : List (Option String × Tree)) :
    Decoder.record name fields initial context (.object trees) =
      members fields inside [] initial trees := by
  rw [Decoder.record, entered]
  rfl

/-- Only an object or an array is a record. -/
theorem container_of_record_eq_ok {record : σ}
    (read : Decoder.record name fields initial context tree = .ok record) :
    (∃ items, tree = .array items) ∨ ∃ trees, tree = .object trees := by
  unfold Decoder.record at read
  split at read
  · next trees => exact .inr ⟨trees, rfl⟩
  · next items => exact .inl ⟨items, rfl⟩
  · exact absurd read (mismatch_ne_ok _ _)

/-- One of the fields has this name. -/
def isField (fields : List (RecordField σ)) (name : String) : Bool :=
  (fields.find? fun field => field.name == name).isSome

theorem name_of_find? {field : RecordField σ}
    (found : (fields.find? fun field => field.name == name) = some field) : field.name = name := by
  simpa using List.find?_some found

/-- The members of a value that are no fields are passed over. -/
theorem members_ofMembers_filter (fields : List (RecordField σ)) (seen : List String) (record : σ)
    (pairs : List (String × Value)) :
    members fields .ofValue seen record (Tree.ofMembers pairs) =
      members fields .ofValue seen record
        (Tree.ofMembers (pairs.filter fun pair => isField fields pair.1)) := by
  induction pairs generalizing seen record with
  | nil => rfl
  | cons pair rest ih =>
      rcases pair with ⟨name, value⟩
      cases found : fields.find? fun field => field.name == name with
      | none =>
          have unknown : isField fields name = false := by rw [isField, found, Option.isSome_none]
          rw [List.filter_cons_of_neg (by simp [unknown]), ← ih seen record]
          simp only [Tree.ofMembers, members, found, Tree.intact_ofValue, if_true]
      | some field =>
          have known : isField fields name = true := by rw [isField, found, Option.isSome_some]
          simp only [List.filter_cons, known, if_true, Tree.ofMembers, members, found, ih]

end Record

end Decoder

end QueryGroup.Document
