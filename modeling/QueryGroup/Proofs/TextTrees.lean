import Mathlib.Data.List.Forall2
import QueryGroup.Json.Reader
import QueryGroup.Proofs.MergedPairs
set_option autoImplicit false

namespace QueryGroup.Document

open Json

namespace Tree

/-- What holds of a tree as soon as it holds of its parts holds of every tree. -/
@[elab_as_elim, induction_eliminator]
theorem inductOn {motive : Tree → Prop} (null : motive .null)
    (bool : ∀ value, motive (.bool value)) (number : ∀ value, motive (.number value))
    (string : ∀ value, motive (.string value)) (nonfinite : motive .nonfinite)
    (array : ∀ items, (∀ item ∈ items, motive item) → motive (.array items))
    (object : ∀ members, (∀ member ∈ members, motive member.2) → motive (.object members))
    (broken : motive .broken) (tree : Tree) : motive tree :=
  match tree with
  | .null => null
  | .bool value => bool value
  | .number value => number value
  | .string value => string value
  | .nonfinite => nonfinite
  | .array items =>
      array items fun item _ => inductOn null bool number string nonfinite array object broken item
  | .object members =>
      object members fun member inside =>
        have _smaller : sizeOf member.2 < 1 + sizeOf members := by
          have within := List.sizeOf_lt_of_mem inside
          rcases member with ⟨name, value⟩
          simp only [Prod.mk.sizeOf_spec] at within ⊢
          omega
        inductOn null bool number string nonfinite array object broken member.2
  | .broken => broken

mutual

/-- The property holds of the tree and of every tree inside it. -/
def Everywhere (property : Tree → Prop) : Tree → Prop
  | .array items => property (.array items) ∧ EverywhereIn property items
  | .object members => property (.object members) ∧ EverywhereAmong property members
  | tree => property tree

def EverywhereIn (property : Tree → Prop) : List Tree → Prop
  | [] => True
  | item :: rest => Everywhere property item ∧ EverywhereIn property rest

def EverywhereAmong (property : Tree → Prop) : List (Option String × Tree) → Prop
  | [] => True
  | (_, value) :: rest => Everywhere property value ∧ EverywhereAmong property rest

end

theorem everywhereIn_iff {property : Tree → Prop} {items : List Tree} :
    EverywhereIn property items ↔ ∀ item ∈ items, item.Everywhere property := by
  induction items with
  | nil => simp [EverywhereIn]
  | cons item rest ih => rw [EverywhereIn, ih, List.forall_mem_cons]

theorem everywhereAmong_iff {property : Tree → Prop} {members : List (Option String × Tree)} :
    EverywhereAmong property members ↔ ∀ member ∈ members, member.2.Everywhere property := by
  induction members with
  | nil => simp [EverywhereAmong]
  | cons member rest ih => rw [EverywhereAmong, ih, List.forall_mem_cons]

/-- No number in the tree is infinite or no number at all. -/
def Finite (tree : Tree) : Prop := tree.Everywhere (· ≠ .nonfinite)

/-- The names that can be read differ from one another. -/
def NamesOnce : Tree → Prop
  | .object members => (members.filterMap Prod.fst).Nodup
  | _ => True

/-- No object in the tree repeats a name. -/
def Distinct (tree : Tree) : Prop := tree.Everywhere NamesOnce

theorem finite_array_iff {items : List Tree} :
    (Tree.array items).Finite ↔ ∀ item ∈ items, item.Finite := by
  rw [Finite, Everywhere, everywhereIn_iff]
  simp only [ne_eq, reduceCtorEq, not_false_eq_true, true_and, Finite]

theorem finite_object_iff {members : List (Option String × Tree)} :
    (Tree.object members).Finite ↔ ∀ member ∈ members, member.2.Finite := by
  rw [Finite, Everywhere, everywhereAmong_iff]
  simp only [ne_eq, reduceCtorEq, not_false_eq_true, true_and, Finite]

theorem distinct_array_iff {items : List Tree} :
    (Tree.array items).Distinct ↔ ∀ item ∈ items, item.Distinct := by
  rw [Distinct, Everywhere, everywhereIn_iff]
  simp only [NamesOnce, true_and, Distinct]

theorem distinct_object_iff {members : List (Option String × Tree)} :
    (Tree.object members).Distinct ↔
      (members.filterMap Prod.fst).Nodup ∧ ∀ member ∈ members, member.2.Distinct := by
  rw [Distinct, Everywhere, everywhereAmong_iff]
  rfl

variable {room : Room} {value : Value}

theorem toItems?_eq_some_iff {items : List Tree} {values : List Value} :
    toItems? room items = some values ↔
      List.Forall₂ (fun item value => item.toValue? room = some value) items values := by
  induction items generalizing values with
  | nil => cases values <;> simp [toItems?]
  | cons item rest ih =>
      cases values with
      | nil =>
          simp only [toItems?, List.forall₂_nil_right_iff, reduceCtorEq, iff_false]
          split <;> simp
      | cons value values =>
          rw [List.forall₂_cons, ← ih, toItems?]
          cases item.toValue? room <;> cases toItems? room rest <;> simp

/-- The members say the pairs, one by one. -/
def SayMembers (room : Room) (members : List (Option String × Tree))
    (pairs : List (String × Value)) : Prop :=
  List.Forall₂ (fun member pair => member.1 = some pair.1 ∧ member.2.toValue? room = some pair.2)
    members pairs

theorem toMembers?_eq_some_iff {members : List (Option String × Tree)}
    {pairs : List (String × Value)} :
    toMembers? room members = some pairs ↔ SayMembers room members pairs := by
  rw [SayMembers]
  induction members generalizing pairs with
  | nil => cases pairs <;> simp [toMembers?]
  | cons member rest ih =>
      rcases member with ⟨name, tree⟩
      cases pairs with
      | nil =>
          simp only [toMembers?, List.forall₂_nil_right_iff, reduceCtorEq, iff_false]
          split <;> simp
      | cons pair pairs =>
          rcases pair with ⟨key, value⟩
          rw [List.forall₂_cons, ← ih]
          cases name with
          | none => simp [toMembers?]
          | some name =>
              simp only [toMembers?]
              cases tree.toValue? room <;> cases toMembers? room rest <;> simp [and_assoc]

theorem toValue?_array_eq_some_iff {items : List Tree} :
    (Tree.array items).toValue? room = some value ↔
      ∃ inside values, room.enter? = some inside ∧
        List.Forall₂ (fun item value => item.toValue? inside = some value) items values ∧
        value = .array values := by
  rw [toValue?]
  cases room.enter? with
  | none => simp
  | some inside => simp [← toItems?_eq_some_iff, @eq_comm Value]

theorem toValue?_object_eq_some_iff {members : List (Option String × Tree)} :
    (Tree.object members).toValue? room = some value ↔
      ∃ inside pairs, room.enter? = some inside ∧ SayMembers inside members pairs ∧
        value = .object (Assoc.merge pairs) := by
  rw [toValue?]
  cases room.enter? with
  | none => simp
  | some inside => simp [← toMembers?_eq_some_iff, @eq_comm Value]

theorem intactItems_iff {items : List Tree} :
    intactItems items = true ↔ ∀ item ∈ items, item.intact = true := by
  induction items with
  | nil => simp [intactItems]
  | cons item rest ih => rw [intactItems, Bool.and_eq_true, ih, List.forall_mem_cons]

theorem intactMembers_iff {members : List (Option String × Tree)} :
    intactMembers members = true ↔ ∀ member ∈ members, member.2.intact = true := by
  induction members with
  | nil => simp [intactMembers]
  | cons member rest ih => rw [intactMembers, Bool.and_eq_true, ih, List.forall_mem_cons]

theorem exists_of_forall₂_left {α β : Type} {relation : α → β → Prop} {front : List α}
    {back : List β} (each : List.Forall₂ relation front back) :
    ∀ a ∈ front, ∃ b ∈ back, relation a b := by
  induction each with
  | nil => simp
  | cons first _ ih =>
      rw [List.forall_mem_cons]
      refine ⟨⟨_, List.mem_cons_self, first⟩, ?_⟩
      intro a member
      obtain ⟨b, inside, holds⟩ := ih a member
      exact ⟨b, List.mem_cons_of_mem _ inside, holds⟩

/-- A tree that says a value is whole. -/
theorem intact_of_toValue? {tree : Tree} (whole : tree.toValue? room = some value) :
    tree.intact = true := by
  induction tree generalizing room value with
  | array items ih =>
      obtain ⟨inside, values, -, each, -⟩ := toValue?_array_eq_some_iff.1 whole
      rw [intact, intactItems_iff]
      intro item member
      obtain ⟨value, -, said⟩ := exists_of_forall₂_left each item member
      exact ih item member said
  | object members ih =>
      obtain ⟨inside, pairs, -, each, -⟩ := toValue?_object_eq_some_iff.1 whole
      rw [intact, intactMembers_iff]
      intro member inMembers
      obtain ⟨pair, -, said⟩ := exists_of_forall₂_left each member inMembers
      exact ih member inMembers said.2
  | broken => cases whole
  | _ => rfl

/-- What a tree says repeats no name, whether the tree does or not. -/
theorem distinct_of_toValue? {tree : Tree} (whole : tree.toValue? room = some value) :
    value.Distinct := by
  induction tree generalizing room value with
  | array items ih =>
      obtain ⟨inside, values, -, each, rfl⟩ := toValue?_array_eq_some_iff.1 whole
      rw [Value.Distinct, Value.distinctItems_iff]
      intro value member
      obtain ⟨item, inItems, said⟩ := exists_of_forall₂_left each.flip value member
      exact ih item inItems said
  | object members ih =>
      obtain ⟨inside, pairs, -, each, rfl⟩ := toValue?_object_eq_some_iff.1 whole
      rw [Value.Distinct, Value.distinctMembers_iff]
      refine ⟨Assoc.nodup_keys_merge pairs, ?_⟩
      intro pair merged
      have given := Assoc.mem_of_mem_merge merged
      obtain ⟨member, inMembers, said⟩ := exists_of_forall₂_left each.flip pair given
      exact ih member inMembers said.2
  | broken => cases whole
  | null | bool | nonfinite =>
      cases whole
      trivial
  | number | string =>
      obtain ⟨held, -, rfl⟩ := Option.map_eq_some_iff.1 whole
      trivial

end Tree

end QueryGroup.Document

namespace QueryGroup.Json

open Document

/-- The trees that a container holds so far. -/
def Frame.trees : Frame → List Tree
  | .items done => done
  | .members done => done.map Prod.snd
  | .member done _ => done.map Prod.snd

theorem Frame.finite_closeAround {frame : Frame} (held : ∀ tree ∈ frame.trees, tree.Finite)
    {inner : Tree} (finite : inner.Finite) : (frame.closeAround inner).Finite := by
  have entries {done : List Member} (each : ∀ tree ∈ done.map Prod.snd, tree.Finite)
      (name : Option String) : ∀ member ∈ done.reverse ++ [(name, inner)], member.2.Finite := by
    rw [List.forall_mem_append, List.forall_mem_singleton]
    refine ⟨?_, finite⟩
    intro member inside
    exact List.forall_mem_map.1 each member (List.mem_reverse.1 inside)
  cases frame with
  | items done =>
      rw [closeAround, Tree.finite_array_iff, List.forall_mem_append, List.forall_mem_singleton]
      exact ⟨fun tree inside => held tree (List.mem_reverse.1 inside), finite⟩
  | members done => exact Tree.finite_object_iff.2 (entries held none)
  | member done name => exact Tree.finite_object_iff.2 (entries held name)

namespace Progress

/-- The trees that were read so far. -/
def trees : Progress → List Tree
  | .within frames _ => frames.flatMap Frame.trees
  | .finished tree _ => [tree]
  | .failed tree => [tree]

/-- No number was read that is not finite. -/
def IsFinite (progress : Progress) : Prop := ∀ tree ∈ progress.trees, tree.Finite

variable {frames outer : List Frame}

theorem finite_closed (held : ∀ tree ∈ frames.flatMap Frame.trees, tree.Finite) {inner : Tree}
    (finite : inner.Finite) :
    (frames.foldl (fun inner frame => frame.closeAround inner) inner).Finite := by
  induction frames generalizing inner with
  | nil => exact finite
  | cons frame rest ih =>
      rw [List.flatMap_cons, List.forall_mem_append] at held
      exact ih held.2 (Frame.finite_closeAround held.1 finite)

theorem isFinite_fault (held : ∀ tree ∈ frames.flatMap Frame.trees, tree.Finite) :
    (fault frames).IsFinite := by
  rw [IsFinite, fault, trees, List.forall_mem_singleton]
  exact finite_closed held (show Tree.broken ≠ .nonfinite from nofun)

theorem isFinite_deliver (held : ∀ tree ∈ frames.flatMap Frame.trees, tree.Finite) {value : Tree}
    (finite : value.Finite) : (deliver value frames).IsFinite := by
  cases frames with
  | nil => simpa [deliver, IsFinite, trees] using finite
  | cons frame outer =>
      cases frame with
      | items done => simpa [deliver, IsFinite, trees, Frame.trees, finite] using held
      | members done => exact isFinite_fault held
      | member done name => simpa [deliver, IsFinite, trees, Frame.trees, finite] using held

theorem isFinite_startValue (held : ∀ tree ∈ frames.flatMap Frame.trees, tree.Finite)
    (token : Token) : (startValue frames token).IsFinite := by
  cases token with
  | openArray | openObject => simpa [startValue, IsFinite, trees, Frame.trees] using held
  | null => exact isFinite_deliver held (show Tree.null ≠ .nonfinite from nofun)
  | bool value => exact isFinite_deliver held (show Tree.bool value ≠ .nonfinite from nofun)
  | number value => exact isFinite_deliver held (show Tree.number value ≠ .nonfinite from nofun)
  | string value => exact isFinite_deliver held (show Tree.string value ≠ .nonfinite from nofun)
  | closeArray | closeObject | comma | colon | stray => exact isFinite_fault held

theorem isFinite_startMember (held : ∀ tree ∈ frames.flatMap Frame.trees, tree.Finite)
    (token : Token) : (startMember frames token).IsFinite := by
  unfold startMember
  split
  · simpa [IsFinite, trees, Frame.trees] using held
  · exact isFinite_fault held

theorem isFinite_close? (held : ∀ tree ∈ frames.flatMap Frame.trees, tree.Finite)
    {token : Token} {progress : Progress} (closed : close? frames token = some progress) :
    progress.IsFinite := by
  unfold close? at closed
  split at closed
  · cases closed
    rw [List.flatMap_cons, List.forall_mem_append] at held
    apply isFinite_deliver held.2
    rw [Tree.finite_array_iff]
    exact fun tree inside => held.1 tree (List.mem_reverse.1 inside)
  · cases closed
    rw [List.flatMap_cons, List.forall_mem_append] at held
    apply isFinite_deliver held.2
    rw [Tree.finite_object_iff]
    exact fun member inside => List.forall_mem_map.1 held.1 member (List.mem_reverse.1 inside)
  · cases closed

/-- Where a container may be closed, what comes otherwise decides. -/
theorem isFinite_close?_getD (held : ∀ tree ∈ frames.flatMap Frame.trees, tree.Finite)
    (token : Token) {otherwise : Progress} (finite : otherwise.IsFinite) :
    ((close? frames token).getD otherwise).IsFinite := by
  cases closed : close? frames token with
  | none => exact finite
  | some progress => exact isFinite_close? held closed

theorem isFinite_separate (held : ∀ tree ∈ frames.flatMap Frame.trees, tree.Finite)
    (token : Token) : (separate frames token).IsFinite := by
  unfold separate
  split
  · exact held
  · exact held
  · exact isFinite_close?_getD held token (isFinite_fault held)

theorem IsFinite.step {progress : Progress} (finite : progress.IsFinite) (token : Token) :
    (progress.step token).IsFinite := by
  cases progress with
  | finished tree trailing => exact finite
  | failed tree => exact finite
  | within frames awaiting =>
      have held : ∀ tree ∈ frames.flatMap Frame.trees, tree.Finite := finite
      cases awaiting with
      | value => exact isFinite_startValue held token
      | itemOrClose => exact isFinite_close?_getD held token (isFinite_startValue held token)
      | nameOrClose => exact isFinite_close?_getD held token (isFinite_startMember held token)
      | name => exact isFinite_startMember held token
      | separator => exact isFinite_separate held token
      | colon =>
          cases token with
          | colon => exact held
          | _ => exact isFinite_fault held

theorem IsFinite.foldl_step {progress : Progress} (finite : progress.IsFinite)
    (tokens : List Token) : (tokens.foldl Progress.step progress).IsFinite := by
  induction tokens generalizing progress with
  | nil => exact finite
  | cons token rest ih => exact ih (finite.step token)

end Progress

/-- No text says a number that is not finite. -/
theorem Reading.finite_ofText (text : String) : (Reading.ofText text).tree.Finite := by
  have nothing : (Progress.within [] .value).IsFinite := by
    simp [Progress.IsFinite, Progress.trees]
  have read := nothing.foldl_step (Token.ofChars text.toList)
  rw [ofText, ofTokens]
  cases progress : (Token.ofChars text.toList).foldl Progress.step (.within [] .value) with
  | finished tree trailing =>
      rw [progress] at read
      exact read tree (List.mem_singleton_self tree)
  | failed tree =>
      rw [progress] at read
      exact read tree (List.mem_singleton_self tree)
  | within frames awaiting =>
      rw [progress] at read
      exact Progress.finite_closed read (show Tree.broken ≠ .nonfinite from nofun)

end QueryGroup.Json
