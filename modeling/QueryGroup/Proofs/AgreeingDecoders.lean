import QueryGroup.Proofs.Decoding
import QueryGroup.Proofs.Normalizing
import QueryGroup.Proofs.ReportValues
import QueryGroup.Proofs.TextTrees
set_option autoImplicit false

namespace QueryGroup.Document

open Json

namespace Tree

/-- The tree, as a text can have it, says the value. -/
structure Says (room : Room) (tree : Tree) (value : Value) : Prop where
  finite : tree.Finite
  whole : tree.toValue? room = some value

/-- The members, as a text can have them, say the pairs one by one. -/
def SaysEach (room : Room) (members : List (Option String × Tree)) (pairs : List (String × Value)) :
    Prop :=
  List.Forall₂ (fun member pair => member.1 = some pair.1 ∧ member.2.Says room pair.2) members pairs

variable {room : Room} {tree : Tree} {value : Value}

/-- A tree that says a value has its shape; only names may be merged. -/
theorem Says.shape (said : tree.Says room value) :
    (tree = .ofValue value ∧ (∀ items, tree ≠ .array items) ∧ ∀ members, tree ≠ .object members) ∨
    (∃ items inside values, tree = .array items ∧ room.enter? = some inside ∧
      List.Forall₂ (Says inside) items values ∧ value = .array values) ∨
    ∃ members inside pairs, tree = .object members ∧ room.enter? = some inside ∧
      SaysEach inside members pairs ∧ value = .object (Assoc.merge pairs) := by
  obtain ⟨finite, whole⟩ := said
  cases tree with
  | array items =>
      obtain ⟨inside, values, entered, each, rfl⟩ := toValue?_array_eq_some_iff.1 whole
      have finiteEach := finite_array_iff.1 finite
      have said := ((List.forall₂_and_left _ _).2 ⟨finiteEach, each⟩).imp
        fun item value both => Says.mk both.1 both.2
      exact .inr (.inl ⟨items, inside, values, rfl, entered, said, rfl⟩)
  | object members =>
      obtain ⟨inside, pairs, entered, each, rfl⟩ := toValue?_object_eq_some_iff.1 whole
      have finiteEach := finite_object_iff.1 finite
      have said := ((List.forall₂_and_left _ _).2 ⟨finiteEach, each⟩).imp
        fun member pair both => And.intro both.2.1 (Says.mk both.1 both.2.2)
      exact .inr (.inr ⟨members, inside, pairs, rfl, entered, said, rfl⟩)
  | nonfinite => exact absurd rfl finite
  | broken => cases whole
  | null | bool =>
      cases whole
      exact .inl ⟨rfl, nofun, nofun⟩
  | number | string =>
      obtain ⟨held, rfl, rfl⟩ := Option.map_eq_some_iff.1 whole
      exact .inl ⟨rfl, nofun, nofun⟩

theorem Says.eq_null_iff (said : tree.Says room value) : tree = .null ↔ value = .null := by
  rcases said.shape with ⟨rfl, -, -⟩ | ⟨items, inside, values, rfl, -, -, rfl⟩ |
      ⟨members, inside, pairs, rfl, -, -, rfl⟩
  · cases value <;> simp [ofValue]
  · simp
  · simp

theorem SaysEach.keys {members : List (Option String × Tree)} {pairs : List (String × Value)}
    (each : SaysEach room members pairs) : members.filterMap Prod.fst = Assoc.keys pairs := by
  induction each with
  | nil => rfl
  | cons here _ ih => rw [List.filterMap_cons, here.1, ih, Assoc.keys_cons]

end Tree

/-- Two lists that a third stands between, item by item. -/
theorem forall₂_trans {α β γ : Type} {first : α → β → Prop} {second : β → γ → Prop}
    {both : α → γ → Prop} {front : List α} {middle : List β} {back : List γ}
    (each : List.Forall₂ first front middle) (next : List.Forall₂ second middle back)
    (holds : ∀ {a b c}, first a b → second b c → both a c) : List.Forall₂ both front back := by
  induction each generalizing back with
  | nil =>
      cases next
      exact .nil
  | cons here _ ih =>
      cases next with
      | cons nextHere next => exact .cons (holds here nextHere) (ih next)

/-- The context inside JSON text where there is so much room left. -/
def Context.within (room : Room) : Context := ⟨.jsonText, room⟩

theorem Context.enter_within {room inside : Room} (entered : room.enter? = some inside) :
    (Context.within room).enter = .ok (.within inside) := by
  simp only [enter, within, entered]

namespace Decoder

variable {α σ : Type}

/-- The two ways of decoding agree: where both give a result it is the same one, and where no name
is repeated the text gives what its value gives. -/
structure Agrees (decoder : Decoder α) : Prop where
  same : ∀ {room tree value a b}, Tree.Says room tree value →
    decoder (.within room) tree = .ok a → decoder.ofValue value = .ok b → a = b
  kept : ∀ {room tree value b}, Tree.Says room tree value → tree.Distinct →
    decoder.ofValue value = .ok b → decoder (.within room) tree = .ok b

/-- What is no container has the same tree as text and as a value. -/
theorem agrees_of_atoms {decoder : Decoder α}
    (anywhere : ∀ context context' tree, decoder context tree = decoder context' tree)
    (array : ∀ context items a, decoder context (.array items) ≠ .ok a)
    (object : ∀ context members a, decoder context (.object members) ≠ .ok a) :
    Agrees decoder where
  same := by
    intro room tree value a b said text given
    rcases said.shape with ⟨rfl, -, -⟩ | ⟨items, -, -, rfl, -⟩ | ⟨members, -, -, rfl, -⟩
    · rw [anywhere (.within room) .ofValue] at text
      exact Except.ok.inj (text.symm.trans given)
    · exact absurd text (array _ items a)
    · exact absurd text (object _ members a)
  kept := by
    intro room tree value b said _ given
    rcases said.shape with ⟨rfl, -, -⟩ | ⟨-, -, values, -, -, -, rfl⟩ | ⟨-, -, pairs, -, -, -, rfl⟩
    · rw [anywhere (.within room) .ofValue]
      exact given
    · exact absurd given (array _ _ b)
    · exact absurd given (object _ _ b)

theorem agrees_string : Agrees Decoder.string := by
  apply agrees_of_atoms
  · intro context context' tree
    cases tree with
    | string held => cases held <;> rfl
    | _ => rfl
  · intro context items text read
    cases string_eq_ok_iff.1 read
  · intro context members text read
    cases string_eq_ok_iff.1 read

theorem agrees_bool : Agrees Decoder.bool := by
  apply agrees_of_atoms
  · intro context context' tree
    cases tree <;> rfl
  · intro context items truth read
    cases bool_eq_ok_iff.1 read
  · intro context members truth read
    cases bool_eq_ok_iff.1 read

/-- A value that was said repeats no name, so reading its tree merges nothing more. -/
theorem agrees_any : Agrees Decoder.any where
  same := by
    intro room tree value a b said text given
    have first : tree.toValue? room = some a := any_eq_ok_iff.1 text
    rw [ofValue_any (Tree.distinct_of_toValue? said.whole)] at given
    rw [said.whole] at first
    exact (Option.some.inj first).symm.trans (Except.ok.inj given)
  kept := by
    intro room tree value b said _ given
    rw [ofValue_any (Tree.distinct_of_toValue? said.whole)] at given
    rw [any_eq_ok_iff, ← Except.ok.inj given]
    exact said.whole

theorem optional_of_ne_null {inner : Decoder α} {context : Context} {tree : Tree}
    (present : tree ≠ .null) :
    Decoder.optional inner context tree = (inner context tree).map some := by
  cases tree <;> first | rfl | exact absurd rfl present

theorem orDefault_of_ne_null [Inhabited α] {inner : Decoder α} {context : Context} {tree : Tree}
    (present : tree ≠ .null) : Decoder.orDefault inner context tree = inner context tree := by
  cases tree <;> first | rfl | exact absurd rfl present

theorem Agrees.optional {inner : Decoder α} (agrees : inner.Agrees) :
    Agrees (Decoder.optional inner) where
  same := by
    intro room tree value a b said text given
    by_cases absent : tree = .null
    · cases said.eq_null_iff.1 absent
      subst absent
      exact Except.ok.inj (text.symm.trans given)
    · have present : value ≠ .null := mt said.eq_null_iff.2 absent
      rw [optional_of_ne_null absent] at text
      rw [ofValue_optional present] at given
      obtain ⟨held, read, rfl⟩ := Query.exists_of_map_eq_ok text
      obtain ⟨other, readValue, rfl⟩ := Query.exists_of_map_eq_ok given
      rw [agrees.same said read readValue]
  kept := by
    intro room tree value b said distinct given
    by_cases absent : tree = .null
    · cases said.eq_null_iff.1 absent
      subst absent
      exact given
    · have present : value ≠ .null := mt said.eq_null_iff.2 absent
      rw [ofValue_optional present] at given
      obtain ⟨held, readValue, rfl⟩ := Query.exists_of_map_eq_ok given
      rw [optional_of_ne_null absent, agrees.kept said distinct readValue]
      rfl

theorem Agrees.orDefault [Inhabited α] {inner : Decoder α} (agrees : inner.Agrees) :
    Agrees (Decoder.orDefault inner) where
  same := by
    intro room tree value a b said text given
    by_cases absent : tree = .null
    · cases said.eq_null_iff.1 absent
      subst absent
      exact Except.ok.inj (text.symm.trans given)
    · have present : value ≠ .null := mt said.eq_null_iff.2 absent
      rw [orDefault_of_ne_null absent] at text
      rw [ofValue_orDefault present] at given
      exact agrees.same said text given
  kept := by
    intro room tree value b said distinct given
    by_cases absent : tree = .null
    · cases said.eq_null_iff.1 absent
      subst absent
      exact given
    · have present : value ≠ .null := mt said.eq_null_iff.2 absent
      rw [ofValue_orDefault present] at given
      rw [orDefault_of_ne_null absent]
      exact agrees.kept said distinct given

theorem ofValue_list_eq_ok_iff {inner : Decoder α} {value : Value} {list : List α} :
    (Decoder.list inner).ofValue value = .ok list ↔
      ∃ values, value = .array values ∧
        List.Forall₂ (fun value a => inner.ofValue value = .ok a) values list := by
  rw [Decoder.ofValue, list_eq_ok_iff]
  constructor
  · rintro ⟨trees, inside, shape, entered, each⟩
    cases entered
    cases value with
    | array values =>
        cases shape
        rw [Tree.ofItems_eq_map, List.forall₂_map_left_iff] at each
        exact ⟨values, rfl, each⟩
    | _ => cases shape
  · rintro ⟨values, rfl, each⟩
    refine ⟨_, .ofValue, rfl, rfl, ?_⟩
    rw [Tree.ofItems_eq_map, List.forall₂_map_left_iff]
    exact each

theorem Agrees.list {inner : Decoder α} (agrees : inner.Agrees) :
    Agrees (Decoder.list inner) where
  same := by
    intro room tree value list others said text given
    obtain ⟨items, context, rfl, entered, read⟩ := list_eq_ok_iff.1 text
    obtain ⟨values, rfl, readValues⟩ := ofValue_list_eq_ok_iff.1 given
    rcases said.shape with ⟨-, noArray, -⟩ | ⟨_, inside, _, ⟨⟩, room, each, ⟨⟩⟩ | ⟨-, -, -, ⟨⟩, -⟩
    · exact absurd rfl (noArray items)
    · rw [Context.enter_within room] at entered
      cases entered
      have agreed : List.Forall₂ (fun a value => ∀ b, inner.ofValue value = .ok b → a = b)
          list values :=
        forall₂_trans read.flip each fun text here b given => agrees.same here text given
      have equal : List.Forall₂ Eq list others :=
        forall₂_trans agreed readValues fun same given => same _ given
      rwa [List.forall₂_eq_eq_eq] at equal
  kept := by
    intro room tree value list said distinct given
    obtain ⟨values, rfl, readValues⟩ := ofValue_list_eq_ok_iff.1 given
    rcases said.shape with ⟨rfl, noArray, -⟩ | ⟨items, inside, _, rfl, room, each, ⟨⟩⟩ |
        ⟨-, -, -, -, -, -, ⟨⟩⟩
    · exact absurd rfl (noArray _)
    · have distinctEach := (List.forall₂_and_left _ _).2 ⟨Tree.distinct_array_iff.1 distinct, each⟩
      refine list_eq_ok_iff.2 ⟨items, _, rfl, Context.enter_within room, ?_⟩
      exact forall₂_trans distinctEach readValues fun here given =>
        agrees.kept here.2 here.1 given

theorem ofValue_map_eq_ok_iff {inner : Decoder α} {value : Value} {map : OrderedMap α} :
    (Decoder.map inner).ofValue value = .ok map ↔
      ∃ pairs entries, value = .object pairs ∧ map = .ofList entries ∧
        List.Forall₂ (fun pair entry => pair.1 = entry.1 ∧ inner.ofValue pair.2 = .ok entry.2)
          pairs entries := by
  rw [Decoder.ofValue, map_eq_ok_iff]
  constructor
  · rintro ⟨members, inside, entries, shape, entered, read, rfl⟩
    cases entered
    cases value with
    | object pairs =>
        cases shape
        rw [pairs_eq_ok_iff, Tree.ofMembers_eq_map, List.forall₂_map_left_iff] at read
        exact ⟨pairs, entries, rfl, rfl, read.imp fun pair entry both =>
          ⟨Option.some.inj both.1, both.2⟩⟩
    | _ => cases shape
  · rintro ⟨pairs, entries, rfl, rfl, each⟩
    refine ⟨_, .ofValue, entries, rfl, rfl, ?_, rfl⟩
    rw [pairs_eq_ok_iff, Tree.ofMembers_eq_map, List.forall₂_map_left_iff]
    exact each.imp fun pair entry both => ⟨congrArg some both.1, both.2⟩

/-- An entry that is written over is decoded in the text only; the map has its last value both
ways. -/
theorem Agrees.map {inner : Decoder α} (agrees : inner.Agrees) :
    Agrees (Decoder.map inner) where
  same := by
    intro room tree value map other said text given
    obtain ⟨members, context, entries, rfl, entered, read, rfl⟩ := map_eq_ok_iff.1 text
    obtain ⟨merged, others, rfl, rfl, readValues⟩ := ofValue_map_eq_ok_iff.1 given
    rcases said.shape with ⟨-, -, noObject⟩ | ⟨-, -, -, ⟨⟩, -⟩ |
        ⟨_, inside, pairs, ⟨⟩, room, each, ⟨⟩⟩
    · exact absurd rfl (noObject members)
    · rw [Context.enter_within room] at entered
      cases entered
      have agreed : List.Forall₂ (fun entry pair => entry.1 = pair.1 ∧
          ∀ b, inner.ofValue pair.2 = .ok b → entry.2 = b) entries pairs := by
        refine forall₂_trans (pairs_eq_ok_iff.1 read).flip each ?_
        intro entry member pair text here
        exact ⟨Option.some.inj (text.1.symm.trans here.1),
          fun b given => agrees.same here.2 text.2 given⟩
      have mergedAgreed := Assoc.forall₂_merge (fun entry pair both => both.1) agreed
      have equal : List.Forall₂ Eq (Assoc.merge entries) others :=
        forall₂_trans mergedAgreed readValues fun same given =>
          Prod.ext (same.1.trans given.1) (same.2 _ given.2)
      rw [List.forall₂_eq_eq_eq] at equal
      have names : (Assoc.keys others).Nodup := equal ▸ Assoc.nodup_keys_merge entries
      apply OrderedMap.ext
      rw [OrderedMap.entries_ofList, OrderedMap.entries_ofList_of_nodup names, equal]
  kept := by
    intro room tree value map said distinct given
    obtain ⟨merged, entries, rfl, rfl, readValues⟩ := ofValue_map_eq_ok_iff.1 given
    rcases said.shape with ⟨rfl, -, noObject⟩ | ⟨-, -, -, -, -, -, ⟨⟩⟩ |
        ⟨members, inside, pairs, rfl, room, each, ⟨⟩⟩
    · exact absurd rfl (noObject _)
    · obtain ⟨names, distinctEach⟩ := Tree.distinct_object_iff.1 distinct
      rw [each.keys] at names
      rw [Assoc.merge_of_nodup names] at readValues
      have both := (List.forall₂_and_left _ _).2 ⟨distinctEach, each⟩
      refine map_eq_ok_iff.2 ⟨members, _, entries, rfl, Context.enter_within room, ?_, rfl⟩
      refine pairs_eq_ok_iff.2 (forall₂_trans both readValues ?_)
      intro member pair entry here given
      exact ⟨here.2.1.trans (congrArg some given.1), agrees.kept here.2.2 here.1 given.2⟩

section Record

variable {fields : List (RecordField σ)}

/-- A record that is decoded has each field once. -/
theorem nodup_of_members {context : Context} {seen : List String} {record decoded : σ}
    {trees : List (Option String × Tree)}
    (read : members fields context seen record trees = .ok decoded) :
    ((trees.filterMap Prod.fst).filter (isField fields)).Nodup ∧
      ∀ name ∈ (trees.filterMap Prod.fst).filter (isField fields), name ∉ seen := by
  induction trees generalizing seen record with
  | nil => simp
  | cons member rest ih =>
      rcases member with ⟨_ | name, tree⟩
      · cases read
      · simp only [List.filterMap_cons]
        cases found : fields.find? fun field => field.name == name with
        | none =>
            have unknown : isField fields name = false := by rw [isField, found, Option.isSome_none]
            rw [List.filter_cons_of_neg (by simp [unknown])]
            simp only [members, found] at read
            split at read
            · exact ih read
            · cases read
        | some field =>
            have known : isField fields name = true := by rw [isField, found, Option.isSome_some]
            rw [List.filter_cons_of_pos known, List.nodup_cons, List.forall_mem_cons]
            simp only [members, found] at read
            split at read
            · cases read
            · next fresh =>
              obtain ⟨next, -, read⟩ := bind_eq_ok_iff.1 read
              obtain ⟨once, apart⟩ := ih read
              have absent := fun inRest => apart name inRest List.mem_cons_self
              exact ⟨⟨absent, once⟩, fresh, fun other inRest inSeen =>
                apart other inRest (List.mem_cons_of_mem name inSeen)⟩

variable (each : ∀ field ∈ fields, ∀ record : σ,
  Agrees fun context tree => field.read context tree record)

include each

theorem members_same {room : Room} {trees : List (Option String × Tree)}
    {pairs : List (String × Value)} (said : Tree.SaysEach room trees pairs)
    {seen seenValue : List String} {record a b : σ}
    (text : members fields (.within room) seen record trees = .ok a)
    (given : members fields .ofValue seenValue record
      (Tree.ofMembers (pairs.filter fun pair => isField fields pair.1)) = .ok b) : a = b := by
  rw [← members_ofMembers_filter] at given
  induction said generalizing seen seenValue record with
  | nil => exact Except.ok.inj (text.symm.trans given)
  | @cons member pair _ _ here _ ih =>
      rcases member with ⟨_, tree⟩
      rcases pair with ⟨name, value⟩
      obtain ⟨rfl, said⟩ := here
      rw [Tree.ofMembers] at given
      cases found : fields.find? fun field => field.name == name with
      | none =>
          simp only [members, found, Tree.intact_ofValue, if_true] at text given
          split at text
          · exact ih text given
          · cases text
      | some field =>
          simp only [members, found] at text given
          split at text
          · cases text
          split at given
          · cases given
          obtain ⟨next, readText, text⟩ := bind_eq_ok_iff.1 text
          obtain ⟨other, readValue, given⟩ := bind_eq_ok_iff.1 given
          have agrees := each field (List.mem_of_find?_eq_some found) record
          rw [agrees.same said readText readValue] at text
          exact ih text given

theorem members_kept {room : Room} {trees : List (Option String × Tree)}
    {pairs : List (String × Value)} (said : Tree.SaysEach room trees pairs)
    (distinct : ∀ member ∈ trees, member.2.Distinct) {seen : List String} {record b : σ}
    (given : members fields .ofValue seen record (Tree.ofMembers pairs) = .ok b) :
    members fields (.within room) seen record trees = .ok b := by
  induction said generalizing seen record with
  | nil => exact given
  | @cons member pair _ _ here _ ih =>
      rcases member with ⟨_, tree⟩
      rcases pair with ⟨name, value⟩
      obtain ⟨rfl, said⟩ := here
      obtain ⟨distinctHere, later⟩ := List.forall_mem_cons.1 distinct
      rw [Tree.ofMembers] at given
      cases found : fields.find? fun field => field.name == name with
      | none =>
          have intact : tree.intact = true := Tree.intact_of_toValue? said.whole
          simp only [members, found, Tree.intact_ofValue, intact, if_true] at given ⊢
          exact ih later given
      | some field =>
          simp only [members, found] at given ⊢
          split at given
          · cases given
          · next fresh =>
            rw [if_neg fresh]
            obtain ⟨next, readValue, given⟩ := bind_eq_ok_iff.1 given
            have agrees := each field (List.mem_of_find?_eq_some found) record
            exact bind_eq_ok_iff.2 ⟨next, agrees.kept said distinctHere readValue, ih later given⟩

theorem positions_same {room : Room} {trees : List Tree} {values : List Value}
    (said : List.Forall₂ (Tree.Says room) trees values) {count countValue : Nat} {record a b : σ}
    (text : positions (.within room) count fields record trees = .ok a)
    (given : positions .ofValue countValue fields record (Tree.ofItems values) = .ok b) :
    a = b := by
  induction said generalizing fields record with
  | nil =>
      rw [positions] at text
      rw [Tree.ofItems, positions] at given
      exact Except.ok.inj (text.symm.trans given)
  | cons here _ ih =>
      cases fields with
      | nil => cases text
      | cons field fields =>
          obtain ⟨agrees, others⟩ := List.forall_mem_cons.1 each
          rw [positions] at text
          rw [Tree.ofItems, positions] at given
          obtain ⟨next, readText, text⟩ := bind_eq_ok_iff.1 text
          obtain ⟨other, readValue, given⟩ := bind_eq_ok_iff.1 given
          rw [(agrees record).same here readText readValue] at text
          exact ih others text given

theorem positions_kept {room : Room} {trees : List Tree} {values : List Value}
    (said : List.Forall₂ (Tree.Says room) trees values) (distinct : ∀ tree ∈ trees, tree.Distinct)
    {count countValue : Nat} {record b : σ}
    (given : positions .ofValue countValue fields record (Tree.ofItems values) = .ok b) :
    positions (.within room) count fields record trees = .ok b := by
  induction said generalizing fields record with
  | nil =>
      rw [Tree.ofItems, positions] at given
      rw [positions]
      exact given
  | cons here _ ih =>
      cases fields with
      | nil => cases given
      | cons field fields =>
          obtain ⟨agrees, others⟩ := List.forall_mem_cons.1 each
          obtain ⟨distinctHere, later⟩ := List.forall_mem_cons.1 distinct
          rw [Tree.ofItems, positions] at given
          obtain ⟨next, readValue, given⟩ := bind_eq_ok_iff.1 given
          rw [positions, (agrees record).kept here distinctHere readValue]
          exact ih others later given

/-- A record's fields agree one by one. An object that repeats one of them is refused in the text,
so merging changes no field of a record that was read there. -/
theorem Agrees.record (name : String) (initial : σ) :
    Agrees (Decoder.record name fields initial) where
  same := by
    intro room tree value a b said text given
    rcases said.shape with ⟨-, noArray, noObject⟩ |
        ⟨items, inside, values, rfl, entered, saidEach, rfl⟩ |
        ⟨trees, inside, pairs, rfl, entered, saidEach, rfl⟩
    · obtain ⟨items, rfl⟩ | ⟨trees, rfl⟩ := container_of_record_eq_ok text
      · exact absurd rfl (noArray items)
      · exact absurd rfl (noObject trees)
    · rw [record_array (Context.enter_within entered)] at text
      exact positions_same each saidEach text given
    · rw [record_object (Context.enter_within entered)] at text
      have once : (Assoc.keys (pairs.filter fun pair => isField fields pair.1)).Nodup := by
        have given := (nodup_of_members text).1
        rwa [saidEach.keys, Assoc.keys, List.filter_map] at given
      have given : members fields .ofValue [] initial (Tree.ofMembers (Assoc.merge pairs)) =
          .ok b := given
      rw [members_ofMembers_filter, Assoc.filter_merge, Assoc.merge_of_nodup once] at given
      exact members_same each saidEach text given
  kept := by
    intro room tree value b said distinct given
    rcases said.shape with ⟨rfl, noArray, noObject⟩ |
        ⟨items, inside, values, rfl, entered, saidEach, rfl⟩ |
        ⟨trees, inside, pairs, rfl, entered, saidEach, rfl⟩
    · obtain ⟨items, shape⟩ | ⟨trees, shape⟩ := container_of_record_eq_ok given
      · exact absurd shape (noArray items)
      · exact absurd shape (noObject trees)
    · rw [record_array (Context.enter_within entered)]
      exact positions_kept each saidEach (Tree.distinct_array_iff.1 distinct) given
    · obtain ⟨once, distinctEach⟩ := Tree.distinct_object_iff.1 distinct
      rw [saidEach.keys] at once
      rw [Assoc.merge_of_nodup once] at given
      rw [record_object (Context.enter_within entered)]
      exact members_kept each saidEach distinctEach given

end Record

/-- A field agrees that stores what agreeing decoders give. -/
theorem Agrees.field {inner : Decoder α} (agrees : inner.Agrees) {name : String} {set : σ → α → σ}
    (record : σ) :
    Agrees fun context tree => (RecordField.of name inner set).read context tree record where
  same := by
    intro room tree value a b said text given
    obtain ⟨held, read, rfl⟩ := Query.exists_of_map_eq_ok text
    obtain ⟨other, readValue, rfl⟩ := Query.exists_of_map_eq_ok given
    rw [agrees.same said read readValue]
  kept := by
    intro room tree value b said distinct given
    obtain ⟨held, readValue, rfl⟩ := Query.exists_of_map_eq_ok given
    show Except.map (set record) (inner (.within room) tree) = _
    rw [agrees.kept said distinct readValue]
    rfl

end Decoder

end QueryGroup.Document
