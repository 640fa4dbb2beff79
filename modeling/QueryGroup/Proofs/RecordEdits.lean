import Mathlib.Data.List.Pairwise
import QueryGroup.Proofs.Decoding
import QueryGroup.Proofs.Normalizing
import QueryGroup.Proofs.ReportValues
set_option autoImplicit false

namespace QueryGroup.Document

open Json

/-- One edit in the value of a record that has fields of these names, in their order: a member more
whose name is none of them, a null more where null is tolerated, or an edit of one part, wherever
the part stands. -/
inductive RecordEdit (names nullable : List String) (part : String → Value → Value → Prop) :
    Value → Value → Prop
  | unknown (front back : List (String × Value)) {name : String} (value : Value)
      (absent : name ∉ names) :
      RecordEdit names nullable part (.object (front ++ back))
        (.object (front ++ (name, value) :: back))
  | null (front back : List (String × Value)) {name : String} (tolerated : name ∈ nullable)
      (fresh : name ∉ Assoc.keys (front ++ back)) :
      RecordEdit names nullable part (.object (front ++ back))
        (.object (front ++ (name, .null) :: back))
  | member (front back : List (String × Value)) {name : String} {old new : Value}
      (edit : part name old new) :
      RecordEdit names nullable part (.object (front ++ (name, old) :: back))
        (.object (front ++ (name, new) :: back))
  | item (front back : List Value) {name : String} {old new : Value}
      (place : names[front.length]? = some name) (edit : part name old new) :
      RecordEdit names nullable part (.array (front ++ old :: back)) (.array (front ++ new :: back))

/-- One edit in one item of a list. -/
inductive ListEdit (inner : Value → Value → Prop) : Value → Value → Prop
  | item (front back : List Value) {old new : Value} (edit : inner old new) :
      ListEdit inner (.array (front ++ old :: back)) (.array (front ++ new :: back))

theorem RecordEdit.present {names nullable : List String} {part : String → Value → Value → Prop}
    {old new : Value} (edit : RecordEdit names nullable part old new) :
    old ≠ .null ∧ new ≠ .null := by
  cases edit <;> exact ⟨nofun, nofun⟩

theorem ListEdit.present {inner : Value → Value → Prop} {old new : Value}
    (edit : ListEdit inner old new) : old ≠ .null ∧ new ≠ .null := by
  cases edit
  exact ⟨nofun, nofun⟩

namespace RecordField

variable {σ α β : Type}

/-- Null leaves the field as it is. -/
def Unset (field : RecordField σ) (record : σ) : Prop :=
  field.read .ofValue .null record = .ok record

/-- What is read into either field leaves the other one unset. -/
structure Apart (first second : RecordField σ) : Prop where
  keepsFirst : ∀ {tree record next}, first.Unset record →
    second.read .ofValue tree record = .ok next → first.Unset next
  keepsSecond : ∀ {tree record next}, second.Unset record →
    first.read .ofValue tree record = .ok next → second.Unset next

instance : Std.Symm (@Apart σ) where
  symm _ _ apart := ⟨apart.keepsSecond, apart.keepsFirst⟩

theorem unset_of_commute {name name' : String} {inner : Decoder α} {inner' : Decoder β}
    {set : σ → α → σ} {set' : σ → β → σ}
    (commute : ∀ record a b, set (set' record b) a = set' (set record a) b) {tree : Tree}
    {record next : σ} (unset : (RecordField.of name inner set).Unset record)
    (read : (RecordField.of name' inner' set').read .ofValue tree record = .ok next) :
    (RecordField.of name inner set).Unset next := by
  obtain ⟨b, -, rfl⟩ := Query.exists_of_map_eq_ok read
  obtain ⟨a, null, same⟩ := Query.exists_of_map_eq_ok unset
  show Except.map (set (set' record b)) (inner .ofValue .null) = .ok (set' record b)
  rw [null, Except.map, commute, same]

/-- Fields are apart whose values are stored side by side. -/
theorem apart_of_commute {name name' : String} {inner : Decoder α} {inner' : Decoder β}
    {set : σ → α → σ} {set' : σ → β → σ}
    (commute : ∀ record a b, set (set' record b) a = set' (set record a) b) :
    (RecordField.of name inner set).Apart (RecordField.of name' inner' set') where
  keepsFirst := unset_of_commute commute
  keepsSecond := unset_of_commute fun record b a => (commute record a b).symm

theorem read_of_congr {name : String} {inner : Decoder α} {set : σ → α → σ} {old new : Value}
    (same : inner.ofValue old = inner.ofValue new) (record : σ) :
    (RecordField.of name inner set).read .ofValue (Tree.ofValue old) record =
      (RecordField.of name inner set).read .ofValue (Tree.ofValue new) record :=
  congrArg (Except.map (set record)) same

/-- Records look alike after a read if they do so whatever is stored. -/
theorem map_view_read {τ : Type} {view : σ → τ} {name : String} {inner : Decoder α}
    {set : σ → α → σ} {tree : Tree} {record record' : σ}
    (alike : ∀ held, view (set record held) = view (set record' held)) :
    ((RecordField.of name inner set).read .ofValue tree record).map view =
      ((RecordField.of name inner set).read .ofValue tree record').map view := by
  show ((inner .ofValue tree).map (set record)).map view =
    ((inner .ofValue tree).map (set record')).map view
  cases inner .ofValue tree with
  | error fault => rfl
  | ok held => exact congrArg Except.ok (alike held)

end RecordField

namespace Decoder

variable {α σ τ : Type} {fields : List (RecordField σ)}

theorem items_append_congr {inner : Decoder α} {old new : Value}
    (same : inner.ofValue old = inner.ofValue new) (front back : List Value) :
    items inner .ofValue (Tree.ofItems (front ++ old :: back)) =
      items inner .ofValue (Tree.ofItems (front ++ new :: back)) := by
  induction front with
  | nil =>
      have here : inner .ofValue (Tree.ofValue old) = inner .ofValue (Tree.ofValue new) := same
      rw [List.nil_append, List.nil_append, Tree.ofItems, Tree.ofItems, items, items, here]
  | cons item rest ih =>
      rw [List.cons_append, List.cons_append, Tree.ofItems, Tree.ofItems, items, items, ih]

theorem ofValue_list_of_edit {inner : Decoder α} {edit : Value → Value → Prop}
    (same : ∀ {old new}, edit old new → inner.ofValue old = inner.ofValue new) {old new : Value}
    (edited : ListEdit edit old new) :
    (Decoder.list inner).ofValue old = (Decoder.list inner).ofValue new := by
  cases edited with
  | item front back edited => exact items_append_congr (same edited) front back

theorem ofValue_optional_congr {inner : Decoder α} {old new : Value}
    (present : old ≠ .null ∧ new ≠ .null) (same : inner.ofValue old = inner.ofValue new) :
    (Decoder.optional inner).ofValue old = (Decoder.optional inner).ofValue new := by
  rw [ofValue_optional present.1, ofValue_optional present.2, same]

theorem ofValue_orDefault_congr [Inhabited α] {inner : Decoder α} {old new : Value}
    (present : old ≠ .null ∧ new ≠ .null) (same : inner.ofValue old = inner.ofValue new) :
    (Decoder.orDefault inner).ofValue old = (Decoder.orDefault inner).ofValue new := by
  rw [ofValue_orDefault present.1, ofValue_orDefault present.2, same]

/-- It matters which of the names to come were seen, and no others. -/
theorem members_congr_seen {seen seen' : List String} {pairs : List (String × Value)}
    (agree : ∀ name ∈ Assoc.keys pairs, name ∈ seen ↔ name ∈ seen') (record : σ) :
    members fields .ofValue seen record (Tree.ofMembers pairs) =
      members fields .ofValue seen' record (Tree.ofMembers pairs) := by
  induction pairs generalizing seen seen' record with
  | nil => rfl
  | cons pair rest ih =>
      rcases pair with ⟨name, value⟩
      rw [Assoc.keys_cons, List.forall_mem_cons] at agree
      cases found : fields.find? fun field => field.name == name with
      | none => simp only [Tree.ofMembers, members, found, Tree.intact_ofValue, if_true, ih agree.2]
      | some field =>
          have later : ∀ other ∈ Assoc.keys rest, other ∈ name :: seen ↔ other ∈ name :: seen' := by
            intro other inRest
            rw [List.mem_cons, List.mem_cons, agree.2 other inRest]
          simp only [Tree.ofMembers, members, found, agree.1, ih later]

section Behind

variable (view : σ → τ) (holds : List String → σ → Prop) {front back back' : List (String × Value)}
  (kept : ∀ pair ∈ front, ∀ field, (fields.find? fun field => field.name == pair.1) = some field →
    ∀ {seen record next}, holds seen record →
      field.read .ofValue (Tree.ofValue pair.2) record = .ok next → holds (pair.1 :: seen) next)

include kept

/-- What looks alike behind some members looks alike behind them, if what they give is such as makes
it so. -/
theorem members_append_view
    (tails : ∀ seen record, holds seen record →
      (members fields .ofValue seen record (Tree.ofMembers back)).map view =
        (members fields .ofValue seen record (Tree.ofMembers back')).map view)
    {seen : List String} {record : σ} (start : holds seen record) :
    (members fields .ofValue seen record (Tree.ofMembers (front ++ back))).map view =
      (members fields .ofValue seen record (Tree.ofMembers (front ++ back'))).map view := by
  induction front generalizing seen record with
  | nil => exact tails seen record start
  | cons pair rest ih =>
      obtain ⟨here, later⟩ := List.forall_mem_cons.1 kept
      rcases pair with ⟨name, value⟩
      simp only [List.cons_append, Tree.ofMembers, members]
      split
      · simp only [Tree.intact_ofValue, if_true]
        exact ih later start
      · next field found =>
        split
        · rfl
        · cases read : field.read .ofValue (Tree.ofValue value) record with
          | error fault => rfl
          | ok next => exact ih later (here field found start read)

theorem members_append_congr
    (tails : ∀ seen record, holds seen record →
      members fields .ofValue seen record (Tree.ofMembers back) =
        members fields .ofValue seen record (Tree.ofMembers back'))
    {seen : List String} {record : σ} (start : holds seen record) :
    members fields .ofValue seen record (Tree.ofMembers (front ++ back)) =
      members fields .ofValue seen record (Tree.ofMembers (front ++ back')) := by
  have same := members_append_view id holds kept
    (fun seen record before => congrArg (Except.map id) (tails seen record before)) start
  simpa only [Except.map_id, id_eq] using same

end Behind

section View

variable {view : σ → τ}
  (respects : ∀ field ∈ fields, ∀ tree {record record'}, view record = view record' →
    (field.read .ofValue tree record).map view = (field.read .ofValue tree record').map view)

include respects

/-- Records that look alike do so still when the same members are read into them. -/
theorem members_map_view
    (seen : List String) {record record' : σ} (alike : view record = view record')
    (trees : List (Option String × Tree)) :
    (members fields .ofValue seen record trees).map view =
      (members fields .ofValue seen record' trees).map view := by
  induction trees generalizing seen record record' with
  | nil => exact congrArg Except.ok alike
  | cons member rest ih =>
      rcases member with ⟨_ | name, tree⟩
      · rfl
      · simp only [members]
        split
        · split
          · exact ih seen alike
          · rfl
        · next field found =>
          split
          · rfl
          · have same := respects field (List.mem_of_find?_eq_some found) tree alike
            cases read : field.read .ofValue tree record with
            | error fault =>
                cases read' : field.read .ofValue tree record' with
                | error fault' =>
                    rw [read, read'] at same
                    exact same
                | ok next' =>
                    rw [read, read'] at same
                    cases same
            | ok next =>
                cases read' : field.read .ofValue tree record' with
                | error fault' =>
                    rw [read, read'] at same
                    cases same
                | ok next' =>
                    rw [read, read'] at same
                    exact ih (name :: seen) (Except.ok.inj same)

/-- Two members of one field look alike if what is read of them does. -/
theorem members_cons_view {inner : Decoder α} {set : σ → α → σ} {name : String}
    (known : (fields.find? fun field => field.name == name) = some (.of name inner set))
    {old new : Value} {a b : α} (readOld : inner.ofValue old = .ok a)
    (readNew : inner.ofValue new = .ok b)
    (alike : ∀ record, view (set record a) = view (set record b))
    (seen : List String) (record : σ) (back : List (String × Value)) :
    (members fields .ofValue seen record (Tree.ofMembers ((name, old) :: back))).map view =
      (members fields .ofValue seen record (Tree.ofMembers ((name, new) :: back))).map view := by
  by_cases fresh : name ∈ seen
  · simp only [Tree.ofMembers, members, known, fresh, if_true]
  · rw [members_ofMembers_cons known readOld fresh, members_ofMembers_cons known readNew fresh]
    exact members_map_view respects (name :: seen) (alike record) _

end View

theorem positions_append_congr {old new : Value} {front : List Value}
    (same : ∀ field, fields[front.length]? = some field → ∀ record,
      field.read .ofValue (Tree.ofValue old) record = field.read .ofValue (Tree.ofValue new) record)
    (count : Nat) (back : List Value) (record : σ) :
    positions .ofValue count fields record (Tree.ofItems (front ++ old :: back)) =
      positions .ofValue count fields record (Tree.ofItems (front ++ new :: back)) := by
  induction front generalizing fields record with
  | nil =>
      cases fields with
      | nil => rfl
      | cons field fields =>
          simp only [List.nil_append, Tree.ofItems, positions, same field rfl record]
  | cons item rest ih =>
      cases fields with
      | nil => rfl
      | cons field fields =>
          simp only [List.cons_append, Tree.ofItems, positions]
          cases field.read .ofValue (Tree.ofValue item) record with
          | error fault => rfl
          | ok next => exact ih same next

/-- The fields of a record do not see the edits of its value. -/
structure Tolerant (fields : List (RecordField σ)) (initial : σ) (names nullable : List String)
    (part : String → Value → Value → Prop) : Prop where
  named : fields.map RecordField.name = names
  apart : fields.Pairwise RecordField.Apart
  unset : ∀ field ∈ fields, field.name ∈ nullable → field.Unset initial
  alike : ∀ field ∈ fields, ∀ {old new}, part field.name old new → ∀ record,
    field.read .ofValue (Tree.ofValue old) record = field.read .ofValue (Tree.ofValue new) record

variable {initial : σ} {names nullable : List String} {part : String → Value → Value → Prop}

theorem Tolerant.isField_eq_false (tolerant : Tolerant fields initial names nullable part)
    {name : String} (absent : name ∉ names) : isField fields name = false := by
  rw [isField, Option.isSome_eq_false_iff, Option.isNone_iff_eq_none, List.find?_eq_none]
  intro field inside named
  apply absent
  rw [← tolerant.named, ← beq_iff_eq.1 named]
  exact List.mem_map_of_mem inside

/-- A null is passed over where no other member has its name: its field is still unset. -/
theorem Tolerant.members_null (tolerant : Tolerant fields initial names nullable part)
    {front back : List (String × Value)} {name : String} (tolerated : name ∈ nullable)
    (fresh : name ∉ Assoc.keys (front ++ back)) :
    members fields .ofValue [] initial (Tree.ofMembers (front ++ back)) =
      members fields .ofValue [] initial (Tree.ofMembers (front ++ (name, .null) :: back)) := by
  rw [Assoc.keys_append, List.mem_append, not_or] at fresh
  -- The name is not seen and its field not set while the members in front of the null are read.
  let untouched (seen : List String) (record : σ) : Prop :=
    name ∉ seen ∧ ∀ field ∈ fields, field.name = name → field.Unset record
  have start : untouched [] initial := by
    refine ⟨List.not_mem_nil, ?_⟩
    intro field inside named
    exact tolerant.unset field inside (named ▸ tolerated)
  refine members_append_congr untouched ?_ ?_ start
  · intro pair member field found seen record next before read
    have other : name ≠ pair.1 := by
      rintro rfl
      exact fresh.1 (List.mem_map_of_mem member)
    refine ⟨List.not_mem_cons_of_ne_of_not_mem other before.1, ?_⟩
    intro first inside named
    have different : first ≠ field := by
      rintro rfl
      exact other (named.symm.trans (name_of_find? found))
    have apart := tolerant.apart.forall inside
      (List.mem_of_find?_eq_some found) different
    exact apart.keepsFirst (before.2 first inside named) read
  · intro seen record before
    simp only [Tree.ofMembers, Tree.ofValue, members]
    split
    · rfl
    · next field found =>
      have unset : field.read .ofValue .null record = .ok record :=
        before.2 field (List.mem_of_find?_eq_some found) (name_of_find? found)
      have agree : ∀ other ∈ Assoc.keys back, other ∈ seen ↔ other ∈ name :: seen := by
        intro other inBack
        have apart : other ≠ name := fun same => fresh.2 (same ▸ inBack)
        simp only [List.mem_cons, apart, false_or]
      rw [if_neg before.1, unset]
      exact members_congr_seen agree record

/-- The decoder of a record gives for an edited value what it gave before. -/
theorem Tolerant.ofValue_record (tolerant : Tolerant fields initial names nullable part)
    (title : String) {old new : Value} (edit : RecordEdit names nullable part old new) :
    (Decoder.record title fields initial).ofValue old =
      (Decoder.record title fields initial).ofValue new := by
  cases edit with
  | @unknown front back name value absent =>
      show members fields .ofValue [] initial (Tree.ofMembers _) =
        members fields .ofValue [] initial (Tree.ofMembers _)
      rw [members_ofMembers_filter, members_ofMembers_filter fields [] initial (front ++ _ :: back),
        List.filter_append, List.filter_append, List.filter_cons_of_neg]
      simp only [tolerant.isField_eq_false absent, Bool.false_eq_true, not_false_eq_true]
  | null front back tolerated fresh => exact tolerant.members_null tolerated fresh
  | @member front back name old new edit =>
      show members fields .ofValue [] initial (Tree.ofMembers _) =
        members fields .ofValue [] initial (Tree.ofMembers _)
      refine members_append_congr (fun _ _ => True) ?_ ?_ trivial
      · intros
        trivial
      · intro seen record _
        simp only [Tree.ofMembers, members]
        split
        · simp only [Tree.intact_ofValue, if_true]
        · next field found =>
          have named : field.name = name := name_of_find? found
          rw [tolerant.alike field (List.mem_of_find?_eq_some found) (named ▸ edit)]
  | @item front back name old new place edit =>
      have same : ∀ field, fields[front.length]? = some field → ∀ record,
          field.read .ofValue (Tree.ofValue old) record =
            field.read .ofValue (Tree.ofValue new) record := by
        intro field there
        have named : field.name = name := by
          rw [← tolerant.named, List.getElem?_map, there] at place
          exact Option.some.inj place
        exact tolerant.alike field (List.mem_of_getElem? there) (named ▸ edit)
      have count : (Tree.ofItems (front ++ old :: back)).length =
          (Tree.ofItems (front ++ new :: back)).length := by
        simp [Tree.ofItems_eq_map]
      show positions .ofValue _ fields initial _ = positions .ofValue _ fields initial _
      rw [count]
      exact positions_append_congr same _ back initial

end Decoder

end QueryGroup.Document
