set_option autoImplicit false

/- Maps that remember the order in which their names were first written. Writing a name
again keeps its place and takes the new value. `Assoc` holds the same operations on plain
lists of pairs, for places where a list may still repeat a name. -/
namespace QueryGroup

namespace Assoc

variable {α : Type}

def keys (pairs : List (String × α)) : List String := pairs.map Prod.fst

def get? (pairs : List (String × α)) (name : String) : Option α :=
  (pairs.find? fun pair => pair.1 == name).map Prod.snd

/-- Gives `name` its value in place, or adds the pair at the end. -/
def put (name : String) (value : α) : List (String × α) → List (String × α)
  | [] => [(name, value)]
  | (key, old) :: rest =>
      if key = name then (key, value) :: rest else (key, old) :: put name value rest

/-- A repeated name keeps its first place and its last value. -/
def merge (pairs : List (String × α)) : List (String × α) :=
  pairs.foldl (fun merged pair => put pair.1 pair.2 merged) []

@[simp] theorem keys_nil : keys ([] : List (String × α)) = [] := rfl

@[simp] theorem keys_cons (pair : String × α) (rest : List (String × α)) :
    keys (pair :: rest) = pair.1 :: keys rest := rfl

@[simp] theorem keys_append (front back : List (String × α)) :
    keys (front ++ back) = keys front ++ keys back := by
  simp [keys]

theorem keys_put_of_mem {name : String} {value : α} {pairs : List (String × α)}
    (present : name ∈ keys pairs) : keys (put name value pairs) = keys pairs := by
  induction pairs with
  | nil => simp at present
  | cons pair rest ih =>
    by_cases same : pair.1 = name
    · simp [put, same]
    · have inRest : name ∈ keys rest := by
        simp only [keys_cons, List.mem_cons] at present
        exact present.resolve_left fun h => same h.symm
      simp [put, same, ih inRest]

theorem put_of_not_mem {name : String} {value : α} {pairs : List (String × α)}
    (absent : name ∉ keys pairs) : put name value pairs = pairs ++ [(name, value)] := by
  induction pairs with
  | nil => rfl
  | cons pair rest ih =>
    simp only [keys_cons, List.mem_cons, not_or] at absent
    have other : pair.1 ≠ name := fun h => absent.1 h.symm
    simp [put, other, ih absent.2]

/-- Writing a name changes what it leads to and nothing else. -/
theorem get?_put (pairs : List (String × α)) (name other : String) (value : α) :
    get? (put name value pairs) other = if name = other then some value else get? pairs other := by
  induction pairs with
  | nil => by_cases same : name = other <;> simp [put, get?, same]
  | cons pair rest ih =>
    by_cases first : pair.1 = name
    · by_cases same : name = other <;> simp [put, get?, first, same]
    · by_cases here : pair.1 = other
      · subst here
        simp [put, get?, first, Ne.symm first]
      · simpa [put, get?, first, here] using ih

theorem nodup_keys_put {name : String} {value : α} {pairs : List (String × α)}
    (distinct : (keys pairs).Nodup) : (keys (put name value pairs)).Nodup := by
  by_cases present : name ∈ keys pairs
  · rw [keys_put_of_mem present]
    exact distinct
  · rw [put_of_not_mem present, keys_append]
    exact List.nodup_append.2 ⟨distinct, by simp,
      fun a inFront b inBack same => present (by
        have last : b = name := by simpa using inBack
        exact last ▸ same ▸ inFront)⟩

theorem nodup_keys_foldl_put (pairs : List (String × α)) {start : List (String × α)}
    (distinct : (keys start).Nodup) :
    (keys (pairs.foldl (fun merged pair => put pair.1 pair.2 merged) start)).Nodup := by
  induction pairs generalizing start with
  | nil => exact distinct
  | cons pair rest ih => exact ih (nodup_keys_put distinct)

theorem nodup_keys_merge (pairs : List (String × α)) : (keys (merge pairs)).Nodup :=
  nodup_keys_foldl_put pairs (by simp)

theorem foldl_put_of_nodup {pairs start : List (String × α)}
    (distinct : (keys (start ++ pairs)).Nodup) :
    pairs.foldl (fun merged pair => put pair.1 pair.2 merged) start = start ++ pairs := by
  induction pairs generalizing start with
  | nil => simp
  | cons pair rest ih =>
    have absent : pair.1 ∉ keys start := by
      intro present
      rw [keys_append, List.nodup_append] at distinct
      exact distinct.2.2 _ present _ (by simp) rfl
    rw [List.foldl_cons, put_of_not_mem absent, ih (by simpa using distinct)]
    simp

/-- Pairs whose names are distinct already stay as they are. -/
theorem merge_of_nodup {pairs : List (String × α)} (distinct : (keys pairs).Nodup) :
    merge pairs = pairs := by
  have whole : (keys ([] ++ pairs)).Nodup := by simpa using distinct
  simpa [merge] using foldl_put_of_nodup whole

end Assoc

/-- Pairs in the order of first writing, no name twice. -/
structure OrderedMap (α : Type) where
  entries : List (String × α)
  distinct : (Assoc.keys entries).Nodup

namespace OrderedMap

variable {α β : Type}

def empty : OrderedMap α := ⟨[], by simp⟩

instance : EmptyCollection (OrderedMap α) := ⟨empty⟩

instance : Inhabited (OrderedMap α) := ⟨empty⟩

/-- The map that writing the pairs one after another gives. -/
def ofList (pairs : List (String × α)) : OrderedMap α :=
  ⟨Assoc.merge pairs, Assoc.nodup_keys_merge pairs⟩

def keys (map : OrderedMap α) : List String := Assoc.keys map.entries

def size (map : OrderedMap α) : Nat := map.entries.length

def get? (map : OrderedMap α) (name : String) : Option α := Assoc.get? map.entries name

def insert (map : OrderedMap α) (name : String) (value : α) : OrderedMap α :=
  ⟨Assoc.put name value map.entries, Assoc.nodup_keys_put map.distinct⟩

def first? (map : OrderedMap α) : Option (String × α) := map.entries.head?

@[ext] theorem ext {a b : OrderedMap α} (same : a.entries = b.entries) : a = b := by
  cases a
  cases b
  cases same
  rfl

instance [DecidableEq α] : DecidableEq (OrderedMap α) := fun a b =>
  decidable_of_iff (a.entries = b.entries) ⟨ext, fun same => same ▸ rfl⟩

@[simp] theorem entries_empty : (∅ : OrderedMap α).entries = [] := rfl

theorem get?_insert (map : OrderedMap α) (name other : String) (value : α) :
    (map.insert name value).get? other = if name = other then some value else map.get? other :=
  Assoc.get?_put map.entries name other value

theorem entries_ofList (pairs : List (String × α)) :
    (ofList pairs).entries = Assoc.merge pairs := rfl

theorem entries_ofList_of_nodup {pairs : List (String × α)}
    (distinct : (Assoc.keys pairs).Nodup) : (ofList pairs).entries = pairs :=
  Assoc.merge_of_nodup distinct

@[simp] theorem ofList_entries (map : OrderedMap α) : ofList map.entries = map :=
  ext (Assoc.merge_of_nodup map.distinct)

end OrderedMap

end QueryGroup
