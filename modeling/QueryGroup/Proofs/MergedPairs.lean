import Mathlib.Data.List.Forall2
import QueryGroup.OrderedMap
set_option autoImplicit false

namespace QueryGroup.Assoc

variable {α β : Type}

theorem mem_of_mem_put {name : String} {value : α} {pairs : List (String × α)}
    {pair : String × α} (member : pair ∈ put name value pairs) :
    pair = (name, value) ∨ pair ∈ pairs := by
  induction pairs with
  | nil => exact .inl (List.mem_singleton.1 member)
  | cons first rest ih =>
      by_cases same : first.1 = name
      · rw [put, if_pos same, List.mem_cons] at member
        rcases member with rfl | later
        · exact .inl (by rw [same])
        · exact .inr (List.mem_cons_of_mem _ later)
      · rw [put, if_neg same, List.mem_cons] at member
        rcases member with rfl | later
        · exact .inr List.mem_cons_self
        · exact (ih later).imp_right (List.mem_cons_of_mem _)

theorem mem_of_mem_foldl_put (pairs : List (String × α)) {start : List (String × α)}
    {pair : String × α}
    (member : pair ∈ pairs.foldl (fun merged pair => put pair.1 pair.2 merged) start) :
    pair ∈ start ∨ pair ∈ pairs := by
  induction pairs generalizing start with
  | nil => exact .inl member
  | cons first rest ih =>
      rcases ih member with early | late
      · rcases mem_of_mem_put early with rfl | given
        · exact .inr List.mem_cons_self
        · exact .inl given
      · exact .inr (List.mem_cons_of_mem _ late)

/-- Every pair of the merged list was given. -/
theorem mem_of_mem_merge {pairs : List (String × α)} {pair : String × α}
    (member : pair ∈ merge pairs) : pair ∈ pairs :=
  (mem_of_mem_foldl_put pairs member).resolve_left List.not_mem_nil

section Filter

variable (kept : String → Bool)

theorem filter_put (name : String) (value : α) (pairs : List (String × α)) :
    (put name value pairs).filter (fun pair => kept pair.1) =
      if kept name then put name value (pairs.filter fun pair => kept pair.1)
      else pairs.filter fun pair => kept pair.1 := by
  induction pairs with
  | nil => by_cases keep : kept name <;> simp [put, keep]
  | cons first rest ih =>
      by_cases same : first.1 = name
      · by_cases keep : kept name <;> simp [put, same, keep]
      · by_cases keepFirst : kept first.1 <;> by_cases keep : kept name <;>
          simp_all [put]

theorem filter_foldl_put (pairs start : List (String × α)) :
    (pairs.foldl (fun merged pair => put pair.1 pair.2 merged) start).filter
        (fun pair => kept pair.1) =
      (pairs.filter fun pair => kept pair.1).foldl
        (fun merged pair => put pair.1 pair.2 merged) (start.filter fun pair => kept pair.1) := by
  induction pairs generalizing start with
  | nil => rfl
  | cons first rest ih =>
      rw [List.foldl_cons, ih, filter_put, List.filter_cons]
      split <;> rfl

/-- Names may be passed over before merging or after it. -/
theorem filter_merge (pairs : List (String × α)) :
    (merge pairs).filter (fun pair => kept pair.1) =
      merge (pairs.filter fun pair => kept pair.1) :=
  filter_foldl_put kept pairs []

end Filter

section Parallel

variable {relation : String × α → String × β → Prop}
  (names : ∀ front back, relation front back → front.1 = back.1)

include names

theorem forall₂_put {front : String × α} {back : String × β} (holds : relation front back)
    {pairs : List (String × α)} {others : List (String × β)}
    (each : List.Forall₂ relation pairs others) :
    List.Forall₂ relation (put front.1 front.2 pairs) (put back.1 back.2 others) := by
  induction each with
  | nil => exact .cons holds .nil
  | @cons first other rest more here later ih =>
      by_cases same : first.1 = front.1
      · have otherSame : other.1 = back.1 := by
          rw [← names _ _ here, ← names _ _ holds, same]
        rw [put, put, if_pos same, if_pos otherSame, same, otherSame]
        exact .cons holds later
      · have otherApart : other.1 ≠ back.1 := by
          rw [← names _ _ here, ← names _ _ holds]
          exact same
        rw [put, put, if_neg same, if_neg otherApart]
        exact .cons here ih

theorem forall₂_foldl_put {pairs : List (String × α)} {others : List (String × β)}
    (each : List.Forall₂ relation pairs others) {start : List (String × α)}
    {begun : List (String × β)} (before : List.Forall₂ relation start begun) :
    List.Forall₂ relation (pairs.foldl (fun merged pair => put pair.1 pair.2 merged) start)
      (others.foldl (fun merged pair => put pair.1 pair.2 merged) begun) := by
  induction each generalizing start begun with
  | nil => exact before
  | cons here _ ih => exact ih (forall₂_put names here before)

/-- Two lists with the same names one by one are merged at the same places. -/
theorem forall₂_merge {pairs : List (String × α)} {others : List (String × β)}
    (each : List.Forall₂ relation pairs others) :
    List.Forall₂ relation (merge pairs) (merge others) :=
  forall₂_foldl_put names each .nil

end Parallel

end QueryGroup.Assoc
