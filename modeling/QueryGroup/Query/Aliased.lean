set_option autoImplicit false

namespace QueryGroup.Query

/-- An expression and the alias that names it. -/
structure Aliased where
  name : String
  expression : String
deriving DecidableEq, Repr

namespace Aliased

/-- The characters before and after the first equals sign. -/
def split? : List Char → Option (List Char × List Char)
  | [] => none
  | c :: rest =>
      if c = '=' then some ([], rest)
      else (split? rest).map fun parts => (c :: parts.1, parts.2)

/-- A key needs an alias: an item without an equals sign or with nothing before it is none. -/
def parseKey? (item : String) : Option Aliased :=
  match split? item.toList with
  | some (c :: name, expression) => some ⟨.ofList (c :: name), .ofList expression⟩
  | _ => none

/-- A value without an alias of its own is named by its whole text. -/
def parseValue (item : String) : Aliased := (parseKey? item).getD ⟨item, item⟩

def text (pair : Aliased) : String := pair.name ++ "=" ++ pair.expression

theorem split?_eq_none_iff (item : List Char) : split? item = none ↔ '=' ∉ item := by
  induction item with
  | nil => simp [split?]
  | cons c rest ih =>
    by_cases equals : c = '='
    · simp [split?, equals]
    · simp [split?, equals, ih, Ne.symm equals]

theorem split?_eq_some_iff (item name expression : List Char) :
    split? item = some (name, expression) ↔
      '=' ∉ name ∧ item = name ++ '=' :: expression := by
  induction item generalizing name with
  | nil => simp [split?]
  | cons c rest ih =>
    by_cases equals : c = '='
    · cases name with
      | nil => simp [split?, equals]
      | cons d tail =>
        simp only [split?, equals, if_true, List.cons_append, List.cons.injEq, List.mem_cons,
          not_or]
        grind
    · cases name with
      | nil => simp [split?, equals]
      | cons d tail =>
        simp only [split?, equals, if_false, Option.map_eq_some_iff, Prod.exists, Prod.mk.injEq,
          List.cons.injEq, List.cons_append, List.mem_cons, not_or]
        constructor
        · rintro ⟨front, back, found, ⟨rfl, rfl⟩, rfl⟩
          obtain ⟨absent, rfl⟩ := (ih front).1 found
          exact ⟨⟨fun h => equals h.symm, absent⟩, rfl, rfl⟩
        · rintro ⟨⟨_, absent⟩, rfl, rfl⟩
          exact ⟨tail, expression, (ih tail).2 ⟨absent, rfl⟩, ⟨rfl, rfl⟩, rfl⟩

end Aliased

end QueryGroup.Query
