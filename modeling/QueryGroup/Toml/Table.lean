import QueryGroup.Document.Tree
set_option autoImplicit false

/- Tables under construction. Headers open tables, dotted keys make tables on their way, and
each kind of table may be extended by some of the others: a table that a header opened is
not opened again nor extended by a dotted key from outside, and a value is never extended.
The latest of several tables under one name may have tables added inside it by either. -/
namespace QueryGroup.Toml

open Document

inductive Form where
  /-- Opened by a header of its own. -/
  | opened
  /-- On the path of a header. -/
  | implied
  /-- On the path of a dotted key. -/
  | dotted
deriving DecidableEq, Repr

inductive Node where
  | value (tree : Tree)
  | table (form : Form) (entries : List (String × Node))
  /-- Tables under one name, the latest last. -/
  | tables (earlier : List (List (String × Node))) (latest : List (String × Node))
deriving Repr

abbrev Entries := List (String × Node)

mutual

def Node.toTree : Node → Tree
  | .value tree => tree
  | .table _ entries => .object (membersOf entries)
  | .tables earlier latest => .array (objectsOf earlier ++ [.object (membersOf latest)])

def membersOf : List (String × Node) → List (Option String × Tree)
  | [] => []
  | (name, node) :: rest => (some name, node.toTree) :: membersOf rest

def objectsOf : List (List (String × Node)) → List Tree
  | [] => []
  | entries :: rest => .object (membersOf entries) :: objectsOf rest

end

namespace Entries

def assign? (key : String) (tree : Tree) : List String → Entries → Option Entries
  | [], entries =>
      if (Assoc.get? entries key).isSome then none else some (entries ++ [(key, .value tree)])
  | name :: path, entries =>
      match Assoc.get? entries name with
      | none => (assign? key tree path []).map fun inner =>
          entries ++ [(name, .table .dotted inner)]
      | some (.table form inner) =>
          if form = .opened ∨ (path.isEmpty ∧ form ≠ .dotted) then none
          else (assign? key tree path inner).map fun inner =>
            Assoc.put name (.table form inner) entries
      | some (.tables earlier latest) =>
          if path.isEmpty then none
          else (assign? key tree path latest).map fun latest =>
            Assoc.put name (.tables earlier latest) entries
      | some (.value _) => none

/-- Changes the table at the end of a header's path. Tables on the way are made as needed,
and of tables under one name the latest is meant. -/
def descend? (change : Entries → Option Entries) : List String → Entries → Option Entries
  | [], entries => change entries
  | name :: path, entries =>
      match Assoc.get? entries name with
      | none => (descend? change path []).map fun inner =>
          entries ++ [(name, .table .implied inner)]
      | some (.table form inner) => (descend? change path inner).map fun inner =>
          Assoc.put name (.table form inner) entries
      | some (.tables earlier latest) => (descend? change path latest).map fun latest =>
          Assoc.put name (.tables earlier latest) entries
      | some (.value _) => none

/-- Opens a table and fills it. Only a table that headers implied so far may be opened; it
then moves behind the others. -/
def openTable? (key : String) (fill : Entries → Option Entries) (entries : Entries) :
    Option Entries :=
  match Assoc.get? entries key with
  | none => (fill []).map fun inner => entries ++ [(key, .table .opened inner)]
  | some (.table .implied inner) => (fill inner).map fun inner =>
      (entries.filter fun entry => entry.1 != key) ++ [(key, .table .opened inner)]
  | some _ => none

def addTable? (key : String) (fill : Entries → Option Entries) (entries : Entries) :
    Option Entries :=
  match Assoc.get? entries key with
  | none => (fill []).map fun inner => entries ++ [(key, .tables [] inner)]
  | some (.tables earlier latest) => (fill []).map fun inner =>
      Assoc.put key (.tables (earlier ++ [latest]) inner) entries
  | some _ => none

end Entries

end QueryGroup.Toml
