import QueryGroup.Json.Value
set_option autoImplicit false

namespace QueryGroup

open Json

structure MenuEntry where
  displayName : String := ""
  substitutionText : String := ""
deriving DecidableEq, Repr, Inhabited

/-- A token of the query texts and the menu of texts that may stand in its place. -/
structure Substitution where
  token : String := ""
  description : String := ""
  multi : Bool := false
  entries : List MenuEntry := []
deriving DecidableEq, Repr, Inhabited

structure Server where
  columnExpressions : OrderedMap String := ∅
  queries : OrderedMap Value := ∅
deriving Inhabited

structure Client where
  textSubstitutions : List Substitution := []
deriving DecidableEq, Repr, Inhabited

structure Report where
  version : Option String := none
  server : Option Server := none
  client : Option Client := none
deriving Inhabited

namespace Report

/-- The column expressions, where there is a server part. -/
def columnExpressions? (report : Report) : Option (OrderedMap String) :=
  report.server.map Server.columnExpressions

def columnExpressions (report : Report) : OrderedMap String :=
  report.columnExpressions?.getD ∅

def queries (report : Report) : OrderedMap Value :=
  (report.server.map Server.queries).getD ∅

def substitutions (report : Report) : List Substitution :=
  (report.client.map Client.textSubstitutions).getD []

def isDefault (report : Report) : Bool :=
  report.version.isNone && report.server.isNone && report.client.isNone

theorem isDefault_iff (report : Report) : report.isDefault = true ↔ report = {} := by
  rcases report with ⟨_ | _, _ | _, _ | _⟩ <;> simp [isDefault]

/-- Every raw query part is a value whose objects repeat no name. -/
def Distinct (report : Report) : Prop :=
  ∀ query ∈ report.queries.entries, query.2.Distinct

end Report

end QueryGroup
