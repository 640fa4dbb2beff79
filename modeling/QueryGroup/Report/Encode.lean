import QueryGroup.Report.Basic
set_option autoImplicit false

namespace QueryGroup

open Json

def MenuEntry.toValue (entry : MenuEntry) : Value :=
  .object [("displayName", .string entry.displayName),
    ("substitutionText", .string entry.substitutionText)]

def Substitution.toValue (substitution : Substitution) : Value :=
  .object [("token", .string substitution.token),
    ("description", .string substitution.description),
    ("multi", .bool substitution.multi),
    ("substitutionElements", .array (substitution.entries.map MenuEntry.toValue))]

def Server.toValue (server : Server) : Value :=
  .object [
    ("columnExpressions",
      .object (server.columnExpressions.entries.map fun pair => (pair.1, .string pair.2))),
    ("queries", .object server.queries.entries)]

def Client.toValue (client : Client) : Value :=
  .object [("textSubstitutions", .array (client.textSubstitutions.map Substitution.toValue))]

def presentMember (name : String) : Option Value → List (String × Value)
  | some value => [(name, value)]
  | none => []

def Report.toValue (report : Report) : Value :=
  .object (presentMember "version" (report.version.map .string) ++
    presentMember "server" (report.server.map Server.toValue) ++
    presentMember "client" (report.client.map Client.toValue))

end QueryGroup
