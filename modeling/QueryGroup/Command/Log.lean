import QueryGroup.Audit
set_option autoImplicit false

namespace QueryGroup.Command

open Audit

/-- From the fewest records to the most. -/
inductive Level where
  | off
  | error
  | warn
  | info
  | debug
  | trace
deriving DecidableEq, Repr

/-- Where the records of a run go, whatever shows of them and in whatever form. -/
structure Log where
  /-- What a run has to tell of the log itself, ahead of all else. -/
  warnings : String := ""
  /-- What is written for a record of that level, target and message. -/
  record : Level → String → String → String

namespace Log

def audit (log : Log) (records : List Record) : String :=
  String.join (records.map fun record => log.record .debug record.stage record.message)

def document (log : Log) (queries fields : Nat) (path : String) : String :=
  log.record .info "querydef" ("wrote " ++ toString queries ++ " queries and " ++
    toString fields ++ " layout fields to " ++ path)

end Log

end QueryGroup.Command
