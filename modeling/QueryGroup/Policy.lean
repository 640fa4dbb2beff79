set_option autoImplicit false

namespace QueryGroup

/-- What a positional query part with fewer than four elements means. -/
inductive PositionalPolicy where
  /-- Its missing slots are empty. -/
  | lenient
  /-- It is refused. -/
  | strict
deriving DecidableEq, Repr, Inhabited

namespace PositionalPolicy

def name : PositionalPolicy → String
  | .lenient => "lenient"
  | .strict => "strict"

def named : List (String × PositionalPolicy) := [lenient, strict].map fun policy =>
  (policy.name, policy)

end PositionalPolicy

/-- When the section of text substitutions is written. -/
inductive SubstitutionsPolicy where
  | omitWhenEmpty
  | always
deriving DecidableEq, Repr, Inhabited

namespace SubstitutionsPolicy

def name : SubstitutionsPolicy → String
  | .omitWhenEmpty => "omit_when_empty"
  | .always => "always"

def named : List (String × SubstitutionsPolicy) := [omitWhenEmpty, always].map fun policy =>
  (policy.name, policy)

end SubstitutionsPolicy

end QueryGroup
