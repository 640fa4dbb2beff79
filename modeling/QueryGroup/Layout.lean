import QueryGroup.Audit
import QueryGroup.Query.Part
import QueryGroup.Text.Letters
set_option autoImplicit false

namespace QueryGroup.Layout

open Query Text Audit

inductive Role where
  | key
  | data
deriving DecidableEq, Repr

def Role.name : Role → String
  | .key => "key"
  | .data => "data"

structure Field where
  name : String
  role : Role
deriving DecidableEq, Repr

namespace Field

def key (name : String) : Field := ⟨name, .key⟩

def data (name : String) : Field := ⟨name, .data⟩

def isData (field : Field) : Bool := field.role == .data

end Field

/-- Aliases that are metadata, whatever the case of their letters. -/
def metadataAliases : List String := ["uniqueKey", "govCorp"]

/-- The suffix of aliases that only help sorting, unless it is configured. -/
def defaultSortSuffix : String := "_SortField"

def isMetadata (name : String) : Bool :=
  metadataAliases.any fun metadata => sameLetters metadata name

/-- No alias is a sort helper by the empty suffix. -/
def isSortHelper (suffix name : String) : Bool :=
  !suffix.isEmpty && suffix.toList.isSuffixOf name.toList

def isLayoutAlias (suffix name : String) : Bool :=
  !(isMetadata name || isSortHelper suffix name)

def keyFields (suffix : String) (part : Part) : List Field :=
  (part.keys.filter fun key => isLayoutAlias suffix key.name).map fun key => .key key.name

def excludedKeys (suffix query : String) (part : Part) : List Record :=
  (part.keys.filter fun key => !isLayoutAlias suffix key.name).map fun key =>
    .excludedKey key.name query

def dataFields (expressions : OrderedMap String) : List Field := expressions.keys.map .data

/-- The layout of the queries, which only their first one shapes. -/
def project {ε : Type} (suffix : String) (queries : OrderedMap Part)
    (expressions : OrderedMap String) : Audited ε (List Field) :=
  match queries.first? with
  | some (query, part) =>
      .noted (excludedKeys suffix query part) (keyFields suffix part ++ dataFields expressions)
  | none => .ok (dataFields expressions)

end QueryGroup.Layout
