import QueryGroup.Text.Parts
set_option autoImplicit false

namespace QueryGroup.Command

open Text

/-- What a path leads to. Where there is no text to read, the detail says why. -/
inductive Entry where
  | missing (detail : String)
  | unreadable (detail : String)
  | text (content : String)
deriving DecidableEq, Repr

/-- The two things that a command does with files. A write that fails says why. -/
structure Files (m : Type → Type) where
  look : String → m Entry
  write : String → String → m (Except String Unit)

inductive Content where
  | text (content : String)
  | binary
deriving DecidableEq, Repr

def absentDetail : String := "No such file or directory (os error 2)"

def directoryDetail : String := "Is a directory (os error 21)"

def Content.entry : Content → Entry
  | .text content => .text content
  | .binary => .unreadable "stream did not contain valid UTF-8"

abbrev Path := List String

/-- Files under a directory. The directories on the way to a file exist with it. -/
structure Directory where
  files : List (Path × Content)

/-- Where a path ends. A vacant place is a name in an existing directory. -/
inductive Place where
  | directory (path : Path)
  | file (path : Path) (content : Content)
  | vacant (path : Path)

def names (path : String) : List String := (partsAt '/' path.toList).map String.ofList

namespace Directory

def holds (directory : Directory) (path : Path) : Bool :=
  path.isEmpty || directory.files.any fun file => path.isPrefixOf file.1 && path != file.1

def place (directory : Directory) (path : Path) : Place :=
  match directory.files.find? fun file => file.1 == path with
  | some file => .file path file.2
  | none => if directory.holds path then .directory path else .vacant path

/-- One name further on the way. Only a directory leads on. -/
def next? (directory : Directory) : Place → String → Option Place
  | .directory path, name =>
      if name = "" ∨ name = "." then some (.directory path)
      else if name = ".." then if path.isEmpty then none else some (.directory path.dropLast)
      else some (directory.place (path ++ [name]))
  | _, _ => none

/-- Where the path ends, if it stays in the directory and its way exists. -/
def locate? (directory : Directory) (path : String) : Option Place :=
  if path.isEmpty ∨ path.toList.head? = some '/' then none
  else (names path).foldlM directory.next? (.directory [])

def look (directory : Directory) (path : String) : Entry :=
  match directory.locate? path with
  | some (.file _ content) => content.entry
  | some (.directory _) => .unreadable directoryDetail
  | _ => .missing absentDetail

/-- The directory with a file of that content at the path, in place of a former one. -/
def put (directory : Directory) (path : Path) (content : Content) : Directory :=
  ⟨directory.files.filter (fun file => file.1 != path) ++ [(path, content)]⟩

def write? (directory : Directory) (path content : String) : Except String Directory :=
  match directory.locate? path with
  | some (.file target _) | some (.vacant target) => .ok (directory.put target (.text content))
  | some (.directory _) => .error directoryDetail
  | none => .error absentDetail

def actions : Files (StateM Directory) where
  look path := return (← get).look path
  write path content := do
    match (← get).write? path content with
    | .ok changed =>
        set changed
        return .ok ()
    | .error detail => return .error detail

end Directory

end QueryGroup.Command
