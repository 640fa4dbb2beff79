import QueryGroup.Command.Files
set_option autoImplicit false

/- File systems as a command meets them, and the directory tree as one of them. A write that
succeeds fills one file, new or old, and touches no other; every path that led to a file still
does. In a directory tree this comes from a single equation: a path leads to the same place after
a write, but for the file that was written. -/
namespace QueryGroup.Command

/-- The files in the states of a system, whatever they are. Many paths may lead to one file. -/
structure Storage (σ : Type) where
  File : Type
  Bytes : Type
  /-- A text as the bytes of a file. -/
  encode : String → Bytes
  /-- The file that a path leads to. -/
  locate? : σ → String → Option File
  /-- What a file holds, if it exists. -/
  held? : σ → File → Option Bytes

/-- Between the states the file at the path was filled with the text, and nothing else happened
to a file. -/
structure Storage.Written {σ : Type} (storage : Storage σ) (before : σ) (path text : String)
    (file : storage.File) (after : σ) : Prop where
  found : storage.locate? after path = some file
  filled : storage.held? after file = some (storage.encode text)
  frame : ∀ other, other ≠ file → storage.held? after other = storage.held? before other
  kept : ∀ {way other}, storage.locate? before way = some other →
    storage.locate? after way = some other

/-- Files that can be looked up and written. A write fails without a trace, or it fills one
file. -/
structure FileSystem (σ : Type) extends Storage σ where
  look : σ → String → Entry
  write? : σ → String → String → Except String σ
  written_of_write? : ∀ {before path text after}, write? before path text = .ok after →
    ∃ file, toStorage.Written before path text file after

namespace FileSystem

variable {σ : Type} (system : FileSystem σ)

/-- The file actions on a system. -/
def actions : Files (StateM σ) where
  look path := return system.look (← get) path
  write path text := do
    match system.write? (← get) path text with
    | .ok changed =>
        set changed
        return .ok ()
    | .error detail => return .error detail

variable (state : σ)

theorem run_look_bind {α : Type} (path : String) (next : Entry → StateM σ α) :
    (system.actions.look path >>= next).run state = (next (system.look state path)).run state :=
  rfl

theorem run_write_bind {α : Type} (path text : String) (next : Except String Unit → StateM σ α) :
    (system.actions.write path text >>= next).run state =
      match system.write? state path text with
      | .ok after => (next (.ok ())).run after
      | .error detail => (next (.error detail)).run state := by
  simp only [actions, StateT.run, bind, StateT.bind, get, getThe, MonadStateOf.get, StateT.get,
    pure]
  cases system.write? state path text <;> rfl

end FileSystem

namespace Place

/-- The file that is there. -/
def file? : Place → Option Path
  | .file path _ => some path
  | _ => none

/-- Where a file may be put. -/
def target? : Place → Option Path
  | .file path _ | .vacant path => some path
  | .directory _ => none

/-- The place after a file was put at the target. -/
def written (target : Path) (content : Content) : Place → Place
  | .directory path => .directory path
  | .file path old => if path = target then .file target content else .file path old
  | .vacant path => if path = target then .file target content else .vacant path

theorem written_of_target? {place : Place} {target : Path} (free : place.target? = some target)
    (content : Content) : place.written target content = .file target content := by
  cases place with
  | directory path => cases free
  | file path old =>
      cases free
      exact if_pos rfl
  | vacant path =>
      cases free
      exact if_pos rfl

theorem written_of_ne {place : Place} {target : Path} (other : place.target? ≠ some target)
    (content : Content) : place.written target content = place := by
  cases place with
  | directory path => rfl
  | file path old => exact if_neg fun same => other (congrArg some same)
  | vacant path => exact if_neg fun same => other (congrArg some same)

theorem file?_written {place : Place} {path : Path} (found : place.file? = some path)
    (target : Path) (content : Content) :
    (place.written target content).file? = some path := by
  by_cases free : place.target? = some target
  · rw [written_of_target? free]
    cases place with
    | file path old => exact free.symm.trans found
    | directory path => cases found
    | vacant path => cases found
  · rw [written_of_ne free, found]

end Place

namespace Directory

variable {directory : Directory} {path target : Path}

/-- What the file at a path holds. -/
def held? (directory : Directory) (path : Path) : Option Content :=
  (directory.files.find? fun file => file.1 == path).map Prod.snd

theorem place_eq (directory : Directory) (path : Path) :
    directory.place path =
      match directory.held? path with
      | some content => .file path content
      | none => if directory.holds path then .directory path else .vacant path := by
  unfold place held?
  cases directory.files.find? fun file => file.1 == path <;> rfl

theorem holds_of_place {other : Path} (found : directory.place path = .directory other) :
    directory.holds other = true := by
  rw [place_eq] at found
  split at found
  · cases found
  · split at found
    · next held =>
      cases found
      exact held
    · cases found

theorem target?_place_eq_some {other : Path}
    (free : (directory.place path).target? = some other) : other = path := by
  rw [place_eq] at free
  split at free
  · exact (Option.some.inj free).symm
  · split at free
    · cases free
    · exact (Option.some.inj free).symm

theorem holds_iff :
    directory.holds path = true ↔
      path = [] ∨ ∃ file ∈ directory.files, path <+: file.1 ∧ path ≠ file.1 := by
  simp [holds]

theorem holds_of_isPrefix {front : Path} (held : directory.holds path = true)
    (ahead : front <+: path) : directory.holds front = true := by
  rw [holds_iff] at held ⊢
  rcases held with rfl | ⟨file, member, below, other⟩
  · exact .inl (List.prefix_nil.1 ahead)
  · refine .inr ⟨file, member, ahead.trans below, ?_⟩
    rintro rfl
    exact other (below.eq_of_length_le ahead.length_le)

/-- A file that is put somewhere is there, and every other is as it was. -/
theorem held?_put (directory : Directory) (target path : Path) (content : Content) :
    (directory.put target content).held? path =
      if path = target then some content else directory.held? path := by
  have earlier : ((directory.files.filter fun file => file.1 != target).find?
        fun file => file.1 == path) =
      if path = target then none else directory.files.find? fun file => file.1 == path := by
    rw [List.find?_filter]
    split
    · next same => simp [same]
    · next other =>
      congr 1
      funext file
      by_cases found : file.1 = path <;> simp [found, other]
  rw [held?, put, List.find?_append, earlier]
  split
  · next same => simp [same]
  · next other => simp [held?, Ne.symm other]

/-- Where the way to a file exists already, no directory comes or goes with the file. -/
theorem holds_put (way : ∀ {front : Path}, front <+: target → front ≠ target →
      directory.holds front = true) (content : Content) (path : Path) :
    (directory.put target content).holds path = directory.holds path := by
  rw [Bool.eq_iff_iff]
  constructor
  · intro held
    rcases holds_iff.1 held with rfl | ⟨file, member, below, other⟩
    · exact holds_iff.2 (.inl rfl)
    · rcases List.mem_append.1 member with old | new
      · exact holds_iff.2 (.inr ⟨file, (List.mem_filter.1 old).1, below, other⟩)
      · cases List.mem_singleton.1 new
        exact way below other
  · intro held
    rcases holds_iff.1 held with rfl | ⟨file, member, below, other⟩
    · exact holds_iff.2 (.inl rfl)
    · by_cases same : file.1 = target
      · subst same
        exact holds_iff.2 (.inr ⟨(file.1, content), by simp [put], below, other⟩)
      · exact holds_iff.2 (.inr ⟨file, by simp [put, member, same], below, other⟩)

/-- Where a path may end: at a directory, or at a name in one. -/
inductive Reached (directory : Directory) : Place → Prop
  | directory {path : Path} (held : directory.holds path = true) :
      Reached directory (.directory path)
  | inside {path : Path} (held : directory.holds path = true) (name : String) :
      Reached directory (directory.place (path ++ [name]))

theorem Reached.holds {path : Path} (reached : directory.Reached (.directory path)) :
    directory.holds path = true := by
  generalize there : Place.directory path = place at reached
  cases reached with
  | directory held =>
      cases there
      exact held
  | inside held name => exact holds_of_place there.symm

/-- One name further on the way. -/
theorem Reached.next? {place next : Place} (reached : directory.Reached place) {name : String}
    (found : directory.next? place name = some next) : directory.Reached next := by
  cases place with
  | directory path =>
      have held := reached.holds
      simp only [Directory.next?] at found
      split at found
      · cases found
        exact .directory held
      · split at found
        · split at found
          · cases found
          · cases found
            exact .directory (holds_of_isPrefix held (List.dropLast_prefix path))
        · cases found
          exact .inside held name
  | file path content => cases found
  | vacant path => cases found

theorem Reached.foldlM_next? {place last : Place} (reached : directory.Reached place)
    {names : List String} (found : names.foldlM directory.next? place = some last) :
    directory.Reached last := by
  induction names generalizing place with
  | nil =>
      cases found
      exact reached
  | cons name rest ih =>
      rw [List.foldlM_cons, Option.bind_eq_bind, Option.bind_eq_some_iff] at found
      obtain ⟨next, step, later⟩ := found
      exact ih (reached.next? step) later

theorem reached_of_locate? {path : String} {place : Place}
    (found : directory.locate? path = some place) : directory.Reached place := by
  unfold locate? at found
  split at found
  · cases found
  · exact (Reached.directory (by simp [holds])).foldlM_next? found

/-- Where a file may be put, directories lead there, and there is none. -/
structure Writable (directory : Directory) (target : Path) : Prop where
  way : ∀ {front : Path}, front <+: target → front ≠ target → directory.holds front = true
  free : (directory.place target).target? = some target

theorem Reached.writable {place : Place} (reached : directory.Reached place) {target : Path}
    (free : place.target? = some target) : directory.Writable target := by
  cases reached with
  | directory held => cases free
  | @inside path held name =>
      obtain rfl := target?_place_eq_some free
      refine ⟨?_, free⟩
      intro front ahead other
      exact holds_of_isPrefix held ((List.prefix_concat_iff.1 ahead).resolve_left other)

namespace Writable

theorem place_put (writable : directory.Writable target) (content : Content) (path : Path) :
    (directory.put target content).place path =
      (directory.place path).written target content := by
  by_cases same : path = target
  · subst same
    rw [Place.written_of_target? writable.free, place_eq, held?_put, if_pos rfl]
  · have other : (directory.place path).target? ≠ some target :=
      fun free => same (target?_place_eq_some free).symm
    rw [Place.written_of_ne other, place_eq, place_eq, held?_put, if_neg same,
      holds_put writable.way]

theorem next?_put (writable : directory.Writable target) (content : Content) (place : Place)
    (name : String) :
    (directory.put target content).next? (place.written target content) name =
      (directory.next? place name).map (Place.written target content) := by
  cases place with
  | directory path =>
      simp only [Place.written, Directory.next?, writable.place_put]
      split
      · rfl
      · split
        · split <;> rfl
        · rfl
  | file path old =>
      simp only [Place.written]
      split <;> rfl
  | vacant path =>
      simp only [Place.written]
      split <;> rfl

theorem foldlM_next?_put (writable : directory.Writable target) (content : Content)
    (names : List String) (place : Place) :
    names.foldlM (directory.put target content).next? (place.written target content) =
      (names.foldlM directory.next? place).map (Place.written target content) := by
  induction names generalizing place with
  | nil => rfl
  | cons name rest ih =>
      rw [List.foldlM_cons, List.foldlM_cons, writable.next?_put]
      cases directory.next? place name with
      | none => rfl
      | some next => exact ih next

/-- Every path leads to where it led, but for the file that was put. -/
theorem locate?_put (writable : directory.Writable target) (content : Content) (path : String) :
    (directory.put target content).locate? path =
      (directory.locate? path).map (Place.written target content) := by
  unfold locate?
  split
  · rfl
  · exact writable.foldlM_next?_put content (names path) (.directory [])

end Writable

theorem write?_eq_ok_iff {path text : String} {after : Directory} :
    directory.write? path text = .ok after ↔
      ∃ place target, directory.locate? path = some place ∧ place.target? = some target ∧
        after = directory.put target (.text text) := by
  unfold write?
  rcases directory.locate? path with _ | place | ⟨place, old⟩ | place <;>
    simp [Place.target?, eq_comm]

/-- The files of a directory tree are told apart by their paths. -/
def storage : Storage Directory where
  File := Path
  Bytes := Content
  encode := .text
  locate? directory path := (directory.locate? path).bind Place.file?
  held? := held?

theorem storage_written {before after : Directory} {path text : String}
    (wrote : before.write? path text = .ok after) :
    ∃ file, storage.Written before path text file after := by
  obtain ⟨place, target, found, free, rfl⟩ := write?_eq_ok_iff.1 wrote
  have writable := (reached_of_locate? found).writable free
  have moved := writable.locate?_put (.text text)
  refine ⟨target, ?_, ?_, ?_, ?_⟩
  · simp [storage, moved, found, Place.written_of_target? free, Place.file?]
  · exact (held?_put before target target (.text text)).trans (if_pos rfl)
  · intro other different
    exact (held?_put before target other (.text text)).trans (if_neg different)
  · intro way other led
    obtain ⟨last, reaches, file⟩ := Option.bind_eq_some_iff.1 led
    simp [storage, moved, reaches, Place.file?_written file]

/-- A directory tree is a file system. -/
def system : FileSystem Directory where
  toStorage := storage
  look := look
  write? := write?
  written_of_write? := storage_written

theorem actions_system : system.actions = actions := by
  have write : system.actions.write = actions.write := by
    funext path text directory
    have wrote : system.write? directory path text = directory.write? path text := rfl
    simp only [FileSystem.actions, actions, bind, StateT.bind, get, getThe, MonadStateOf.get,
      StateT.get, pure, wrote]
    cases directory.write? path text <;> rfl
  exact congrArg (Files.mk actions.look) write

end Directory

end QueryGroup.Command
