import TypedClient.Files.FilePath

/-!
# Files and directories

A file system holds what is at each place: a file with its content, a directory, or
nothing. `get?` is the one view of it, and `get?_set` says what a change does
to the view: it concerns one place and no other.

A path is followed name by name. Every name but the last has to be that of a
directory; `..` leads to the directory around the one reached so far, whatever the
spelling of the path before it.
-/

namespace TypedClient.Files

/-- The names that lead from the root to a place. -/
abbrev Place := List String

/-- What is at a place. -/
inductive Entry where
  /-- A file. -/
  | file (content : List UInt8)
  /-- A directory. -/
  | directory
  deriving DecidableEq, Repr

/-- The cause for which something cannot be done with a path. -/
inductive FileError where
  /-- There is nothing at the place. -/
  | missing
  /-- There is something at the place already. -/
  | present
  /-- Something other than a directory is on the way. -/
  | notDirectory
  /-- The place is that of a directory. -/
  | isDirectory
  /-- A name, or the whole path, is longer than it can be. -/
  | nameTooLong
  /-- A path has a character that no path can have. -/
  | nulInPath
  /-- There is no way to hold in memory what is at the place. -/
  | notMappable
  /-- A content is no text. -/
  | notText
  /-- Anything else, in the words of the system. -/
  | other (words : String)
  deriving DecidableEq, Repr

/-- The wording of a cause. -/
def FileError.message : FileError → String
  | .missing => "No such file or directory (os error 2)"
  | .present => "File exists (os error 17)"
  | .notDirectory => "Not a directory (os error 20)"
  | .isDirectory => "Is a directory (os error 21)"
  | .nameTooLong => "File name too long (os error 36)"
  | .nulInPath => "file name contained an unexpected NUL byte"
  | .notMappable => "No such device (os error 19)"
  | .notText => "stream did not contain valid UTF-8"
  | .other words => words

/-- The most bytes that a name can have. -/
def maxNameBytes : Nat := 255

/-- The most bytes that a path can have. -/
def maxPathBytes : Nat := 4095

/-- Files and directories. -/
structure FileSystem where
  /-- What there is, by place. -/
  entries : List (Place × Entry)
  /-- The directory from which relative paths are followed. -/
  workingDirectory : Place

namespace FileSystem

/-- What is at a place. The root is always a directory. -/
def get? (fs : FileSystem) (place : Place) : Option Entry :=
  if place = [] then some .directory
  else (fs.entries.find? fun e => e.1 = place).map Prod.snd

/-- The file system with another entry at a place. -/
def set (fs : FileSystem) (place : Place) (entry : Entry) : FileSystem :=
  { fs with entries := (place, entry) :: fs.entries.filter fun e => e.1 ≠ place }

/-- A change shows at its place, and nowhere else. -/
theorem get?_set (fs : FileSystem) {place : Place} (h : place ≠ []) (entry : Entry)
    (other : Place) :
    (fs.set place entry).get? other = if other = place then some entry else fs.get? other := by
  by_cases ho : other = place
  · subst ho
    simp [get?, set, h]
  · have hp : ¬ place = other := fun e => ho e.symm
    by_cases hr : other = []
    · simp [get?, hr, Ne.symm h]
    · simp only [get?, set, hr, ho, if_false, List.find?_cons, hp, decide_false]
      rw [List.find?_filter]
      congr 2
      funext e
      by_cases he : e.1 = other <;> simp [he, ho]

/-- A change leaves the working directory as it is. -/
@[simp] theorem workingDirectory_set (fs : FileSystem) (place : Place) (entry : Entry) :
    (fs.set place entry).workingDirectory = fs.workingDirectory := rfl

/-! ### Following a path -/

/-- The place that a name leads to from a directory. -/
def child (place : Place) (name : String) : Except FileError Place :=
  if name = "." then .ok place
  else if name = ".." then .ok place.dropLast
  else if name.utf8ByteSize > maxNameBytes then .error .nameTooLong
  else .ok (place ++ [name])

/-- The directory that a name leads to from a directory. -/
def enter (fs : FileSystem) (place : Place) (name : String) : Except FileError Place :=
  match child place name with
  | .error e => .error e
  | .ok next =>
    match fs.get? next with
    | none => .error .missing
    | some (.file _) => .error .notDirectory
    | some .directory => .ok next

/-- The directory that names lead to from a directory. -/
def enterAll (fs : FileSystem) (place : Place) : List String → Except FileError Place
  | [] => .ok place
  | name :: rest =>
    match fs.enter place name with
    | .error e => .error e
    | .ok next => fs.enterAll next rest

/-- The cause for which a path cannot be that of anything. -/
def refused? (p : FilePath) : Option FileError :=
  if p.text.toList.any fun c => c.toNat == 0 then some .nulInPath
  else if p.text = "" then some .missing
  else if p.text.utf8ByteSize > maxPathBytes then some .nameTooLong
  else none

/-- The directory in which the last name of a path is looked up. -/
def around (fs : FileSystem) (p : FilePath) : Except FileError Place :=
  match refused? p with
  | some e => .error e
  | none => fs.enterAll (if p.isAbsolute then [] else fs.workingDirectory) p.names.dropLast

/-- The place that the last name of a path leads to from the directory around it. -/
def last (p : FilePath) (place : Place) : Except FileError Place :=
  match p.names.getLast? with
  | none => .ok place
  | some name => child place name

/-- The place that a path leads to. There need not be anything at it. -/
def locate (fs : FileSystem) (p : FilePath) : Except FileError Place :=
  match fs.around p with
  | .error e => .error e
  | .ok place => last p place

/-- Whether a path leads to a directory. -/
def isDirectory (fs : FileSystem) (p : FilePath) : Bool :=
  match fs.locate p with
  | .error _ => false
  | .ok place => fs.get? place == some .directory

/-- The content of the file at a path. -/
def read (fs : FileSystem) (p : FilePath) : Except FileError (List UInt8) :=
  match fs.locate p with
  | .error e => .error e
  | .ok place =>
    match fs.get? place with
    | none => .error .missing
    | some .directory => .error .isDirectory
    | some (.file content) => if p.endsInSlash then .error .notDirectory else .ok content

/-! ### Changes -/

/-- The file system with a new directory at a path. -/
def makeDirectory (fs : FileSystem) (p : FilePath) : Except FileError FileSystem :=
  match fs.locate p with
  | .error e => .error e
  | .ok place =>
    match fs.get? place with
    | some _ => .error .present
    | none => .ok (fs.set place .directory)

/-- The file system with a file at a path, in place of the one that was there, if any. A path that
can only be that of a directory is refused before its last name is looked up. -/
def create (fs : FileSystem) (p : FilePath) (content : List UInt8) : Except FileError FileSystem :=
  match fs.around p with
  | .error e => .error e
  | .ok place =>
    if !p.endsInName then .error .isDirectory
    else
      match last p place with
      | .error e => .error e
      | .ok place =>
        if fs.get? place == some .directory then .error .isDirectory
        else .ok (fs.set place (.file content))

/-- The file system with a directory at the first of the paths, and the cause if there cannot be
one. Each path is followed by that of the directory around it; those that are missing are made
first, and stay even if the inner ones cannot be made. -/
def makeDirectories (fs : FileSystem) : List FilePath → FileSystem × Option FileError
  | [] => (fs, some .missing)
  | directory :: around =>
    if directory.text = "" then (fs, none)
    else
      let orPresent (fs : FileSystem) (e : FileError) :=
        (fs, if fs.isDirectory directory then none else some e)
      match fs.makeDirectory directory with
      | .ok made => (made, none)
      | .error .missing =>
        match fs.makeDirectories around with
        | (made, some e) => (made, some e)
        | (made, none) =>
          match made.makeDirectory directory with
          | .ok all => (all, none)
          | .error e => orPresent made e
      | .error e => orPresent fs e

/-- What could not be done when a file was to be stored. -/
inductive StoreError where
  /-- The directory for it could not be made. -/
  | directory (path : FilePath) (cause : FileError)
  /-- The file could not be created. -/
  | file (cause : FileError)
  deriving DecidableEq, Repr

/-- The file system with a file at a path and the directories around it, and what could not be
done. -/
def store (fs : FileSystem) (p : FilePath) (content : List UInt8) :
    FileSystem × Option StoreError :=
  let (made, refused) :=
    match p.parents with
    | [] => (fs, none)
    | directory :: around =>
      let (made, cause) := fs.makeDirectories (directory :: around)
      (made, cause.map (StoreError.directory directory))
  match refused with
  | some e => (made, some e)
  | none =>
    match made.create p content with
    | .ok stored => (stored, none)
    | .error cause => (made, some (.file cause))

/-- Nothing but a working directory and the directories around it. -/
def empty (workingDirectory : Place) : FileSystem :=
  ⟨(List.range (workingDirectory.length + 1)).map fun n => (workingDirectory.take n, .directory),
    workingDirectory⟩

/-- The file system with files at some paths. -/
def withFiles (fs : FileSystem) (files : List (FilePath × List UInt8)) : FileSystem :=
  files.foldl (fun fs (p, content) => (fs.store p content).1) fs

/-- What is in the working directory and was not there before, or was another: the path of each
from the working directory, which ends in a slash for a directory, with its content, by path. -/
def changedSince (fs before : FileSystem) : List (String × List UInt8) :=
  let changed := fs.entries.filterMap fun (place, entry) =>
    if fs.workingDirectory.isPrefixOf place && before.get? place != some entry then
      let path := "/".intercalate (place.drop fs.workingDirectory.length)
      match entry with
      | .file content => some (path, content)
      | .directory => some (path ++ "/", [])
    else none
  changed.mergeSort fun a b => a.1 ≤ b.1

end FileSystem

end TypedClient.Files
