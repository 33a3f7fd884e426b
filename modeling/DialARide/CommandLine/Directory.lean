import DialARide.CommandLine.Run

/-!
# Directories in memory

A directory as the list of its files. Commands run on it as they do on a disk: a path is followed
step by step, each step but the last has to lead to a folder, and names and paths have a greatest
length. There are folders above the directory, and a root, but no files in them at first.
-/

namespace DialARide

/-- The files of a directory, each with the names of the steps that lead to it; of several entries
for the same steps the first counts. Steps upwards, or the step to the root, come first. -/
abbrev Directory := List (List String × String)

namespace Directory

/-! ## 1. Paths -/

/-- Bytes of the longest name. -/
def nameLimit : Nat := 255

/-- Bytes of a path that is too long. -/
def pathLimit : Nat := 4096

/-- The steps of a path. -/
def steps (path : String) : List String := (path.splitOn "/").filter (· ≠ "")

/-- The step to the root, which is written by the slash at the front of a path. -/
def root : String := "/"

/-- Whether a step stays in place or leads upwards. -/
def isDots (step : String) : Bool := step = "." || step = ".."

/-- The files of a directory, by path. -/
def ofFiles (files : List (String × String)) : Directory :=
  files.map fun (path, text) => ((steps path).filter (· ≠ "."), text)

/-- Whether a place is a folder: the directory itself, one above it, or one with files below. -/
def isFolder (directory : Directory) (place : List String) : Bool :=
  place.all (· = "..") || place = [root]
    || directory.any fun (file, _) => place.isPrefixOf file && place.length < file.length

/-- The folder above a folder; the root is above itself. -/
def above (folder : List String) : List String :=
  if folder = [root] then folder
  else if folder.all (· = "..") then folder ++ [".."]
  else folder.dropLast

/-- The folder that a step leads to. -/
def enter (directory : Directory) (folder : List String) (step : String) :
    Except FileFault (List String) :=
  let place := folder ++ [step]
  if step = "." then .ok folder
  else if step = ".." then .ok (above folder)
  else if nameLimit < step.utf8ByteSize then .error .nameTooLong
  else if directory.isFolder place then .ok place
  else if (directory.lookup place).isSome then .error .notFolder
  else .error .notFound

/-- Where a path ends. -/
inductive Target where
  /-- A folder, since the last step has no name. -/
  | folder
  /-- A name in a folder; `closed` says that a slash follows it, so that it has to be a folder. -/
  | name (folder : List String) (name : String) (closed : Bool)

/-- Follows a path up to its last step. -/
def target (directory : Directory) (path : String) : Except FileFault Target :=
  let start := if path.startsWith "/" then [root] else []
  if path.isEmpty then .error .notFound
  else if pathLimit ≤ path.utf8ByteSize then .error .nameTooLong
  else match (steps path).getLast? with
    | none => .ok .folder
    | some last => do
      let folder ← (steps path).dropLast.foldlM (enter directory) start
      return if isDots last then .folder else .name folder last (path.endsWith "/")

/-! ## 2. Files -/

/-- What is found under a path. -/
def find (directory : Directory) (path : String) : FileContent :=
  match directory.target path with
  | .error _ => .missing
  | .ok .folder => .unreadable
  | .ok (.name folder name closed) =>
    match directory.lookup (folder ++ [name]) with
    | some text => if closed then .missing else .text text
    | none => if directory.isFolder (folder ++ [name]) then .unreadable else .missing

/-- The directory with a file written. -/
def write (directory : Directory) (path text : String) : Except FileFault Directory := do
  match ← directory.target path with
  | .folder => throw .isFolder
  | .name folder name closed =>
    let place := folder ++ [name]
    if closed then throw .isFolder
    else if nameLimit < name.utf8ByteSize then throw .nameTooLong
    else if directory.isFolder place then throw .isFolder
    else return (place, text) :: directory

/-- Access to the files of a directory that is held as a state. -/
def fileSystem : FileSystem (StateM Directory) where
  read path := return (← get).find path
  write path text := do
    match (← get).write path text with
    | .ok directory =>
      set directory
      return none
    | .error fault => return some fault

end Directory

end DialARide
