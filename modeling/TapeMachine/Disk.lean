import TapeMachine.Bytes

/-! A tree of files in memory, and why a file cannot be opened. -/

namespace TapeMachine

/-- Why a file operation failed. -/
inductive FileFault where
  /-- There is no file of that name. -/
  | missing
  /-- The name belongs to a directory. -/
  | isDirectory
  /-- A file is used as a directory. -/
  | notDirectory
  /-- The name cannot be the name of a file. -/
  | invalid
  /-- A part of the name is longer than any name of a file. -/
  | tooLong
  /-- The file may not be used. -/
  | denied
  deriving DecidableEq, Repr

/-- The wording of a file fault. -/
def FileFault.message : FileFault → String
  | missing => "no such file or directory"
  | isDirectory => "is a directory"
  | notDirectory => "not a directory"
  | invalid => "invalid argument"
  | tooLong => "file name too long"
  | denied => "permission denied"

/-- A failed file operation. -/
structure FileError where
  /-- What was tried. -/
  action : String
  /-- The path as it was given. -/
  path : Bytes
  /-- Why it failed. -/
  fault : FileFault
  deriving DecidableEq, Repr

/-- The wording of a file error. -/
def FileError.message (error : FileError) : Bytes :=
  utf8 (error.action ++ " ") ++ error.path ++ utf8 (": " ++ error.fault.message)

/-- The parts of a path from the top directory down. -/
abbrev Place := List Bytes

/-- What stands at a place: a file with its content, or a directory. -/
inductive DiskNode where
  /-- A file. -/
  | file (content : Bytes)
  /-- A directory. -/
  | directory
  deriving DecidableEq, Repr

/-- The files and directories below a top directory. -/
structure Disk where
  /-- Each place that is in use, with what stands there. -/
  nodes : List (Place × DiskNode)
  deriving DecidableEq, Repr

namespace Disk

/-- Only the top directory. -/
def empty : Disk := ⟨[]⟩

/-- What stands at a place. -/
def node? (disk : Disk) (place : Place) : Option DiskNode :=
  if place = [] then some .directory
  else (disk.nodes.find? fun (known, _) => known = place).map Prod.snd

/-- Puts something at a place, instead of what stood there. -/
def setNode (disk : Disk) (place : Place) (node : DiskNode) : Disk :=
  if (disk.node? place).isSome then
    ⟨disk.nodes.map fun (known, old) => (known, if known = place then node else old)⟩
  else ⟨disk.nodes ++ [(place, node)]⟩

/-- Adds the directories above and including a place. -/
def addDirectories (disk : Disk) (place : Place) : Disk :=
  (List.range place.length).foldl (fun disk depth =>
    let parent := place.take (depth + 1)
    if (disk.node? parent).isSome then disk else disk.setNode parent .directory) disk

/-- The longest name that a file can have. -/
def nameLimit : Nat := 255

/-- Steps from a directory to the part of a path named next. -/
def enter (disk : Disk) (place : Place) (part : Bytes) : Except FileFault Place :=
  if part = [] ∨ part = utf8 "." then .ok place
  else if part = utf8 ".." then if place = [] then .error .missing else .ok place.dropLast
  else if nameLimit < part.length then .error .tooLong
  else match disk.node? (place ++ [part]) with
  | none => .error .missing
  | some (.file _) => .error .notDirectory
  | some .directory => .ok (place ++ [part])

/-- The length that a path cannot reach. -/
def pathLimit : Nat := 4096

/-- The parts of a path, or why it cannot be one. -/
def parts (path : Bytes) : Except FileFault (List Bytes) :=
  if path = [] then .error .missing
  else if path.contains 0 then .error .invalid
  else if pathLimit ≤ path.length then .error .tooLong
  else if path.head? = some (ascii '/') then
    if path.all (· = ascii '/') then .error .isDirectory else .error .missing
  else .ok (path.splitOn (ascii '/'))

/-- The directory that a path leads to with all its parts but the last, and the last part. -/
def locate (disk : Disk) (path : Bytes) : Except FileFault (Place × Bytes) := do
  let parts ← parts path
  let directory ← parts.dropLast.foldlM disk.enter []
  return (directory, parts.getLastD [])

/-- Whether a last part names the directory itself or the one above it. -/
def isDirectoryPart (part : Bytes) : Bool := part = [] || part = utf8 "." || part = utf8 ".."

/-- The content of the file at a path. -/
def content (disk : Disk) (path : Bytes) : Except FileError Bytes :=
  match disk.locate path with
  | .error .isDirectory => .error ⟨"read", path, .isDirectory⟩
  | .error fault => .error ⟨"open", path, fault⟩
  | .ok (directory, part) =>
    if isDirectoryPart part then .error ⟨"read", path, .isDirectory⟩
    else if nameLimit < part.length then .error ⟨"open", path, .tooLong⟩
    else match disk.node? (directory ++ [part]) with
    | none => .error ⟨"open", path, .missing⟩
    | some .directory => .error ⟨"read", path, .isDirectory⟩
    | some (.file content) => .ok content

/-- A path without the slashes at its end, unless it has nothing else. -/
def trimSlashes (path : Bytes) : Bytes :=
  let trimmed := (path.reverse.dropWhile (· = ascii '/')).reverse
  if trimmed = [] then path else trimmed

/-- Makes an empty file at a path, instead of a file that stands there. A path with a slash at its
end always means a directory. -/
def createFile (disk : Disk) (path : Bytes) : Except FileError Disk :=
  match disk.locate (trimSlashes path) with
  | .error fault => .error ⟨"open", path, fault⟩
  | .ok (directory, part) =>
    if isDirectoryPart part || trimSlashes path ≠ path then .error ⟨"open", path, .isDirectory⟩
    else if nameLimit < part.length then .error ⟨"open", path, .tooLong⟩
    else match disk.node? (directory ++ [part]) with
    | some .directory => .error ⟨"open", path, .isDirectory⟩
    | _ => .ok (disk.setNode (directory ++ [part]) (.file []))

/-- Adds bytes at the end of the file at a path, if there is one. -/
def appendFile (disk : Disk) (path bytes : Bytes) : Disk :=
  match disk.locate path with
  | .error _ => disk
  | .ok (directory, part) =>
    match disk.node? (directory ++ [part]) with
    | some (.file content) => disk.setNode (directory ++ [part]) (.file (content ++ bytes))
    | _ => disk

/-- The name of a place: its parts with slashes between them. -/
def placeName (place : Place) : Bytes := joinWith [ascii '/'] place

/-- The files that are new or have another content than on an earlier disk. -/
def changedFiles (disk earlier : Disk) : List (Bytes × Bytes) :=
  disk.nodes.filterMap fun (place, node) =>
    match node with
    | .directory => none
    | .file content =>
      if earlier.node? place = some node then none else some (placeName place, content)

/-- Adds a directory, named with a slash at its end, or a file with its content. -/
def add (disk : Disk) (path content : Bytes) : Disk :=
  let parts := (path.splitOn (ascii '/')).filter (· ≠ [])
  if path.getLast? = some (ascii '/') then disk.addDirectories parts
  else (disk.addDirectories parts.dropLast).setNode parts (.file content)

end Disk

end TapeMachine
