import EtherRelay.Files.Path
/-!
# Files and folders

The files and folders that are known, each by the names that lead to it. The names start in the
working folder; those of a place outside of it start with a slash, which stands for the folder
that holds everything. A path is followed name by name; each name but the last must be that of a
folder. `FileTree.makeAll` makes a folder together with the folders that it lies in.

What the working folder lies in is not known. It is taken to have room for any file and any
folder, and no file there can be read.
-/

namespace EtherRelay

/-- Where a path leads. -/
inductive Place where
  /-- To what these names lead to. -/
  | known (names : List String)
  /-- To what the working folder lies in. -/
  | unknown
  deriving Repr, DecidableEq

/-- What stands at a path. -/
inductive Entry where
  /-- The file that these names lead to. -/
  | file (names : List String)
  | folder
  deriving Repr, DecidableEq

/-- The files and folders that are known. The working folder itself is not listed. -/
structure FileTree where
  files : List (List String) := []
  folders : List (List String) := []
  deriving Repr, DecidableEq

namespace FileTree

/-- The names in a path from where it starts. -/
def namesOf (path : String) : List String :=
  if Path.isAbsolute path then "/" :: Path.names path else Path.names path

/-- The folders that a file with these names lies in. -/
def foldersOf (names : List String) : List (List String) :=
  (List.range (names.length - 1)).map fun count => names.take (count + 1)

/-- These files, given by plain paths, and the folders that they lie in. -/
def ofFiles (paths : List String) : FileTree where
  files := paths.map namesOf
  folders := paths.flatMap fun path => foldersOf (namesOf path)

/-- What these names lead to. -/
def entry? (t : FileTree) (names : List String) : Option Entry :=
  if names ∈ t.folders then some .folder
  else if names ∈ t.files then some (.file names)
  else none

/-- The folder that the folder at these names lies in. -/
def outer (names : List String) : Place :=
  if names.isEmpty then .unknown
  else if names = ["/"] then .known names
  else .known names.dropLast

/-- Go on into a folder. -/
def enter (t : FileTree) (place : Place) (name : String) : Except PathError Place :=
  if Path.maxNameLength < name.utf8ByteSize then .error .tooLong
  else if name = "." then .ok place
  else match place with
    | .unknown => .ok .unknown
    | .known names =>
      if name = ".." then .ok (outer names)
      else match t.entry? (names ++ [name]) with
        | some .folder => .ok (.known (names ++ [name]))
        | some (.file _) => .error .throughFile
        | none => .error .missing

/-- The folder that a path leads to, and a last name in it that is not looked up. A path that
ends in dots has no such name. -/
def follow (t : FileTree) (path : String) : Except PathError (Place × Option String) := do
  Path.check path
  let names := Path.names path
  let start := .known (if Path.isAbsolute path then ["/"] else [])
  match names.getLast? with
  | none => pure (start, none)
  | some last =>
    let place ← names.dropLast.foldlM t.enter start
    if Path.isDots last then pure (← t.enter place last, none)
    else if Path.maxNameLength < last.utf8ByteSize then throw .tooLong
    else pure (place, some last)

/-- What stands at a path. -/
def find (t : FileTree) (path : String) : Except PathError Entry := do
  match ← t.follow path with
  | (_, none) => pure .folder
  | (.unknown, some _) => throw .missing
  | (.known names, some last) =>
    match t.entry? (names ++ [last]) with
    | none => throw .missing
    | some .folder => pure .folder
    | some (.file names) => if Path.endsInSlash path then throw .throughFile else pure (.file names)

/-- Whether there is a folder at a path. -/
def hasFolder (t : FileTree) (path : String) : Bool :=
  match t.find path with
  | .ok .folder => true
  | _ => false

/-- Make a folder. -/
def make (t : FileTree) (path : String) : Except PathError FileTree := do
  match ← t.follow path with
  | (_, none) => throw .taken
  | (.unknown, some _) => pure t
  | (.known names, some last) =>
    if (t.entry? (names ++ [last])).isSome then throw .taken
    else pure { t with folders := t.folders ++ [names ++ [last]] }

/-- Make a folder unless it is there. -/
def makeOrKeep (t : FileTree) (path : String) : Except PathError FileTree :=
  match t.make path with
  | .ok t => .ok t
  | .error e => if t.hasFolder path then .ok t else .error e

/-- Make the folders at several paths, each of which lies in the next one. One that is missing is
not made before the next one. -/
def makeChain (t : FileTree) : List String → Except PathError FileTree
  | [] => .ok t
  | path :: outer =>
    match t.makeOrKeep path with
    | .error .missing => do (← makeChain t outer).makeOrKeep path
    | result => result

/-- Make a folder and the folders that it lies in. -/
def makeAll (t : FileTree) (path : String) : Except PathError FileTree :=
  t.makeChain (path :: Path.ancestors path)

/-- Open a file for writing, which makes it if it is not there. -/
def create (t : FileTree) (path : String) : Except PathError FileTree := do
  match ← t.follow path with
  | (_, none) => throw .isFolder
  | (.unknown, some _) => pure t
  | (.known names, some last) =>
    match t.entry? (names ++ [last]) with
    | some .folder => throw .isFolder
    | some (.file _) => pure t
    | none => pure { t with files := t.files ++ [names ++ [last]] }

end FileTree

end EtherRelay
