/-!
# Paths

A path names a file or a folder by the names that lead to it, with slashes between them. A name
that is one dot stays where it is, two dots lead up, and a slash more counts for nothing, except
that a path with one at its end can only name a folder. A path with a slash in front starts
in the folder that holds everything, and any other in the working folder.
-/

namespace EtherRelay

/-- Why a path could not be used. -/
inductive PathError where
  /-- Nothing has this name. -/
  | missing
  /-- Something has this name already. -/
  | taken
  /-- The path leads through a file. -/
  | throughFile
  /-- The path of a file is that of a folder. -/
  | isFolder
  /-- The path, or a name in it, is too long. -/
  | tooLong
  /-- The path holds the character zero. -/
  | zeroCharacter
  deriving Repr, DecidableEq

/-- The text shown for a failure. -/
def PathError.message : PathError → String
  | .missing => "No such file or directory (os error 2)"
  | .taken => "File exists (os error 17)"
  | .throughFile => "Not a directory (os error 20)"
  | .isFolder => "Is a directory (os error 21)"
  | .tooLong => "File name too long (os error 36)"
  | .zeroCharacter => "file name contained an unexpected NUL byte"

namespace Path

/-- The most bytes of a name. -/
def maxNameLength : Nat := 255

/-- The most bytes of a path. -/
def maxLength : Nat := 4095

/-- The names in a path. -/
def names (path : String) : List String :=
  ((path.toList.splitOn '/').filter fun name => !name.isEmpty).map String.ofList

/-- Whether a path starts in the folder that holds everything. -/
def isAbsolute (path : String) : Bool := path.toList.head? == some '/'

/-- Whether a path can only name a folder. -/
def endsInSlash (path : String) : Bool := path.toList.getLast? == some '/'

/-- Whether a name leads to where every folder leads. -/
def isDots (name : String) : Bool := name = "." ∨ name = ".."

/-- Refuse a path that is never looked up. -/
def check (path : String) : Except PathError Unit :=
  if path.toList.contains '\x00' then .error .zeroCharacter
  else if path = "" then .error .missing
  else if maxLength < path.utf8ByteSize then .error .tooLong
  else .ok ()

/-- The path of a file in a folder. -/
def join (folder name : String) : String :=
  if folder.isEmpty ∨ endsInSlash folder then folder ++ name else folder ++ "/" ++ name

/-- The paths of the folders that a folder lies in, the innermost first. -/
def ancestors (path : String) : List String :=
  let names := (names path).filter fun name => name ≠ "."
  let start := if isAbsolute path then "/" else ""
  ((List.range names.length).drop 1).reverse.map fun count =>
    start ++ "/".intercalate (names.take count)

end Path

end EtherRelay
