import EtherRelay.Capture.Exporter
import EtherRelay.Files.Tree
/-!
# Capture files

Each interface is captured to a file named after it. In a file name every character that is
not an ASCII letter or digit becomes an underscore. Making a file empties one of the same
name, and two handles to one file each write at a position of their own.
-/

namespace EtherRelay.Capture

/-- The file name for an interface. -/
def fileName (interface : String) : String :=
  interface.map (fun c => if c.isAlphanum then c else '_') ++ ".pcapng"

/-- The files of a directory by name, in the order in which they were made. -/
structure Directory where
  files : List (String × Bytes) := []
  deriving Repr, DecidableEq

namespace Directory

/-- The content of a file. -/
def content? (d : Directory) (name : String) : Option Bytes :=
  (d.files.find? fun f => f.1 == name).map Prod.snd

/-- Replace the content of a file, or make it behind the others. -/
def insert (name : String) (content : Bytes) : List (String × Bytes) → List (String × Bytes)
  | [] => [(name, content)]
  | f :: rest =>
    if f.1 = name then (name, content) :: rest else f :: insert name content rest

/-- Make an empty file, or empty the one of this name. -/
def truncate (d : Directory) (name : String) : Directory := ⟨insert name [] d.files⟩

/-- Write over a file from a position on; a gap before it is filled with zeros. -/
def writeAt (d : Directory) (name : String) (position : Nat) (bytes : Bytes) : Directory :=
  let old := (d.content? name).getD []
  let front := old.take position ++ List.replicate (position - old.length) 0
  ⟨insert name (front ++ bytes ++ old.drop (position + bytes.length)) d.files⟩

end Directory

/-- A file that is open for writing, and the directory that holds it. -/
structure OpenFile where
  directory : Directory
  name : String
  position : Nat := 0
  deriving Repr, DecidableEq

instance : Device OpenFile where
  write f bytes := (.ok bytes.length, { f with
    directory := f.directory.writeAt f.name f.position bytes
    position := f.position + bytes.length })
  flush f := (.ok (), f)

/-- Run an exporter's file on a directory that others may have changed meanwhile. -/
def Exporter.inDirectory (e : Exporter OpenFile) (d : Directory) : Exporter OpenFile :=
  { e with writer := { e.writer with device := { e.writer.device with directory := d } } }

/-- The directory as an exporter leaves it. -/
def Exporter.directory (e : Exporter OpenFile) : Directory := e.writer.device.directory

/-- Why no exporter could be made. -/
inductive CaptureError where
  | openFailed (path : String) (why : PathError)
  deriving Repr, DecidableEq

namespace CaptureError

/-- The text shown when no exporter could be made. -/
def message : CaptureError → String
  | .openFailed path _ => s!"failed to open {path} for writing"

/-- The text of the failure behind it. -/
def cause : CaptureError → String
  | .openFailed _ why => why.message

end CaptureError

/-- A folder in which captures are made. -/
structure Folder where
  path : String
  /-- The working folder, in which the path of the folder starts. -/
  tree : FileTree := {}
  /-- The captures. -/
  directory : Directory := {}
  deriving Repr, DecidableEq

namespace Folder

/-- Make an exporter for an interface. -/
def createExporter (folder : Folder) (interface : String) :
    Except CaptureError (Exporter OpenFile) × Folder :=
  let name := fileName interface
  let path := Path.join folder.path name
  match folder.tree.create path with
  | .error e => (.error (.openFailed path e), folder)
  | .ok tree =>
    let exporter :=
      Exporter.create ({ directory := folder.directory.truncate name, name } : OpenFile)
    (.ok exporter, { folder with tree, directory := exporter.directory })

/-- Track a frame with one of the exporters of the folder. -/
def track (folder : Folder) (e : Exporter OpenFile) (ns : Nat) (frame : Bytes) :
    Exporter OpenFile × Folder :=
  let e := (e.inDirectory folder.directory).track ns frame
  (e, { folder with directory := e.directory })

/-- Flush one of the exporters of the folder. -/
def flush (folder : Folder) (e : Exporter OpenFile) :
    Except DeviceError Unit × Exporter OpenFile × Folder :=
  let (r, e) := (e.inDirectory folder.directory).flush
  (r, e, { folder with directory := e.directory })

/-- Close one of the exporters of the folder. -/
def close (folder : Folder) (e : Exporter OpenFile) : Folder :=
  { folder with directory := (e.inDirectory folder.directory).close.directory }

end Folder

end EtherRelay.Capture
