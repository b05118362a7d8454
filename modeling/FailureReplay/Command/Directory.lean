import FailureReplay.Command.Path

/-!
# Directories in memory

A working directory with its files and folders, and how reading and writing a
path can fail there. A path may also lead outside. There stand folders, each with
a parent, and the null device; nothing else is found there, and what is written
there leaves no trace in the working directory.
-/

namespace FailureReplay

inductive FileFault where
  | noSuchFile
  | isDirectory
  | notDirectory
  | nameTooLong
  | nulInName
  | notText
  | other (message : Text)
  deriving DecidableEq, Repr

def FileFault.message : FileFault → Text
  | .noSuchFile => "No such file or directory (os error 2)".toList
  | .isDirectory => "Is a directory (os error 21)".toList
  | .notDirectory => "Not a directory (os error 20)".toList
  | .nameTooLong => "File name too long (os error 36)".toList
  | .nulInName => "file name contained an unexpected NUL byte".toList
  | .notText => "stream did not contain valid UTF-8".toList
  | .other message => message

/-- A file with its content, or a folder. -/
inductive Entry where
  | file (content : ByteArray)
  | folder

/-- A working directory: what stands at each place, given by the names that lead to it. -/
structure Directory where
  entries : List (List Text × Entry) := []

namespace Directory

/-- What stands at a place; the working directory itself is a folder. -/
def entry? (d : Directory) (place : List Text) : Option Entry :=
  if place.isEmpty then some .folder else d.entries.lookup place

def set (d : Directory) (place : List Text) (entry : Entry) : Directory :=
  if (d.entry? place).isSome then
    { entries := d.entries.map fun (at_, old) => if at_ = place then (at_, entry) else (at_, old) }
  else { entries := d.entries ++ [(place, entry)] }

inductive Folder where
  /-- In the working directory, or that directory itself. -/
  | inside (place : List Text)
  /-- Anywhere else. -/
  | outside

def Folder.parent : Folder → Folder
  | .inside place => if place.isEmpty then .outside else .inside place.dropLast
  | .outside => .outside

/-- The place of a name in a folder, if it is in the working directory. -/
def Folder.child? (name : Text) : Folder → Option (List Text)
  | .inside place => some (place ++ [name])
  | .outside => none

/-- What stands in a folder under a name, which has at most 255 bytes. -/
def find (d : Directory) (folder : Folder) (name : Text) : Except FileFault (Option Entry) :=
  if 255 < Text.byteSize name then .error .nameTooLong
  else .ok ((folder.child? name).bind d.entry?)

/-- Follow names from a folder through folders. -/
def walk (d : Directory) (folder : Folder) : List Text → Except FileFault Folder
  | [] => .ok folder
  | name :: rest =>
    if name.isEmpty || name = ['.'] then walk d folder rest
    else if name = ['.', '.'] then walk d folder.parent rest
    else
      match d.find folder name, folder.child? name with
      | .error fault, _ => .error fault
      | .ok (some (.file _)), _ => .error .notDirectory
      | .ok (some .folder), some place => walk d (.inside place) rest
      | .ok _, _ => .error .noSuchFile

/-- The folder where a path starts. -/
def start (path : Text) : Folder := if path.head? = some '/' then .outside else .inside []

/-- The names of a path of at most 4095 bytes, the last one apart. -/
def split (path : Text) : Except FileFault (List Text × Text) :=
  if path.any fun c => c.toNat = 0 then .error .nulInName
  else if 4095 < Text.byteSize path then .error .nameTooLong
  else
    match path, (path.splitOn '/').getLast? with
    | [], _ | _, none => .error .noSuchFile
    | _, some last => .ok ((path.splitOn '/').dropLast, last)

/-- A name that leads to no new place. -/
def isDots (name : Text) : Bool := name = ['.'] || name = ['.', '.']

/-- The path of the device that is empty and takes everything. -/
def isNullDevice (path : Text) : Bool := path = "/dev/null".toList

def read (d : Directory) (path : Text) : Except FileFault ByteArray := do
  if isNullDevice path then return ByteArray.empty
  let (parents, last) ← split path
  if last.isEmpty || isDots last then
    let _ ← d.walk (start path) (parents ++ [last])
    .error .isDirectory
  else
    let folder ← d.walk (start path) parents
    match ← d.find folder last with
    | none => .error .noSuchFile
    | some .folder => .error .isDirectory
    | some (.file content) => .ok content

/-- Drop the empty names that separators at the end of a path leave. -/
def dropEmpty (parents : List Text) : List Text := (parents.reverse.dropWhile List.isEmpty).reverse

/-- The directory after a file was created or replaced. -/
def write (d : Directory) (path : Text) (content : ByteArray) : Except FileFault Directory := do
  if isNullDevice path then return d
  let (parents, last) ← split path
  if last.isEmpty then
    let _ ← d.walk (start path) (dropEmpty parents).dropLast
    .error .isDirectory
  else
    let folder ← d.walk (start path) parents
    if isDots last then .error .isDirectory
    else
      match ← d.find folder last, folder.child? last with
      | some .folder, _ => .error .isDirectory
      | _, some place => .ok (d.set place (.file content))
      | _, none => .ok d

/-- Add the folders that lead to a place, and the place itself. -/
def addFolders (d : Directory) (place : List Text) : List Text → Directory
  | [] => d
  | name :: rest =>
    let here := place ++ [name]
    addFolders (if (d.entry? here).isSome then d else d.set here .folder) here rest

/-- Add an empty folder with all folders that lead to it. -/
def addFolder (d : Directory) (path : Text) : Directory := d.addFolders [] (Path.names path)

def addFile (d : Directory) (path : Text) (content : ByteArray) : Directory :=
  (d.addFolders [] (Path.names path).dropLast).set (Path.names path) (.file content)

def holds (d : Directory) (place : List Text) (content : ByteArray) : Bool :=
  match d.entry? place with
  | some (.file old) => old.data.toList = content.data.toList
  | _ => false

/-- The files that are not in `before` with the same content. -/
def changesSince (d before : Directory) : List (Text × ByteArray) :=
  d.entries.filterMap fun (place, entry) =>
    match entry with
    | .folder => none
    | .file content =>
      if before.holds place content then none else some (Text.join "/" place, content)

end Directory
end FailureReplay
