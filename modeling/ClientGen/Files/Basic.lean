import ClientGen.Files.Path

/-! # Files

A tree of files and directories as a value, with a working directory. Reading and writing follow
paths name by name, and the causes of failure are the usual ones.
-/

namespace ClientGen

/-- Why a file or directory cannot be used. -/
inductive FileError where
  | notFound | alreadyExists | notDirectory | isDirectory | nameTooLong
  | nullByte
  /-- The content of a file is no text. -/
  | notText
  deriving Repr, DecidableEq

def FileError.message : FileError → String
  | .notFound => "No such file or directory (os error 2)"
  | .alreadyExists => "File exists (os error 17)"
  | .notDirectory => "Not a directory (os error 20)"
  | .isDirectory => "Is a directory (os error 21)"
  | .nameTooLong => "File name too long (os error 36)"
  | .nullByte => "file name contained an unexpected NUL byte"
  | .notText => "stream did not contain valid UTF-8"

/-- What stands at a place. There are no links, and nothing that two places share. -/
inductive FileEntry where
  | file (content : ByteArray)
  | directory

instance : DecidableEq FileEntry
  | .file a, .file b =>
    if h : a.data = b.data then isTrue (congrArg FileEntry.file (ByteArray.ext h))
    else isFalse fun e => h (congrArg ByteArray.data (FileEntry.file.inj e))
  | .file _, .directory => isFalse nofun
  | .directory, .file _ => isFalse nofun
  | .directory, .directory => isTrue rfl

/-- A place in a tree: the names that lead there from the root. -/
abbrev Place := List String

/-- All files and directories by their places, the root left out. -/
structure Files where
  entries : List (Place × FileEntry) := []
  /-- The working directory. -/
  here : Place := []

namespace Files

def get? (files : Files) (place : Place) : Option FileEntry :=
  if place = [] then some .directory else files.entries.lookup place

/-- Put an entry at its place; what stands there is replaced. -/
def putEntry (place : Place) (entry : FileEntry) :
    List (Place × FileEntry) → List (Place × FileEntry)
  | [] => [(place, entry)]
  | (other, old) :: rest =>
    if place = other then (place, entry) :: rest
    else (other, old) :: putEntry place entry rest

def put (files : Files) (place : Place) (entry : FileEntry) : Files :=
  { files with entries := putEntry place entry files.entries }

/-- Bytes that a name and a path can have at most. -/
def maxNameBytes : Nat := 255

def maxPathBytes : Nat := 4095

/-- Follow a name from a directory. -/
def follow (files : Files) (place : Place) (name : String) : Except FileError Place :=
  match files.get? place with
  | none => .error .notFound
  | some (.file _) => .error .notDirectory
  | some .directory =>
    if name = ".." then .ok place.dropLast
    else if maxNameBytes < name.utf8ByteSize then .error .nameTooLong
    else .ok (place ++ [name])

/-- The place that a path leads to. Something has to stand at all places on the way, and a
    directory at the end if the path asks for one. -/
def locate (files : Files) (path : String) : Except FileError Place := do
  if path.toList.contains '\x00' then throw .nullByte
  if path = "" then throw .notFound
  if maxPathBytes < path.utf8ByteSize then throw .nameTooLong
  let start := if Path.isAbsolute path then [] else files.here
  let place ← (Path.names path).foldlM files.follow start
  match files.get? place with
  | some (.file _) => if Path.namesDirectory path then .error .notDirectory else .ok place
  | _ => .ok place

/-- What a path leads to. -/
def find? (files : Files) (path : String) : Option FileEntry :=
  match files.locate path with
  | .ok place => files.get? place
  | .error _ => none

def isFile (files : Files) (path : String) : Bool :=
  match files.find? path with
  | some (.file _) => true
  | _ => false

def isDirectory (files : Files) (path : String) : Bool :=
  files.find? path = some .directory

def read (files : Files) (path : String) : Except FileError ByteArray := do
  match files.get? (← files.locate path) with
  | none => .error .notFound
  | some .directory => .error .isDirectory
  | some (.file content) => .ok content

/-- The content of a text file. -/
def readText (files : Files) (path : String) : Except FileError String := do
  match String.fromUTF8? (← files.read path) with
  | some text => .ok text
  | none => .error .notText

/-- Create or replace a text file. -/
def write (files : Files) (path text : String) : Except FileError Files := do
  let place ← files.locate path
  match files.get? place with
  | some .directory => .error .isDirectory
  | _ => .ok (files.put place (.file text.toUTF8))

/-- Create a directory in one that exists. -/
def makeDirectory (files : Files) (path : String) : Except FileError Files := do
  let place ← files.locate path
  match files.get? place with
  | some _ => .error .alreadyExists
  | none => .ok (files.put place .directory)

/-- The directory that is already there, unless something else stands in its place. -/
def reuseDirectory (files : Files) (path : String) (error : FileError) :
    Option FileError × Files :=
  if error = .alreadyExists && files.isDirectory path then (none, files)
  else (some error, files)

/-- Create a directory and those that hold it, as far as they are missing. What has been created
    before a failure stays. -/
def makeDirectoriesFrom : Nat → String → Files → Option FileError × Files
  | 0, _, files => (none, files)
  | fuel + 1, path, files =>
    match path, Path.parent? path with
    | "", _ | _, none => (none, files)
    | path, some parent =>
      match files.makeDirectory path with
      | .ok files => (none, files)
      | .error .notFound =>
        match makeDirectoriesFrom fuel parent files with
        | (none, files) =>
          match files.makeDirectory path with
          | .ok files => (none, files)
          | .error error => files.reuseDirectory path error
        | failed => failed
      | .error error => files.reuseDirectory path error

def makeDirectories (files : Files) (path : String) : Option FileError × Files :=
  makeDirectoriesFrom (path.length + 1) path files

/-- What has been created or has got another content. -/
def changes (before after : Files) : List (Place × FileEntry) :=
  after.entries.filter fun (place, entry) => before.get? place ≠ some entry

end Files

end ClientGen
