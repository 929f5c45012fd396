import FormFill.Text.Half
import FormFill.Text.Split

namespace FormFill

/-- A way to a file, without empty parts and without `.`: from the working directory or, if it
    starts with one or two slashes, from the root. -/
structure Path where
  slashes : Nat
  parts : List String
deriving DecidableEq, Repr

namespace Path

def below (parts : List String) : Path := ⟨0, parts⟩

/-- The slashes that count at the start of a text: more than two are as good as one. -/
def slashesOf (text : List Char) : Nat :=
  let slashes := (text.takeWhile (· == '/')).length
  if slashes ≤ 2 then slashes else 1

def ofText (text : String) : Path :=
  { slashes := slashesOf text.toList
    parts := ((Text.splitOnChar '/' text.toList).map String.ofList).filter fun part =>
      part ≠ "" ∧ part ≠ "." }

def text (path : Path) : String :=
  if path.slashes = 0 ∧ path.parts = [] then "."
  else String.ofList (List.replicate path.slashes '/') ++ "/".intercalate path.parts

def parent (path : Path) : Path :=
  { path with parts := path.parts.dropLast }

/-- Whether a part holds the character that ends names and so cannot be in one. -/
def hasNul (path : Path) : Bool :=
  path.parts.any fun part => part.toList.contains '\x00'

end Path

/-- What stands at a place of a file tree. -/
inductive Occupant where
  | file (content : ByteArray)
  | folder
deriving Inhabited

/-- Files and folders, each at its place: the names from the working directory on. A place outside of
    it begins with `..` or with a slash. On a read-only system nothing can be created or written, and
    `halves` tells how the texts of these files keep halves of characters. -/
structure Files where
  occupants : List (List String × Occupant)
  readOnly : Bool := false
  halves : Text.Halves := .usual

/-- Why a file cannot be reached. -/
inductive FileCause where
  | notFound
  | occupied
  | notFolder
  | isFolder
  | nameTooLong
  | readOnly
deriving DecidableEq, Repr

def FileCause.message : FileCause → String
  | .notFound => "[Errno 2] No such file or directory"
  | .occupied => "[Errno 17] File exists"
  | .notFolder => "[Errno 20] Not a directory"
  | .isFolder => "[Errno 21] Is a directory"
  | .nameTooLong => "[Errno 36] File name too long"
  | .readOnly => "[Errno 30] Read-only file system"

structure FileFault where
  cause : FileCause
  path : Path
deriving DecidableEq, Repr

def FileFault.message (fault : FileFault) : String :=
  s!"{fault.cause.message}: {String.ofList (Text.quoted fault.path.text.toList)}"

namespace Files

def empty : Files := { occupants := [] }

/-- Places that are folders in any case: the working directory, those it lies in, and the root. -/
def isGiven (place : List String) : Bool :=
  place.all (· = "..") || place = ["/"]

def isOutside (place : List String) : Bool :=
  place.head? = some ".." || place.head? = some "/"

def at? (files : Files) (place : List String) : Option Occupant :=
  if isGiven place then some .folder else files.occupants.lookup place

/-- Puts something at a place, in place of what stood there. -/
def place (files : Files) (place : List String) (occupant : Occupant) : Files :=
  { files with occupants := files.occupants.filter (·.1 ≠ place) ++ [(place, occupant)] }

def remove (files : Files) (place : List String) : Files :=
  { files with occupants := files.occupants.filter (·.1 ≠ place) }

/-- The longest name and the longest path, in bytes. -/
def longestName : Nat := 255
def longestPath : Nat := 4095

/-- The place above another one; the root is above itself. -/
def above (place : List String) : List String :=
  match place.getLast? with
  | none | some ".." => place ++ [".."]
  | some "/" => place
  | some _ => place.dropLast

/-- The place one part further. -/
def enter (here : List String) (part : String) : Except FileCause (List String) :=
  if longestName < part.utf8ByteSize then .error .nameTooLong
  else .ok (if part = ".." then above here else here ++ [part])

/-- Walks from a folder along the parts of a path. All but the last must lead to folders, `..` leads
    back up. The result is the place that the path names. -/
def walk (files : Files) : List String → List String → Except FileCause (List String)
  | here, [] => .ok here
  | here, part :: rest => do
    let next ← enter here part
    match rest with
    | [] => .ok next
    | _ =>
      match files.at? next with
      | some .folder => walk files next rest
      | some (.file _) => .error .notFolder
      | none => .error .notFound

/-- The place that a path names. -/
def placeOf (files : Files) (path : Path) : Except FileCause (List String) :=
  if longestPath < path.text.utf8ByteSize then .error .nameTooLong
  else files.walk (if path.slashes = 0 then [] else ["/"]) path.parts

def faultAt {α : Type} (path : Path) (result : Except FileCause α) : Except FileFault α :=
  result.mapError (⟨·, path⟩)

/-- The bytes of a file. -/
def read (files : Files) (path : Path) : Except FileFault ByteArray :=
  faultAt path do
    match files.at? (← files.placeOf path) with
    | some (.file content) => .ok content
    | some .folder => .error .isFolder
    | none => .error .notFound

/-- Sets the bytes of a file, which is created if its folder exists. -/
def write (files : Files) (path : Path) (content : ByteArray) : Except FileFault Files :=
  faultAt path do
    let place ← files.placeOf path
    match files.at? place with
    | some .folder => .error .isFolder
    | _ => if files.readOnly then .error .readOnly else .ok (files.place place (.file content))

/-- Whether a path leads to anything. A path that is too long for an answer is a fault. -/
def holds (files : Files) (path : Path) : Except FileFault Bool :=
  match files.placeOf path with
  | .ok place => .ok (files.at? place).isSome
  | .error .nameTooLong => .error ⟨.nameTooLong, path⟩
  | .error _ => .ok false

def isFolder (files : Files) (path : Path) : Bool :=
  match files.placeOf path with
  | .ok place =>
    match files.at? place with
    | some .folder => true
    | _ => false
  | .error _ => false

/-- Creates one folder in an existing one. -/
def makeFolder (files : Files) (path : Path) : Except FileFault Files :=
  faultAt path do
    let place ← files.placeOf path
    match files.at? place with
    | some _ => .error .occupied
    | none => if files.readOnly then .error .readOnly else .ok (files.place place .folder)

/-- Creates one folder unless it exists already. -/
def ensureFolder (files : Files) (path : Path) : Except FileFault Files :=
  match files.makeFolder path with
  | .ok files => .ok files
  | .error fault => if files.isFolder path then .ok files else .error fault

/-- What a change makes of the files, which stay as they are if it fails, and why it fails. -/
def afterChange (files : Files) : Except FileFault Files → Files × Option FileFault
  | .ok files => (files, none)
  | .error fault => (files, some fault)

/-- Creates the folder whose parts are given from the last to the first, after those above it where
    they are missing. Folders that are created stay when a later one cannot be. -/
def ensureFoldersUp (files : Files) (slashes : Nat) : List String → Files × Option FileFault
  | [] => (files, none)
  | part :: above =>
    let path : Path := ⟨slashes, (part :: above).reverse⟩
    match files.makeFolder path with
    | .error ⟨.notFound, _⟩ =>
      match ensureFoldersUp files slashes above with
      | (files, none) => files.afterChange (files.ensureFolder path)
      | failed => failed
    | _ => files.afterChange (files.ensureFolder path)

/-- Creates a folder and all folders above it that are missing. -/
def ensureFolders (files : Files) (path : Path) : Files × Option FileFault :=
  files.ensureFoldersUp path.slashes path.parts.reverse

/-- The regular files below the working directory with their places. -/
def regular (files : Files) : List (List String × ByteArray) :=
  files.occupants.filterMap fun (place, occupant) =>
    match occupant with
    | .file content => if isOutside place then none else some (place, content)
    | .folder => none

end Files
end FormFill
