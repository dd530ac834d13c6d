import ArrivalRamp.Files.Fault
import ArrivalRamp.Ledger
import ArrivalRamp.Text.Split

/-!
Files in memory, below one directory.
-/

namespace ArrivalRamp

/-- The names that lead from the top directory to a file or a directory. -/
abbrev Location := List String

/-- Texts of files and directories without files, by their locations. Every directory on the way to
one of them exists too. -/
structure Files where
  texts : List (Location × String)
  directories : List Location
  deriving DecidableEq, Repr

/-- What stands at a location. -/
inductive FileKind where
  | nothing
  | directory
  | file (text : String)
  deriving DecidableEq, Repr

namespace Files

/-- No files. -/
def empty : Files := ⟨[], []⟩

/-- A directory stands at a location. -/
def hasDirectory (files : Files) (location : Location) : Bool :=
  location.isEmpty || files.directories.any (location.isPrefixOf ·) ||
    files.texts.any fun entry => location.isPrefixOf entry.1 && location != entry.1

/-- What stands at a location. -/
def kindAt (files : Files) (location : Location) : FileKind :=
  match files.texts.lookup location with
  | some text => .file text
  | none => if files.hasDirectory location then .directory else .nothing

/-- The names in a path, in which double slashes, and one at the end, leave empty names. -/
def pathNames (path : String) : List String :=
  (Text.split '/' path.toList).map String.ofList

/-- The names in a path that starts at the top directory. The empty path leads nowhere, and all else
that starts with a slash lies outside. -/
def relativeNames? (path : String) : Option (List String) :=
  if path.isEmpty || path.startsWith "/" then none else some (pathNames path)

/-- The location that names lead to from a directory. -/
def walk (files : Files) (location : Location) : List String → Except FileFault Location
  | [] => .ok location
  | name :: names =>
    match files.kindAt location with
    | .nothing => .error .missing
    | .file _ => .error .notDirectory
    | .directory =>
      if name.isEmpty || name = "." then files.walk location names
      else if name = ".." then
        if location.isEmpty then .error .missing else files.walk location.dropLast names
      else files.walk (location ++ [name]) names

/-- The location that a path leads to. -/
def locate (files : Files) (path : String) : Except FileFault Location :=
  match relativeNames? path with
  | some names => files.walk [] names
  | none => .error .missing

/-- The text of the file at a path. -/
def read (files : Files) (path : String) : Except FileFault String := do
  match files.kindAt (← files.locate path) with
  | .file text => return text
  | .directory => throw .isDirectory
  | .nothing => throw .missing

/-- Something stands at a path. -/
def isPresent (files : Files) (path : String) : Bool :=
  match files.locate path with
  | .ok location => files.kindAt location ≠ .nothing
  | .error _ => false

/-- A file is written anew, in a directory that exists. A path that ends in a slash, or in a name
that leads back to a directory, names no file. -/
def write (files : Files) (path text : String) : Except FileFault Files := do
  let names := (relativeNames? path).getD []
  let named := (names.reverse.dropWhile String.isEmpty).reverse
  let directory ← files.walk [] named.dropLast
  match named.getLast?, files.kindAt directory with
  | none, _ => throw .missing
  | _, .nothing => throw .missing
  | _, .file _ => throw .notDirectory
  | some name, .directory =>
    if named.length < names.length || name = "." || name = ".." then throw .isDirectory
    else
      let location := directory ++ [name]
      match files.kindAt location with
      | .directory => throw .isDirectory
      | _ =>
        return { files with
          texts := (location, text) :: files.texts.filter fun entry => entry.1 != location }

/-- The directories on a way exist from now on. -/
def makeWay (files : Files) (location : Location) : List String → Except FileFault Files
  | [] => .ok files
  | name :: names =>
    if name.isEmpty || name = "." then files.makeWay location names
    else if name = ".." then files.makeWay location.dropLast names
    else
      let next := location ++ [name]
      match files.kindAt next with
      | .directory => files.makeWay next names
      | .nothing => { files with directories := next :: files.directories }.makeWay next names
      | .file _ => .error (if names.isEmpty then .taken else .notDirectory)

/-- The directory at a path, and all on the way to it, exist from now on. -/
def makeDirectories (files : Files) (path : String) : Except FileFault Files :=
  match relativeNames? path with
  | some names => files.makeWay [] names
  | none => .error .denied

end Files

end ArrivalRamp
