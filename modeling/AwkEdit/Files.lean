import AwkEdit.PathName

/-!
# Files

A file system as far as names of a command line lead into it: what is at each location, and the directory that relative names start
from. Locations are lists of parts below the root. Following a name takes the parts one by one and asks of each that it be
followed from a directory.
-/

namespace AwkEdit

/-- What is at a location. -/
inductive FileEntry where
  | file (bytes : List UInt8)
  | directory
  deriving DecidableEq, Repr

/-- The parts of the way from the root to a place. -/
abbrev Location := List String

/-- What is at the locations that anything is at, the latest first, and the working directory with the name it is shown by. -/
structure Files where
  here : Location
  hereName : String
  entries : List (Location × FileEntry)
  deriving Repr

/-- Why a name cannot be followed, or a directory not be made. -/
inductive MakeFault where
  | missing
  | taken
  | notDirectory
  | tooLong
  deriving DecidableEq, Repr

namespace Files

/-- What is at a location; the root is a directory. -/
def entry? (fs : Files) (l : Location) : Option FileEntry := if l = [] then some .directory else fs.entries.lookup l

/-- Whether there is a directory at a location. -/
def isDirectory (fs : Files) (l : Location) : Bool := fs.entry? l = some .directory

/-- The bytes of the file at a location, if there is one. -/
def bytes? (fs : Files) (l : Location) : Option (List UInt8) :=
  match fs.entry? l with
  | some (.file bytes) => some bytes
  | _ => none

/-- A file system after something was put at a location. -/
def put (fs : Files) (l : Location) (e : FileEntry) : Files := { fs with entries := (l, e) :: fs.entries }

/-- The location that a part leads to. -/
def step (l : Location) (part : String) : Location :=
  if part = "" ∨ part = "." then l else if part = ".." then l.dropLast else l ++ [part]

/-- The number of bytes that a part of a name has at most. -/
def longestPart : Nat := 255

/-- The number of bytes that a name has at most. -/
def longestName : Nat := 4095

/-- Follows parts from a location, each from a directory. -/
def follow (fs : Files) (l : Location) : List String → Except MakeFault Location
  | [] => .ok l
  | part :: parts =>
    match fs.entry? l with
    | none => .error .missing
    | some (.file _) => .error .notDirectory
    | some .directory => if longestPart < part.utf8ByteSize then .error .tooLong else fs.follow (step l part) parts

/-- The location that a name starts from. -/
def base (fs : Files) (name : String) : Location := if PathName.isAbsolute name then [] else fs.here

/-- The locations on the way along parts, the first one among them. -/
def way (l : Location) : List String → List Location
  | [] => [l]
  | part :: parts => l :: way (step l part) parts

/-- Follows a name as it is written. -/
def trace (fs : Files) (name : String) : Except MakeFault Location :=
  if name = "" then .error .missing
  else if longestName < name.utf8ByteSize then .error .tooLong
  else fs.follow (fs.base name) ((PathName.parts name.toList).map String.ofList)

/-- The location of a name as it is written. -/
def locate? (fs : Files) (name : String) : Option Location := (fs.trace name).toOption

/-- Whether a name cannot even be followed because it is too long. -/
def isTooLong (fs : Files) (name : String) : Bool :=
  match fs.trace name with
  | .error .tooLong => true
  | _ => false

/-- What a name as it is written leads to. -/
def find? (fs : Files) (name : String) : Option FileEntry := (fs.locate? name).bind fs.entry?

/-- The files that are new or hold other bytes than among earlier ones. -/
def changed (earlier fs : Files) : List (Location × List UInt8) :=
  (fs.entries.map (·.1)).eraseDups.filterMap fun l =>
    (fs.bytes? l).bind fun bytes => if earlier.bytes? l = some bytes then none else some (l, bytes)

/-- The bytes of the file that a name leads to. -/
def read? (fs : Files) (name : String) : Option (List UInt8) := (fs.locate? name).bind fs.bytes?

/-- Writes a file under a name, unless there is no directory for it or a directory at it. -/
def write? (fs : Files) (name : String) (bytes : List UInt8) : Option Files := do
  let l ← fs.locate? name
  if fs.isDirectory l || !fs.isDirectory l.dropLast then none else some (fs.put l (.file bytes))

/-- Makes one directory, the last of the parts. -/
def makeOne (fs : Files) (base : Location) (parts : List String) : Except MakeFault Files :=
  match parts.getLast? with
  | none => .error .taken
  | some last =>
    match fs.follow base parts.dropLast with
    | .error e => .error e
    | .ok above =>
      match fs.entry? above with
      | none => .error .missing
      | some (.file _) => .error .notDirectory
      | some .directory =>
        let l := step above last
        if longestPart < last.utf8ByteSize then .error .tooLong
        else if last = ".." ∨ (fs.entry? l).isSome then .error .taken else .ok (fs.put l .directory)

/-- The file system itself if the parts lead to a directory, or else a fault. -/
def ifDirectory (fs : Files) (base : Location) (parts : List String) (e : MakeFault) : Except MakeFault Files :=
  match fs.follow base parts with
  | .ok l => if fs.isDirectory l then .ok fs else .error e
  | .error _ => .error e

/-- Makes a directory, given by its parts from the last to the first, and the directories above it that are missing; one that is
there already is as good. -/
def makeAll (fs : Files) (base : Location) : List String → Except MakeFault Files
  | [] => fs.ifDirectory base [] .missing
  | last :: above =>
    let parts := (last :: above).reverse
    match fs.makeOne base parts with
    | .ok made => .ok made
    | .error .missing =>
      match makeAll fs base above with
      | .error e => .error e
      | .ok made =>
        match made.makeOne base parts with
        | .ok whole => .ok whole
        | .error e => made.ifDirectory base parts e
    | .error e => fs.ifDirectory base parts e

/-- Makes the directory of a name and those above it. -/
def makeDirectory (fs : Files) (name : String) : Except MakeFault Files :=
  fs.makeAll (fs.base name) (PathName.names name).reverse

/-- Makes the directory that the file of a name belongs into. -/
def makeParent (fs : Files) (name : String) : Except MakeFault Files :=
  fs.makeAll (fs.base name) (PathName.names name).dropLast.reverse

/-- Makes the directory at a location and those above it. -/
def makeLocation (fs : Files) (l : Location) : Except MakeFault Files := fs.makeAll [] l.reverse

end Files

end AwkEdit
