/-!
# Path names

A path name in normal form has no empty parts, no parts that are a single dot, and no slash at its end. Two slashes at its front are
kept and more are one. Parts that are two dots stay, since they mean what the file system says.
-/

namespace AwkEdit.PathName

/-- The parts of a text between slashes. -/
def parts : List Char → List (List Char)
  | [] => [[]]
  | c :: rest =>
    match parts rest with
    | [] => [[c]]
    | first :: others => if c = '/' then [] :: first :: others else (c :: first) :: others

/-- The slashes that a normal form keeps at its front. -/
def root : List Char → List Char
  | '/' :: '/' :: '/' :: _ => ['/']
  | '/' :: '/' :: _ => ['/', '/']
  | '/' :: _ => ['/']
  | _ => []

/-- The parts that a normal form keeps. -/
def keptParts (cs : List Char) : List (List Char) := (parts cs).filter fun part => part ≠ [] ∧ part ≠ ['.']

/-- Parts with a slash between each two. -/
def joinParts (ps : List (List Char)) : List Char := ['/'].intercalate ps

/-- The characters of a normal form; nothing at all is a single dot. -/
def normalChars (cs : List Char) : List Char :=
  match root cs ++ joinParts (keptParts cs) with
  | [] => ['.']
  | normal => normal

/-- The normal form of a path name. -/
def normal (name : String) : String := String.ofList (normalChars name.toList)

/-- Whether a path name starts at the root of the file system. -/
def isAbsolute (name : String) : Bool := !(root name.toList).isEmpty

/-- The name of something in a directory, both in normal form. -/
def inside (directory name : String) : String := if isAbsolute name then name else normal (directory ++ "/" ++ name)

/-- The name of the directory that something of a name is in, in normal form. -/
def parent (name : String) : String :=
  String.ofList (normalChars (root name.toList ++ joinParts (keptParts name.toList).dropLast))

/-- The parts of a path name, as texts. -/
def names (name : String) : List String := (keptParts name.toList).map String.ofList

end AwkEdit.PathName
