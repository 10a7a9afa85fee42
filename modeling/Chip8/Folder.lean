import Chip8.HostError

/-! Files in a folder. A path is a list of names with slashes between them; empty names and single dots in it
    mean nothing, and two dots lead one folder up. The folders inside are those that the files are in. What
    lies around the folder is not known, except that there are folders all the way up. -/

namespace Chip8

/-- Files by the names on the way to them; `α` is the type of what they hold. -/
structure Folder (α : Type) where
  files : List (List String × α)

namespace Folder

variable {α : Type}

/-! ### Paths -/

/-- The names in a path that mean something. -/
def names (path : String) : List String :=
  ((path.toList.splitOn '/').map String.ofList).filter fun name => name != "" && name != "."

def absolute (path : String) : Bool := path.toList.head? == some '/'

/-- A name is too long if it has more than 255 bytes. -/
def longName (name : String) : Bool := 255 < name.utf8ByteSize

/-- A path is too long if it has more than 4095 bytes. -/
def longPath (path : String) : Bool := 4095 < path.utf8ByteSize

def ofPaths (files : List (String × α)) : Folder α := ⟨files.map fun (path, content) => (names path, content)⟩

/-! ### Ways -/

/-- Where a way has led so far. -/
inductive Place where
  /-- Inside, in the folder to which the names lead. -/
  | inside (names : List String)
  /-- Outside, in a folder of which nothing is known. -/
  | outside
  deriving DecidableEq

def hasFolder (f : Folder α) (names : List String) : Bool :=
  f.files.any fun (path, _) => path != names && names.isPrefixOf path

/-- The content of the file to which the rest of a way leads. -/
def walk (f : Folder α) : Place → List String → Except FileError α
  | _, [] => .error .isFolder
  | .outside, ".." :: rest => walk f .outside rest
  | .outside, name :: _ => .error (if longName name then .tooLong else .missing)
  | .inside [], ".." :: rest => walk f .outside rest
  | .inside here, ".." :: rest => walk f (.inside here.dropLast) rest
  | .inside here, name :: rest =>
    if longName name then .error .tooLong
    else
      match f.files.lookup (here ++ [name]) with
      | some content => if rest.isEmpty then .ok content else .error .notFolder
      | none => if f.hasFolder (here ++ [name]) then walk f (.inside (here ++ [name])) rest else .error .missing

def read (f : Folder α) (path : String) : Except HostError α :=
  let result :=
    if path.toList.contains '\x00' then .error .holdsNull
    else if longPath path then .error .tooLong
    else walk f (if absolute path then .outside else .inside []) (names path)
  result.mapError fun error => .file error path

end Folder

end Chip8
