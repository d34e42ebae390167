-- Paths, and a folder with files that they lead to. Nothing is behind a file, and a missing folder is not
-- skipped even if the next part of the path steps out of it again.
namespace Chronomata.Text

def parts : List Char → List (List Char)
  | [] => [[]]
  | c :: rest => match c, parts rest with
    | '/', found => [] :: found
    | c, first :: found => (c :: first) :: found
    | c, [] => [[c]]

-- The last part of a path that names something. A step upwards names nothing.
def fileName? (path : String) : Option (List Char) :=
  match ((parts path.toList).filter fun part => part != [] && part != ['.']).getLast? with
  | some part => if part = ['.', '.'] then none else some part
  | none => none

-- What stands behind the last point of the file name. A name that starts with its only point has no
-- extension.
def extension? (path : String) : Option String := do
  let name ← fileName? path
  let (behind, front) := name.reverse.span (· ≠ '.')
  if front.length ≤ 1 then none else some (String.ofList behind.reverse)

end Chronomata.Text

namespace Chronomata

inductive Place where
  | nothing
  | unreadable (reason : String)
  | file (content : List UInt8)
  deriving DecidableEq

-- Files by the names on the way to them. A way out of the folder starts with steps upwards, a way
-- from the top of all folders with a slash.
structure Folder where
  files : List (List String × List UInt8)
  deriving DecidableEq

namespace Folder

def steps (path : String) : List String := (Text.parts path.toList).map String.ofList

def start (path : String) : List String := if path.startsWith "/" then ["/"] else []

-- The way to the folder above. Nothing is above the top.
def above (way : List String) : List String :=
  match way.getLast? with
  | none | some ".." => way ++ [".."]
  | some "/" => way
  | some _ => way.dropLast

def isFile (f : Folder) (way : List String) : Bool := f.files.any (·.1 == way)

-- Whether a way ends at a folder: this one, one of those above it, or one with a file in it.
def isFolder (f : Folder) (way : List String) : Bool :=
  way.all (fun name => name = ".." || name = "/")
    || f.files.any fun e => way.isPrefixOf e.1 && e.1 != way

-- Walk on from a folder. A blank part and a point stay where they are.
def walk (f : Folder) (way : List String) (name : String) : Option (List String) :=
  if f.isFolder way then
    if name = "" || name = "." then some way
    else if name = ".." then some (above way)
    else
      let next := way ++ [name]
      if f.isFile next || f.isFolder next then some next else none
  else none

def nameLimit : Nat := 255

def pathLimit : Nat := 4095

def along (f : Folder) (path : String) (parts : List String) : Option (List String) :=
  if path.utf8ByteSize ≤ pathLimit then parts.foldlM f.walk (start path) else none

def follow (f : Folder) (path : String) : Option (List String) := f.along path (steps path)

def find (f : Folder) (path : String) : Place :=
  match f.follow path with
  | none => .nothing
  | some way => match f.files.lookup way with
    | some content => .file content
    | none => .unreadable "Is a directory (os error 21)"

-- The folder once bytes are written to a path. All but the last part lead to a folder, where the
-- last part names a file or nothing yet.
def write? (f : Folder) (path : String) (content : List UInt8) : Option Folder := do
  let name ← (steps path).getLast?
  let parent ← f.along path (steps path).dropLast
  let way := parent ++ [name]
  if f.isFolder parent ∧ name ∉ ["", ".", ".."] ∧ name.utf8ByteSize ≤ nameLimit
      ∧ ¬ f.isFolder way then
    some ⟨(way, content) :: f.files.filter (·.1 != way)⟩
  else none

-- A folder of files by their paths, of which the first counts where two lead to one place.
def ofFiles (files : List (String × List UInt8)) : Folder :=
  ⟨files.map fun e => (start e.1 ++ (steps e.1).filter (fun s => s != "" && s != "."), e.2)⟩

end Folder

end Chronomata
