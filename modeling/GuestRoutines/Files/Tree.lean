import GuestRoutines.Text.Bytes
import GuestRoutines.Text.Utf8

/-!
# A tree of files

The file system is a value: it says for each place whether a directory, a file or nothing is there.
A path is walked component by component, and everything before the last component must be a
directory. Places are seen from the working directory. Directories lie above it, of which nothing
else is known.

## Main definitions

* `Node`, `FileTree` — directories and files by place
* `FileFault` — why a path cannot be read
* `FileTree.node` — what is at a path
* `FileTree.isFile`, `FileTree.isDirectory`, `FileTree.read`, `FileTree.readText` — questions
* `FileTree.write`, `FileTree.delete` — changes
* `Path.join`, `Path.leading`, `Path.extension?` — texts of paths
-/

namespace GuestRoutines

/-- What is at a place. -/
inductive Node where
  | directory
  | file (contents : ByteArray)
  deriving DecidableEq

/-- Why a path cannot be read. -/
inductive FileFault where
  | notFound
  | notDirectory
  | isDirectory
  | invalidText
  /-- A name on the way, or the whole path, has too many bytes. -/
  | nameTooLong
  | nulInPath
  /-- A fault reported by another file system in its own words. -/
  | other (text : String)
  deriving DecidableEq, Repr

/-- The fault in words. -/
def FileFault.message : FileFault → String
  | notFound => "No such file or directory (os error 2)"
  | notDirectory => "Not a directory (os error 20)"
  | isDirectory => "Is a directory (os error 21)"
  | invalidText => "stream did not contain valid UTF-8"
  | nameTooLong => "File name too long (os error 36)"
  | nulInPath => "file name contained an unexpected NUL byte"
  | other text => text

/-- A place: the names on the way to it from the working directory, or after the name of the root.
The way may begin with steps up. -/
abbrev Place := List String

namespace Path

/-- The name of the root. -/
def root : String := "/"

/-- The components of a path as it is written. -/
def components (path : String) : List String :=
  (path.toList.splitOn '/').map String.ofList

/-- The paths that lead to a path, the shortest first, and the path itself. -/
def leading (path : String) : List String :=
  let names := components path
  ((List.range names.length).map fun k => "/".intercalate (names.take (k + 1))).filter (· ≠ "")

/-- The name of a step up. -/
def up : String := ".."

/-- The place is the working directory or above it. -/
def isAbove (here : Place) : Bool := here.all (· == up)

/-- The place to which a step up leads; nothing leads out of the root. -/
def back (here : Place) : Place :=
  if here = [root] then here
  else if isAbove here then here ++ [up]
  else here.dropLast

/-- The path of an entry of a directory. -/
def join (dir entry : String) : String :=
  if dir = "" then entry
  else if dir.endsWith "/" then dir ++ entry
  else dir ++ "/" ++ entry

/-- The last name of a path, if the path ends in one. -/
def lastName? (path : String) : Option String :=
  ((components path).filter fun c => c ≠ "" ∧ c ≠ ".").getLast?.filter (· ≠ up)

/-- What follows the last point of the last name, if something precedes that point. -/
def extension? (path : String) : Option String :=
  match lastName? path with
  | none => none
  | some name =>
    let cs := name.toList.reverse
    match cs.dropWhile (· != '.') with
    | _ :: _ :: _ => some (String.ofList (cs.takeWhile (· != '.')).reverse)
    | _ => none

end Path

/-- A tree of files. The root, the working directory and those above it are always there. -/
structure FileTree where
  entries : Place → Option Node

namespace FileTree

/-- Nothing but the root, the working directory and those above it. -/
def empty : FileTree :=
  ⟨fun p => if p = [Path.root] ∨ Path.isAbove p then some .directory else none⟩

/-- The tree with an entry put at a place. -/
def put (t : FileTree) (p : Place) (n : Node) : FileTree :=
  ⟨fun q => if q = p then some n else t.entries q⟩

/-- The tree without the entry at a place. -/
def remove (t : FileTree) (p : Place) : FileTree :=
  ⟨fun q => if q = p then none else t.entries q⟩

/-- The most bytes that a name may have. -/
def maxNameSize : Nat := 255

/-- The most bytes that a path may have. -/
def maxPathSize : Nat := 4095

/-- What is found by walking on from a place. Every component needs a directory to be looked up in;
an empty component and a point stay there, and two points are a step up. -/
def walk (t : FileTree) : List String → Place → Except FileFault (Place × Node)
  | [], here =>
    match t.entries here with
    | some n => .ok (here, n)
    | none => .error .notFound
  | c :: rest, here =>
    match t.entries here with
    | none => .error .notFound
    | some (.file _) => .error .notDirectory
    | some .directory =>
      if c = "" ∨ c = "." then t.walk rest here
      else if c = Path.up then t.walk rest (Path.back here)
      else if maxNameSize < c.utf8ByteSize then .error .nameTooLong
      else t.walk rest (here ++ [c])

/-- The place that a path names and what is there. -/
def locate (t : FileTree) (path : String) : Except FileFault (Place × Node) :=
  if path = "" then .error .notFound
  else if path.toList.any (· == '\x00') then .error .nulInPath
  else if maxPathSize < path.utf8ByteSize then .error .nameTooLong
  else if path.startsWith "/" then t.walk (Path.components path) [Path.root]
  else t.walk (Path.components path) []

/-- What is at a path. -/
def node (t : FileTree) (path : String) : Except FileFault Node := (t.locate path).map (·.2)

def isFile (t : FileTree) (path : String) : Bool :=
  match t.node path with
  | .ok (.file _) => true
  | _ => false

def isDirectory (t : FileTree) (path : String) : Bool :=
  match t.node path with
  | .ok .directory => true
  | _ => false

/-- The contents of the file at a path. -/
def read (t : FileTree) (path : String) : Except FileFault ByteArray :=
  match t.node path with
  | .ok (.file b) => .ok b
  | .ok .directory => .error .isDirectory
  | .error e => .error e

/-- The contents of the file at a path, as text. -/
def readText (t : FileTree) (path : String) : Except FileFault String :=
  match t.read path with
  | .ok b =>
    match Text.ofBytes? b with
    | some s => .ok s
    | none => .error .invalidText
  | .error e => .error e

/-- The place that a path names in a tree where every directory on the way exists. -/
def placeOf (path : String) : Place :=
  let names := (Path.components path).filter fun c => c ≠ "" ∧ c ≠ "."
  names.foldl (fun here c => if c = Path.up then Path.back here else here ++ [c])
    (if path.startsWith "/" then [Path.root] else [])

/-- The tree with an entry at a path and directories on the way to it. -/
def write (t : FileTree) (path : String) (n : Node) : FileTree :=
  let place := placeOf path
  let withParents := (List.range place.length).foldl (fun t k => t.put (place.take k) .directory) t
  withParents.put place n

/-- The tree without the file at a path, and whether there was one. -/
def delete (t : FileTree) (path : String) : Bool × FileTree :=
  match t.locate path with
  | .ok (place, .file _) => (true, t.remove place)
  | _ => (false, t)

end FileTree

end GuestRoutines
