import Monitor8080.Text.Layout
namespace Monitor8080.CommandLine

/-!
# Files and paths

A path names a file by the directories on the way to it, from the working
directory or, with a slash in front, from the root. Every name but the last
has to lead to a directory, and so has the last one if a slash follows it.
Beside its files a tree has the directories that they are in, those above the
working directory, and the root.
-/

/-- What a path leads to. -/
inductive Found where
  | file (bytes : List UInt8)
  | directory
  | missing
  deriving Repr, DecidableEq

/--
A place in a tree, given by the names on the way to it with the last one
first. The working directory has none.
-/
abbrev Place := List String

namespace Place

/-- The root, which is the only place with this name. -/
def root : Place :=
  ["/"]

/-- The directory that a place is in; the root is in itself. -/
def parent : Place → Place
  | [] => [".."]
  | ".." :: names => ".." :: ".." :: names
  | ["/"] => root
  | _ :: names => names

/-- Where a path starts. -/
def start (path : String) : Place :=
  if path.startsWith "/" then root else []

/-- Whether a name in a path leads nowhere else. -/
def isIdle (name : String) : Bool :=
  name.isEmpty || name == "."

end Place

/-- Files by their places. -/
structure FileTree where
  files : List (Place × List UInt8)
  deriving Repr, DecidableEq

namespace FileTree

/-- How many bytes a name may have. -/
def nameLimit : Nat := 255

/-- How many bytes a path may have. -/
def pathLimit : Nat := 4095

def namesIn (path : String) : List String :=
  (Text.pieces '/' path.toList).map String.ofList

/-- The tree with a file at a place, in place of the one before if there was one. -/
def insert (tree : FileTree) (place : Place) (bytes : List UInt8) : FileTree :=
  ⟨(place, bytes) :: tree.files.filter (·.1 ≠ place)⟩

/-- The tree of files given by their paths, of which the last one for a place counts. -/
def ofList (files : List (String × List UInt8)) : FileTree :=
  files.foldl
    (fun tree (path, bytes) =>
      let names := (namesIn path).filter (!Place.isIdle ·)
      tree.insert (names.reverse ++ Place.start path) bytes)
    ⟨[]⟩

def isDirectory (tree : FileTree) (place : Place) : Bool :=
  place.all (· == "..") || place == Place.root
    || tree.files.any fun file => file.1 != place && place.isSuffixOf file.1

/-- The place that names lead to from a place, if all but the last one are directories. -/
def walk? (tree : FileTree) : Place → List String → Option Place
  | place, [] => some place
  | place, name :: names =>
      if !tree.isDirectory place || nameLimit < name.utf8ByteSize then none
      else if Place.isIdle name then tree.walk? place names
      else if name == ".." then tree.walk? place.parent names
      else tree.walk? (name :: place) names

/-- The place that a path names. -/
def place? (tree : FileTree) (path : String) : Option Place :=
  if pathLimit < path.utf8ByteSize then none
  else tree.walk? (Place.start path) (namesIn path)

/-- What a path leads to. -/
def find (tree : FileTree) (path : String) : Found :=
  match tree.place? path with
  | none => .missing
  | some place =>
      if tree.isDirectory place then
        .directory
      else
        match tree.files.lookup place with
        | some bytes => .file bytes
        | none => .missing

/-- The tree with another text in the file that a path names, if there can be one. -/
def write? (tree : FileTree) (path text : String) : Option FileTree := do
  let place ← tree.place? path
  if tree.isDirectory place then none else return tree.insert place text.toUTF8.toList

end FileTree

end Monitor8080.CommandLine
