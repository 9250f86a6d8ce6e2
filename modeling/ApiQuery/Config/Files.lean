/-
  ApiQuery.Config.Files — a tree of files, and the walk along a path.

  A path is walked name by name from a directory. What lies above the root of the tree is
  a directory with nothing in it. A locked file is found, but cannot be opened.
-/

import ApiQuery.Config.Error
import ApiQuery.Text.Split

namespace ApiQuery

inductive FileTree where
  | file (bytes : List UInt8)
  /-- A file that may not be read. -/
  | locked
  | dir (entries : List (String × FileTree))

namespace FileTree

def entries : FileTree → List (String × FileTree)
  | file _ | locked => []
  | dir es => es

def empty : FileTree := dir []

/-- Puts a tree at a path of names; directories are made on the way. -/
def place : FileTree → List String → FileTree → FileTree
  | _, [], t => t
  | root, n :: ns, t =>
    let inner := (root.entries.lookup n).getD empty
    dir ((n, inner.place ns t) :: root.entries.filter (·.1 ≠ n))

/-- What is at a path of names. -/
def at? : List String → FileTree → Option FileTree
  | [], t => some t
  | _ :: _, file _ | _ :: _, locked => none
  | n :: ns, dir es =>
    match es.lookup n with
    | some t => at? ns t
    | none => none

def isFile : FileTree → Bool
  | file _ | locked => true
  | dir _ => false

/-- The bytes of a file. -/
def read : FileTree → Except FileError (List UInt8)
  | file bytes => .ok bytes
  | locked => .error .denied
  | dir _ => .error .isDirectory

end FileTree

/-- A place in the tree or above its root. -/
inductive Spot where
  | inside (names : List String)
  | above
deriving DecidableEq

namespace Spot

def maxNameBytes : Nat := 255
def maxPathBytes : Nat := 4095

/-- The directory that holds a spot. -/
def parent : Spot → Spot
  | inside [] => above
  | inside (n :: ns) => inside (n :: ns).dropLast
  | above => above

/-- One name further; the spot must be a directory. -/
def step (root : FileTree) (s : Spot) (name : String) : Except FileError Spot :=
  match s with
  | above => if name = "" ∨ name = "." ∨ name = ".." then .ok above else .error .notFound
  | inside names =>
    match root.at? names with
    | some (.dir es) =>
      if name = "" ∨ name = "." then .ok s
      else if name = ".." then .ok s.parent
      else if maxNameBytes < name.utf8ByteSize then .error .nameTooLong
      else if (es.lookup name).isSome then .ok (inside (names ++ [name]))
      else .error .notFound
    | some (.file _) | some .locked => .error .notDirectory
    | none => .error .notFound

end Spot

/-- The names of a path. -/
def pathNames (path : String) : List String := (Text.splitAt '/' path.toList).map String.ofList

/-- A tree and the directory that paths start from. -/
structure Files where
  root : FileTree
  cwd : List String

namespace Files

/-- Where a path leads. -/
def find (fs : Files) (path : String) : Except FileError Spot :=
  if path.toList.contains '\x00' then .error .nulInPath
  else if path = "" then .error .notFound
  else if Spot.maxPathBytes < path.utf8ByteSize then .error .nameTooLong
  else
    let start := if path.toList.head? = some '/' then Spot.above else .inside fs.cwd
    (pathNames path).foldlM (Spot.step fs.root) start

def exists? (fs : Files) (path : String) : Bool := (fs.find path).isOk

/-- The bytes of the file at a path. -/
def read (fs : Files) (path : String) : Except FileError (List UInt8) := do
  match ← fs.find path with
  | .above => .error .isDirectory
  | .inside names =>
    match fs.root.at? names with
    | some t => t.read
    | none => .error .notFound

/-- A directory and those above it, the nearest first. -/
def ancestors (names : List String) : List (List String) :=
  (List.range (names.length + 1)).reverse.map names.take

/-- The file of a name in a directory. -/
def fileIn? (fs : Files) (dir : List String) (name : String) : Option FileTree :=
  (fs.root.at? (dir ++ [name])).filter FileTree.isFile

/-- The file of a name in the working directory, or else in the nearest directory above that
    has one. -/
def nearest? (fs : Files) (name : String) : Option FileTree :=
  (ancestors fs.cwd).findSome? fun dir => fs.fileIn? dir name

end Files

end ApiQuery
