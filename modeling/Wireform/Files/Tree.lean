import Wireform.Files.Path

namespace Wireform.Files

/-! # File trees

All files and directories, as a value. An operation on files is a function on trees, and what it did
is the difference between two trees. -/

/-- What a file holds. Bytes that are UTF-8 are text. -/
inductive Content where
  | text (value : String)
  | raw (bytes : List UInt8)
  deriving DecidableEq, Repr, Inhabited

def Content.ofBytes (bytes : List UInt8) : Content :=
  match String.fromUTF8? ⟨bytes.toArray⟩ with
  | some value => .text value
  | none => .raw bytes

inductive Entry where
  | file (content : Content)
  | directory
  deriving DecidableEq, Repr, Inhabited

/-- The names that lead from the top of a tree to one of its entries. -/
abbrev Place := List String

/-- The entries of a tree, each at its place, and the place at which relative paths start. The top
itself is a directory without an entry. -/
structure FileTree where
  entries : List (Place × Entry)
  here : Place := []
  deriving DecidableEq, Repr, Inhabited

inductive PathFault where
  | notFound
  /-- Something on the way is a file. -/
  | notADirectory
  /-- No file can have such a path. -/
  | unusable
  deriving DecidableEq, Repr, Inhabited

/-- The longest name in a directory, in bytes. -/
def longestName : Nat := 255

/-- The longest path that can be followed, in bytes. -/
def longestPath : Nat := 4095

/-- There are fewer paths than this that can be followed: each is a number with a digit for every
letter, of which there are fewer than `0x110000`, and one for the end of every piece. -/
def pathLimit : Nat := Nat.pow 0x110002 (longestPath + 1)

def isUsableName (name : String) : Bool := name.utf8ByteSize ≤ longestName

example : isUsableName (String.ofList (List.replicate 128 'é')) = false := by decide +kernel

/-- Whether a path can be followed at all. A zero would end it before its end. -/
def isUsablePath (path : FilePath) : Bool :=
  path.text.utf8ByteSize ≤ longestPath && !path.pieces.any fun piece => piece.toList.contains '\x00'

namespace FileTree

def empty : FileTree := { entries := [] }

variable (tree : FileTree)

def entry? (place : Place) : Option Entry :=
  if place.isEmpty then some .directory else tree.entries.lookup place

def isDirectory (place : Place) : Bool := tree.entry? place = some .directory

def insert (place : Place) (entry : Entry) : FileTree :=
  { tree with entries := tree.entries.filter (·.1 ≠ place) ++ [(place, entry)] }

def erase (place : Place) : FileTree :=
  { tree with entries := tree.entries.filter (·.1 ≠ place) }

def names (place : Place) : List String :=
  tree.entries.filterMap fun entry =>
    if entry.1.dropLast = place then entry.1.getLast? else none

/-! ## Paths -/

def fault? (place : Place) : Option PathFault :=
  match tree.entry? place with
  | some .directory => none
  | some (.file _) => some .notADirectory
  | none => some .notFound

/-- Follows pieces of a path. All but the place they end at have to be directories, and nothing is
above the top. -/
def follow (place : Place) : List String → Except PathFault Place
  | [] => .ok place
  | piece :: rest =>
    match tree.fault? place with
    | some fault => .error fault
    | none =>
      if piece = "" ∨ piece = "." then follow place rest
      else if piece = ".." then follow place.dropLast rest
      else if isUsableName piece then follow (place ++ [piece]) rest
      else .error .unusable

def start (path : FilePath) : Place := if path.isAbsolute then [] else tree.here

/-- The place that a path leads to, whether there is an entry or not. -/
def place? (path : FilePath) : Except PathFault Place :=
  if !isUsablePath path then .error .unusable
  else if path = .empty then .error .notFound
  else tree.follow (tree.start path) path.pieces

def get? (path : FilePath) : Except PathFault Entry := do
  match tree.entry? (← tree.place? path) with
  | some entry => return entry
  | none => .error .notFound

/-! ## Operations -/

def pathExists (path : FilePath) : Bool := (tree.get? path).isOk

def readText? (path : FilePath) : Option String :=
  match tree.get? path with
  | .ok (.file (.text value)) => some value
  | _ => none

/-- Writes a file into a directory that is there. -/
def writeText? (path : FilePath) (text : String) : Option FileTree :=
  match tree.place? path with
  | .ok place =>
    if tree.isDirectory place then none
    else some (tree.insert place (.file (.text text)))
  | .error _ => none

def removeFile? (path : FilePath) : Option FileTree :=
  match tree.place? path with
  | .ok place =>
    match tree.entry? place with
    | some (.file _) => some (tree.erase place)
    | _ => none
  | .error _ => none

def list (path : FilePath) : Except PathFault (List String) := do
  let place ← tree.place? path
  match tree.fault? place with
  | some fault => .error fault
  | none => return tree.names place

end FileTree

/-- Makes every directory that pieces of a path lead through. The second part of the answer is what
was made, even if the way ends at a file. -/
def FileTree.makeAll (tree : FileTree) (place : Place) : List String → Bool × FileTree
  | [] => (true, tree)
  | piece :: rest =>
    if piece = "" ∨ piece = "." then tree.makeAll place rest
    else if piece = ".." then tree.makeAll place.dropLast rest
    else if !isUsableName piece then (false, tree)
    else
      let next := place ++ [piece]
      match tree.entry? next with
      | some .directory => tree.makeAll next rest
      | some (.file _) => (false, tree)
      | none => (tree.insert next .directory).makeAll next rest

/-- Makes a directory and every one above it that is missing. The empty path needs none. -/
def FileTree.makeDirectory (tree : FileTree) (path : FilePath) : Bool × FileTree :=
  if isUsablePath path then tree.makeAll (tree.start path) path.pieces else (false, tree)

end Wireform.Files
