import Wireform.Generation.Fragment
import Wireform.Files.Tree

/-! # Output directories

The directory of the generated files. Synchronizing it writes what has changed and removes every
fragment that is no longer generated; everything else in it stays as it is. -/

namespace Wireform.Package

open Files Generation

structure OutputChanges where
  written : List FilePath
  unchanged : List FilePath
  removed : List FilePath
  deriving DecidableEq, Repr, Inhabited

def OutputChanges.isClean (changes : OutputChanges) : Bool :=
  changes.written.isEmpty && changes.removed.isEmpty

inductive OutputError where
  | notCreated (directory : FilePath)
  | notWritten (file : FilePath)
  | notListed (directory : FilePath)
  | notRemoved (file : FilePath)
  deriving DecidableEq, Repr, Inhabited

def OutputError.message : OutputError → String
  | .notCreated directory => s!"Failed to create {directory}"
  | .notWritten file => s!"Failed to write {file}"
  | .notListed directory => s!"Failed to list {directory}"
  | .notRemoved file => s!"Failed to remove {file}"

/-- Whether changes are made or only reported. -/
inductive Mode where
  | apply
  | report
  deriving DecidableEq, Repr, Inhabited

def isFragmentName (name : String) : Bool :=
  fragmentSuffix.toList.isSuffixOf name.toList

namespace Output

/-- Which files of a directory are written and which are unchanged, and the tree after that. -/
def writeAll (mode : Mode) (directory : FilePath) :
    FileTree → List Fragment → Except OutputError OutputChanges × FileTree
  | tree, [] => (.ok ⟨[], [], []⟩, tree)
  | tree, fragment :: rest =>
    let file := directory.join (.ofText fragment.fileName)
    if tree.readText? file = some fragment.code then
      let (changes, tree) := writeAll mode directory tree rest
      (changes.map fun changes => { changes with unchanged := file :: changes.unchanged }, tree)
    else
      match if mode = .apply then tree.writeText? file fragment.code else some tree with
      | none => (.error (.notWritten file), tree)
      | some tree =>
        let (changes, tree) := writeAll mode directory tree rest
        (changes.map fun changes => { changes with written := file :: changes.written }, tree)

/-- The fragments in a directory that are not generated any more, in order. A directory that is not
there holds none. -/
def staleFiles (tree : FileTree) (directory : FilePath) (expected : List String) :
    Except OutputError (List FilePath) :=
  match tree.list directory with
  | .ok names =>
    let stale := names.filter fun name => isFragmentName name && !expected.contains name
    .ok ((Text.sorted stale).map directory.joinName)
  | .error .notFound => .ok []
  | .error _ => .error (.notListed directory)

/-- Removes files. Those before one that cannot be removed are gone. -/
def removeAll : FileTree → List FilePath → Except OutputError Unit × FileTree
  | tree, [] => (.ok (), tree)
  | tree, file :: rest =>
    match tree.removeFile? file with
    | some tree => removeAll tree rest
    | none => (.error (.notRemoved file), tree)

def update (mode : Mode) (tree : FileTree) (directory : FilePath) (fragments : List Fragment) :
    Except OutputError OutputChanges × FileTree :=
  match writeAll mode directory tree fragments with
  | (.error error, tree) => (.error error, tree)
  | (.ok changes, tree) =>
    match staleFiles tree directory (fragments.map Fragment.fileName) with
    | .error error => (.error error, tree)
    | .ok stale =>
      let changes := { changes with removed := stale }
      match mode with
      | .report => (.ok changes, tree)
      | .apply =>
        match removeAll tree stale with
        | (.ok (), tree) => (.ok changes, tree)
        | (.error error, tree) => (.error error, tree)

/-- Writes the files whose text has changed, and removes the fragments that are left over. -/
def sync (tree : FileTree) (directory : FilePath) (fragments : List Fragment) :
    Except OutputError OutputChanges × FileTree :=
  match tree.makeDirectory directory with
  | (true, tree) => update .apply tree directory fragments
  | (false, tree) => (.error (.notCreated directory), tree)

def diff (tree : FileTree) (directory : FilePath) (fragments : List Fragment) :
    Except OutputError OutputChanges :=
  (update .report tree directory fragments).1

end Output

end Wireform.Package
