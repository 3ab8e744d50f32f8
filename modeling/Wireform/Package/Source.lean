import Wireform.Names.Compilation
import Wireform.Files.Tree

/-! # Sources

The source files of a crate, found from its root by following the modules that they declare. -/

namespace Wireform.Package

open Files Names Syntax

inductive SourceError where
  /-- Neither of the usual roots is in this directory. -/
  | noRoot (directory : FilePath)
  | unreadable (file : FilePath)
  | malformed (file : FilePath)
  /-- Files declare one another as modules without end. -/
  | endless (root : FilePath)
  deriving DecidableEq, Repr, Inhabited

def SourceError.message : SourceError → String
  | .noRoot directory => s!"No src/lib.rs or src/main.rs found under {directory}"
  | .unreadable file => s!"Failed to read {file}"
  | .malformed file => SourceUnit.parseFailure file.text
  | .endless root => s!"The modules of {root} contain one another"

/-- The roots that a package can have, the preferred one first. -/
def usualRoots : List FilePath := [⟨["src", "lib.rs"]⟩, ⟨["src", "main.rs"]⟩]

def defaultRoot (tree : FileTree) (directory : FilePath) : Except SourceError FilePath :=
  match (usualRoots.map directory.join).find? tree.pathExists with
  | some root => .ok root
  | none => .error (.noRoot directory)

/-! ## Declared modules -/

/-- A module that is declared without its items. -/
structure ModuleDeclaration where
  module : ModulePath
  /-- Where its file can be, the preferred place first. -/
  candidates : List FilePath
  /-- Whether an attribute says where the file is. -/
  explicit : Bool
  deriving DecidableEq, Repr, Inhabited

def pathAttribute? (tags : List Attribute) : Option String :=
  tags.findSome? fun tag =>
    match tag.content with
    | .value (.literal token) => if tag.path.isName "path" then token.text? else none
    | _ => none

/-- Where the file of a module can be: at the place that an attribute gives, which is relative to
the declaring file, or else at one of two places in the declaring module's own directory. -/
def declarationOf (fileDirectory childDirectory : FilePath) (module : ModulePath) (name : String)
    (tags : List Attribute) : ModuleDeclaration :=
  match pathAttribute? tags with
  | some path => ⟨module ++ [name], [fileDirectory.join (.ofText path)], true⟩
  | none =>
    ⟨module ++ [name],
      [childDirectory.joinName (name ++ ".rs"), (childDirectory.joinName name).joinName "mod.rs"],
      false⟩

mutual
/-- The modules that an item declares without their items, in modules written in place as well. -/
def declarationsIn (fileDirectory childDirectory : FilePath) (module : ModulePath) :
    Item → List ModuleDeclaration
  | .module _ _ name (some items) =>
    declarationsInAll fileDirectory (childDirectory.joinName name.text) (module ++ [name.text])
      items
  | .module tags _ name none =>
    [declarationOf fileDirectory childDirectory module name.text tags]
  | _ => []

def declarationsInAll (fileDirectory childDirectory : FilePath) (module : ModulePath) :
    List Item → List ModuleDeclaration
  | [] => []
  | head :: tail =>
    declarationsIn fileDirectory childDirectory module head ++
      declarationsInAll fileDirectory childDirectory module tail
end

/-! ## Loading -/

structure SourceFile where
  file : FilePath
  module : ModulePath
  /-- The directory of the modules that the file declares. -/
  childDirectory : FilePath
  deriving DecidableEq, Repr, Inhabited

namespace SourceFile

def ofRoot (root : FilePath) : SourceFile := ⟨root, [], root.directory⟩

def read (tree : FileTree) (source : SourceFile) : Except SourceError SourceUnit :=
  match tree.readText? source.file with
  | none => .error (.unreadable source.file)
  | some text =>
    match SourceUnit.parse? source.file.text source.module.text text with
    | some unit => .ok unit
    | none => .error (.malformed source.file)

def declarations (source : SourceFile) (unit : SourceUnit) : List ModuleDeclaration :=
  declarationsInAll source.file.directory source.childDirectory source.module unit.items

end SourceFile

/-- The place of a declared module's file: the first candidate that is there. -/
def ModuleDeclaration.file? (tree : FileTree) (declaration : ModuleDeclaration) : Option FilePath :=
  declaration.candidates.find? tree.pathExists

/-- The file of a declared module. The modules that it declares in turn are beside it if it is
called `mod.rs` or an attribute gave its place, and otherwise in a directory of its name. -/
def ModuleDeclaration.source? (tree : FileTree) (declaration : ModuleDeclaration) :
    Option SourceFile :=
  (declaration.file? tree).map fun file =>
    let beside := declaration.explicit || file.fileName? = some "mod.rs"
    ⟨file, declaration.module, if beside then file.directory else file.withoutExtension⟩

namespace SourceFile

def found (tree : FileTree) (source : SourceFile) (unit : SourceUnit) : List SourceFile :=
  (source.declarations unit).filterMap (ModuleDeclaration.source? tree)

def missing (tree : FileTree) (source : SourceFile) (unit : SourceUnit) : List ModulePath :=
  ((source.declarations unit).filter fun declaration =>
    (declaration.file? tree).isNone).map ModuleDeclaration.module

end SourceFile

/-- The units of a crate, and the declared modules that have no file. -/
structure Sources where
  units : List SourceUnit
  missing : List ModulePath
  deriving Inhabited

namespace Sources

def empty : Sources := ⟨[], []⟩

def append (first second : Sources) : Sources :=
  ⟨first.units ++ second.units, first.missing ++ second.missing⟩

/-- Reads files, and finds the files of the modules that they declare. -/
def readAll (tree : FileTree) : List SourceFile → Except SourceError (Sources × List SourceFile)
  | [] => .ok (empty, [])
  | source :: rest => do
    let unit ← source.read tree
    let (sources, next) ← readAll tree rest
    return (append ⟨[unit], source.missing tree unit⟩ sources, source.found tree unit ++ next)

/-- Reads files, then the files of the modules that they declare, and so on: breadth first, through
at most this many levels of modules. -/
def readLevels (tree : FileTree) (root : FilePath) :
    (levels : Nat) → List SourceFile → Except SourceError Sources
  | _, [] => .ok empty
  | 0, _ :: _ => .error (.endless root)
  | levels + 1, first :: rest => do
    let (sources, next) ← readAll tree (first :: rest)
    return append sources (← readLevels tree root levels next)

/-- More levels of modules than there are before a file comes below itself again. Its modules are
beside it both times or in a directory of its name, so that they come again as well, and there is no
end to them. -/
def levelLimit : Nat := 2 * pathLimit

def load (tree : FileTree) (root : FilePath) : Except SourceError Sources :=
  readLevels tree root levelLimit [.ofRoot root]

end Sources

end Wireform.Package
