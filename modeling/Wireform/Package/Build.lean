import Wireform.Generation.Pass
import Wireform.Package.Manifest
import Wireform.Package.Source
import Wireform.Package.Output

/-! # Builds

Generation for a package on disk, and the build script that runs it while the package is built. -/

namespace Wireform.Package

open Files Generation Names

inductive PackageError where
  | unreadableManifest (file : FilePath)
  | malformedManifest (file : FilePath)
  | source (error : SourceError)
  | fragment (error : FragmentError)
  | output (error : OutputError)
  deriving DecidableEq, Repr, Inhabited

def PackageError.message : PackageError → String
  | .unreadableManifest file => s!"Failed to read manifest {file}"
  | .malformedManifest file => s!"Failed to parse manifest {file}"
  | .source error => error.message
  | .fragment error => error.message
  | .output error => error.message

structure LoadedPackage where
  compilation : Compilation
  /-- Declared modules that have no file. -/
  missing : List ModulePath

def readManifest (tree : FileTree) (file : FilePath) : Except PackageError Manifest :=
  match tree.readText? file with
  | none => .error (.unreadableManifest file)
  | some text =>
    match Manifest.parse? text with
    | some manifest => .ok manifest
    | none => .error (.malformedManifest file)

/-- Reads a package: its manifest first, and then its sources. -/
def LoadedPackage.read (tree : FileTree) (manifestFile root : FilePath) :
    Except PackageError LoadedPackage := do
  let manifest ← readManifest tree manifestFile
  let sources ← (Sources.load tree root).mapError .source
  return ⟨.ofUnits sources.units manifest.externalCrates, sources.missing⟩

/-! ## Build scripts -/

structure BuildEnvironment where
  manifestDirectory : Option FilePath
  outputRoot : Option FilePath
  deriving DecidableEq, Repr, Inhabited

inductive BuildError where
  | notInBuildScript (missing : String)
  | package (error : PackageError)
  | rejected (errors : Nat)
  deriving DecidableEq, Repr, Inhabited

def BuildError.message : BuildError → String
  | .notInBuildScript name =>
    s!"{name} is not set; generate() must run inside a build script"
  | .package error => error.message
  | .rejected errors => s!"autoser-gen reported {errors} error(s)"

/-- What a build did: whether it failed, the instructions it gave, and the files after it. -/
structure BuildResult where
  error : Option BuildError
  instructions : List String
  tree : FileTree

namespace BuildEnvironment

def manifestDirectoryVariable : String := "CARGO_MANIFEST_DIR"

def outputRootVariable : String := "OUT_DIR"

def indexVariable : String := "AUTOSER_INDEX"

def outputName : String := "autoser"

def indexPath (outputRoot : FilePath) : FilePath :=
  (outputRoot.joinName outputName).joinName indexFileName

def warningLine (diagnostic : Diagnostic) : String :=
  s!"cargo:warning={diagnostic.location.text}: {diagnostic.head}: {diagnostic.message}"

/-- The instructions to build again when one of the package's files changes, and a warning for each
module that has no file. -/
def packageLines (manifestFile : FilePath) (package : LoadedPackage) : List String :=
  [s!"cargo:rerun-if-changed={manifestFile}"] ++
    (package.compilation.units.map fun unit => s!"cargo:rerun-if-changed={unit.path}") ++
    package.missing.map fun module =>
      s!"cargo:warning=module `{module.text}` has no source file and was not scanned"

def buildIn (tree : FileTree) (manifestDirectory outputRoot : FilePath) : BuildResult :=
  let manifestFile := manifestDirectory.joinName "Cargo.toml"
  let package := do
    let root ← (defaultRoot tree manifestDirectory).mapError PackageError.source
    LoadedPackage.read tree manifestFile root
  match package with
  | .error error => ⟨some (.package error), [], tree⟩
  | .ok package =>
    let lines := packageLines manifestFile package
    match generate package.compilation with
    | .error error => ⟨some (.package (.fragment error)), lines, tree⟩
    | .ok output =>
      let lines := lines ++ output.diagnostics.map warningLine
      match Output.sync tree (outputRoot.joinName outputName) output.files with
      | (.error error, tree) => ⟨some (.package (.output error)), lines, tree⟩
      | (.ok _, tree) =>
        if output.hasErrors then ⟨some (.rejected output.statistics.errors), lines, tree⟩
        else
          let index := s!"cargo:rustc-env={indexVariable}={indexPath outputRoot}"
          ⟨none, lines ++ [index], tree⟩

def build (environment : BuildEnvironment) (tree : FileTree) : BuildResult :=
  match environment.manifestDirectory, environment.outputRoot with
  | none, _ => ⟨some (.notInBuildScript manifestDirectoryVariable), [], tree⟩
  | some _, none => ⟨some (.notInBuildScript outputRootVariable), [], tree⟩
  | some manifestDirectory, some outputRoot => buildIn tree manifestDirectory outputRoot

end BuildEnvironment

end Wireform.Package
