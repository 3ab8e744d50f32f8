import Wireform.Console.Style
import Wireform.Console.Table
import Wireform.Package.Build

/-! # Runs

What the program's commands do: generate the fragments of a package, or list its candidates. -/

namespace Wireform.Console

open Files Generation Package

inductive CommandError where
  | verboseAndQuiet
  | package (error : PackageError)
  | rejected (errors : Nat)
  /-- Generated files are not what would be written. -/
  | outOfDate (directory : FilePath)
  deriving DecidableEq, Repr, Inhabited

def CommandError.message : CommandError → String
  | .verboseAndQuiet => "--verbose and --quiet cannot be combined"
  | .package error => error.message
  | .rejected errors => s!"generation failed with {errors} error(s)"
  | .outOfDate directory =>
    s!"generated files in {directory} are out of date; rerun without --check"

/-- What a command did: whether it failed, the lines that it wrote, and the files after it. -/
structure RunResult where
  error : Option CommandError
  lines : List String
  /-- The lines for the error stream. -/
  errorLines : List String
  tree : FileTree

namespace PackageOptions

/-- The directory of the manifest. -/
def directory (options : PackageOptions) : FilePath :=
  let parent := options.manifestFile.directory
  if parent = .empty then .here else parent

def findRoot (options : PackageOptions) (tree : FileTree) : Except SourceError FilePath :=
  match options.root with
  | some root => .ok root
  | none => defaultRoot tree options.directory

end PackageOptions

/-! ## Lines -/

structure Log where
  palette : Palette
  clock : String
  verbose : Bool
  quiet : Bool

namespace Log

variable (log : Log)

def stamped (role : Role) (text : String) : String :=
  log.palette.paint .timestamp log.clock ++ " " ++ log.palette.paint role text

def info (role : Role) (text : String) : List String :=
  if log.quiet then [] else [log.stamped role text]

def statistic (label value : String) : List String :=
  if log.quiet then []
  else
    ["            " ++ log.palette.paint .label label ++ " " ++ log.palette.paint .value value]

def detail (label value : String) : List String :=
  if log.verbose then log.statistic label value else []

def missingModule (module : Names.ModulePath) : List String :=
  log.info .warning s!"Module `{module.text}` has no source file; skipping"

def statistics (statistics : Statistics) : List String :=
  log.statistic "Candidates scanned:" (toString statistics.candidates) ++
    log.detail "" s!"{statistics.unmarked} not marked" ++
    log.detail "" s!"{statistics.empty} without serializable fields" ++
    log.statistic "Structs generated:" (toString statistics.generated) ++
    log.statistic "" s!"{statistics.withEquality} with equality" ++
    log.statistic "Fields serialized:" (toString statistics.fieldsSerialized) ++
    log.statistic "Fields excluded:" (toString statistics.fieldsExcluded) ++
    log.detail "" s!"{statistics.referenceFields} reference types" ++
    log.detail "" s!"{statistics.unresolvedFields} unresolved types" ++
    (if statistics.rejected > 0 then
      log.statistic "Rejected:" (toString statistics.rejected) else []) ++
    if statistics.errors > 0 ∨ statistics.warnings > 0 then
      log.statistic "Diagnostics:"
        s!"{statistics.errors} errors, {statistics.warnings} warnings"
    else []

def changes (check : Bool) (changes : OutputChanges) : List String :=
  let line (role : Role) (verb : String) (file : FilePath) : String :=
    "              " ++ log.palette.paint role verb ++ " " ++ file.text
  if log.verbose then
    changes.written.map (line .accent (if check then "stale" else "wrote")) ++
      changes.removed.map (line .warning "removed")
  else []

def success (check : Bool) (changes : OutputChanges) : List String :=
  let message :=
    if check then "Generated files are up to date"
    else
      s!"Updated {changes.written.length} files, {changes.unchanged.length} unchanged, " ++
        s!"{changes.removed.length} removed"
  if log.quiet then [] else ["", log.stamped .success message]

def diagnostic (format : MessageFormat) (diagnostic : Diagnostic) : List String :=
  match format with
  | .json => [diagnostic.json]
  | .human =>
    let role := if diagnostic.isError then Role.error else .warning
    [log.palette.paintBold role diagnostic.head ++ ": " ++ diagnostic.message,
      "  " ++ log.palette.paint .accent "-->" ++ " " ++
        log.palette.paint .timestamp diagnostic.location.text]

end Log

/-! ## Commands -/

namespace GenerateOptions

variable (options : GenerateOptions)

/-- Compares the output directory with what is generated, or brings it up to date. -/
def update (tree : FileTree) (fragments : List Fragment) :
    Except OutputError OutputChanges × FileTree :=
  if options.check then (Output.diff tree options.output fragments, tree)
  else Output.sync tree options.output fragments

/-- What is wrong after the files have been compared or written. -/
def finalError? (output : Generation.Output) (changes : OutputChanges) : Option CommandError :=
  if output.hasErrors then some (.rejected output.statistics.errors)
  else if options.check && !changes.isClean then some (.outOfDate options.output)
  else none

/-- Generates for a package that has been read. Diagnostics are written even if nothing else is. -/
def runLoaded (log : Log) (tree : FileTree) (package : LoadedPackage) : RunResult :=
  let lines := package.missing.flatMap log.missingModule ++
    log.info .primary "Generating serialization impls..."
  match generate package.compilation with
  | .error error => ⟨some (.package (.fragment error)), lines, [], tree⟩
  | .ok output =>
    let errorLines := output.diagnostics.flatMap (log.diagnostic options.messageFormat)
    let lines := lines ++ log.statistics output.statistics ++
      if options.check then [] else log.info .primary s!"Writing to: {options.output}"
    match options.update tree output.files with
    | (.error error, tree) => ⟨some (.package (.output error)), lines, errorLines, tree⟩
    | (.ok changes, tree) =>
      let lines := lines ++ log.changes options.check changes
      match options.finalError? output changes with
      | some error => ⟨some error, lines, errorLines, tree⟩
      | none => ⟨none, lines ++ log.success options.check changes, errorLines, tree⟩

def run (palette : Palette) (clock : String) (tree : FileTree) : RunResult :=
  if options.verbose && options.quiet then ⟨some .verboseAndQuiet, [], [], tree⟩
  else
    let log : Log := ⟨palette, clock, options.verbose, options.quiet⟩
    match options.package.findRoot tree with
    | .error error => ⟨some (.package (.source error)), [], [], tree⟩
    | .ok root =>
      let lines := log.info .primary s!"Loading crate from: {root}"
      match LoadedPackage.read tree options.package.manifestFile root with
      | .error error => ⟨some (.package error), lines, [], tree⟩
      | .ok package =>
        let result := options.runLoaded log tree package
        { result with lines := lines ++ result.lines }

end GenerateOptions

namespace PackageOptions

def reportCells (report : Report) : List String :=
  let fields := if report.outcome.isGenerated then toString report.outcome.serialized else "-"
  let equality := match report.outcome.equality? with
    | some true => "yes"
    | some false => "no"
    | none => "-"
  [report.typePath, report.location.text, report.outcome.statusText, fields, equality]

def candidateTable (output : Generation.Output) : Table where
  titles := ["TYPE", "LOCATION", "STATUS", "FIELDS", "EQUALITY"]
  alignments := [.left, .left, .left, .right, .left]
  rows := output.reports.map reportCells

def listCandidates (options : PackageOptions) (width : Nat) (tree : FileTree) : RunResult :=
  let output : Except PackageError Generation.Output := do
    let root ← (options.findRoot tree).mapError .source
    let package ← LoadedPackage.read tree options.manifestFile root
    (generate package.compilation).mapError .fragment
  match output with
  | .error error => ⟨some (.package error), [], [], tree⟩
  | .ok output => ⟨none, (candidateTable output).lines width, [], tree⟩

end PackageOptions

def Invocation.run (invocation : Invocation) (terminal : Terminal) (tree : FileTree) : RunResult :=
  match invocation.action with
  | .listCandidates package => package.listCandidates terminal.width tree
  | .generate options =>
    options.run (terminal.palette invocation.color invocation.theme) terminal.clock tree

end Wireform.Console
