import Wireform.Console.Run
import Std.Time

/-! # The program

The command line program. It reads the directories that a command line names, and the working
directory, as a tree, runs on that tree, writes the lines of the run, and makes the files what the
run has left in its tree. -/

namespace Wireform.Program

open Console Files

/-! ## Files on disk -/

/-- What a file on disk holds. Bytes that are no text are never looked at, so they are left out. -/
def contentOf (bytes : ByteArray) : Content :=
  match String.fromUTF8? bytes with
  | some value => .text value
  | none => .raw []

/-- The entries in a directory on disk and below it. Links to directories are not followed. -/
partial def readEntries (above : Place) (found : Array IO.FS.DirEntry)
    (known : Array (Place × Entry)) : IO (Array (Place × Entry)) :=
  found.foldlM (fun known item => do
    let place := above ++ [item.fileName]
    match (← item.path.symlinkMetadata).type with
    | .dir => readEntries place (← item.path.readDir) (known.push (place, .directory))
    | _ =>
      match ← (IO.FS.readBinFile item.path).toBaseIO with
      | .ok bytes => return known.push (place, .file (contentOf bytes))
      | .error _ => return known) known

def placeOf (text : String) : Place := (FilePath.ofText text).pieces.filter (· ≠ "")

def textAt (place : Place) : String := "/" ++ "/".intercalate place

/-- The working directory, the directories that are named, and what is below and above them. A
directory that is not there is left out, and one below another is read with that one. -/
def readTree (named : List FilePath) : IO FileTree := do
  let here := placeOf (← IO.currentDir).toString
  let places ← named.filterMapM fun path => do
    match ← (IO.FS.realPath (if path = .empty then "." else path.text)).toBaseIO with
    | .ok found => return some (placeOf found.toString)
    | .error _ => return none
  let places := (here :: places).eraseDups
  let tops := places.filter fun place =>
    !places.any fun other => other.isPrefixOf place && other ≠ place
  let above := (tops.flatMap fun top => (List.range top.length).map fun depth =>
    (top.take (depth + 1), Entry.directory)).eraseDups
  let entries ← tops.foldlM (fun known top => do
    readEntries top (← (← IO.FS.realPath (textAt top)).readDir) known) above.toArray
  return ⟨entries.toList, here⟩

/-- Makes the files on disk, which are those of one tree, those of another. -/
def writeTree (before after : FileTree) : IO Unit := do
  for (place, entry) in after.entries do
    unless before.entry? place = some entry do
      let path := textAt place
      match entry with
      | .directory => IO.FS.createDirAll path
      | .file (.text value) => IO.FS.writeFile path value
      | .file (.raw bytes) => IO.FS.writeBinFile path ⟨bytes.toArray⟩
  for (place, _) in before.entries do
    if (after.entry? place).isNone then IO.FS.removeFile (textAt place)

/-! ## Surroundings -/

def twoDigits (number : Int) : String :=
  if number < 10 then s!"0{number}" else s!"{number}"

def clockText : IO String := do
  let time ← Std.Time.PlainTime.now
  return s!"[{twoDigits time.hour.val}:{twoDigits time.minute.val}:{twoDigits time.second.val}]"

/-- The terminal that the program writes to. Where its width is not known it has eighty columns. -/
def readTerminal : IO Terminal := do
  let plain := (← IO.getEnv "NO_COLOR").isSome
  return ⟨!plain && (← (← IO.getStdout).isTty), ← IO.getEnv "COLORFGBG", 80, ← clockText⟩

def usageText : String :=
  "Usage: autoser-gen [--color MODE] [--theme THEME] <COMMAND>\n\n" ++
    "Commands:\n" ++
    "  list candidates [--manifest-path FILE] [-i FILE]\n" ++
    "  generate -o DIR [--manifest-path FILE] [-i FILE] [--check]\n" ++
    "           [--message-format human|json] [-v] [-q]"

def namedDirectories (invocation : Invocation) : List FilePath :=
  let ofPackage (options : PackageOptions) :=
    options.directory :: (options.root.map FilePath.directory).toList
  match invocation.action with
  | .listCandidates options => ofPackage options
  | .generate options => options.output :: ofPackage options.package

def run (invocation : Invocation) : IO UInt32 := do
  let before ← readTree (namedDirectories invocation)
  let result := invocation.run (← readTerminal) before
  result.lines.forM IO.println
  result.errorLines.forM IO.eprintln
  writeTree before result.tree
  match result.error with
  | some error =>
    IO.eprintln s!"Error: {error.message}"
    return 1
  | none => return 0

def runArguments (arguments : List String) : IO UInt32 :=
  match Invocation.parse arguments with
  | .ok invocation => run invocation
  | .error error => do
    IO.eprintln usageText
    return error.exitCode.toUInt32

end Wireform.Program

def main (arguments : List String) : IO UInt32 := Wireform.Program.runArguments arguments
