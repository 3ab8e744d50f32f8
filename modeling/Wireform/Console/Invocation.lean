import Wireform.Console.Arguments
import Wireform.Files.Path

/-! # Invocations

The command line of the generator: what can be asked of it, and with which options. -/

namespace Wireform.Console

open Files

inductive ColorMode where
  | always
  | auto
  | never
  deriving DecidableEq, Repr, Inhabited

inductive ThemeMode where
  | dark
  | light
  | auto
  deriving DecidableEq, Repr, Inhabited

inductive MessageFormat where
  | human
  /-- One JSON object for each diagnostic. -/
  | json
  deriving DecidableEq, Repr, Inhabited

structure PackageOptions where
  manifestFile : FilePath
  /-- The root of the crate, if it is not one of the usual ones. -/
  root : Option FilePath
  deriving DecidableEq, Repr, Inhabited

structure GenerateOptions where
  package : PackageOptions
  output : FilePath
  /-- Whether files are only compared with what would be written. -/
  check : Bool
  messageFormat : MessageFormat
  verbose : Bool
  quiet : Bool
  deriving DecidableEq, Repr, Inhabited

inductive Action where
  | listCandidates (package : PackageOptions)
  | generate (options : GenerateOptions)
  deriving DecidableEq, Repr, Inhabited

structure Invocation where
  color : ColorMode
  theme : ThemeMode
  action : Action
  deriving DecidableEq, Repr, Inhabited

/-! ## The command line -/

def colorSwitch : Switch := ⟨"color", none, .choice ["always", "auto", "never"]⟩

def themeSwitch : Switch := ⟨"theme", none, .choice ["dark", "light", "auto"]⟩

def helpSwitch : Switch := ⟨"help", some 'h', .help⟩

def commonSwitches : List Switch := [colorSwitch, themeSwitch, helpSwitch]

def packageSwitches : List Switch :=
  [⟨"manifest-path", none, .path⟩, ⟨"input", some 'i', .path⟩]

def helpCommand : Command := .mk "help" [] [] []

def generateCommand : Command :=
  .mk "generate"
    (packageSwitches ++
      [⟨"output", some 'o', .path⟩, ⟨"check", none, .flag⟩,
        ⟨"message-format", none, .choice ["human", "json"]⟩, ⟨"verbose", some 'v', .flag⟩,
        ⟨"quiet", some 'q', .flag⟩] ++ commonSwitches)
    ["output"] []

def candidatesCommand : Command := .mk "candidates" (packageSwitches ++ commonSwitches) [] []

def listCommand : Command := .mk "list" commonSwitches [] [candidatesCommand, helpCommand]

def program : Command :=
  .mk "autoser-gen" (commonSwitches ++ [⟨"version", some 'V', .version⟩]) []
    [listCommand, generateCommand, helpCommand]

/-! ## Reading -/

namespace Invocation

/-- The value of a switch that every command has: the innermost one that was given. -/
def common? (given : List GivenCommand) (name : String) : Option String :=
  given.reverse.findSome? fun command => command.values.lookup name

def colorOf : Option String → ColorMode
  | some "always" => .always
  | some "never" => .never
  | _ => .auto

def themeOf : Option String → ThemeMode
  | some "dark" => .dark
  | some "light" => .light
  | _ => .auto

def packageOf (values : List (String × String)) : PackageOptions :=
  ⟨.ofText ((values.lookup "manifest-path").getD "Cargo.toml"),
    (values.lookup "input").map FilePath.ofText⟩

def generateOf (values : List (String × String)) : GenerateOptions where
  package := packageOf values
  output := .ofText ((values.lookup "output").getD "")
  check := (values.lookup "check").isSome
  messageFormat := if values.lookup "message-format" = some "json" then .json else .human
  verbose := (values.lookup "verbose").isSome
  quiet := (values.lookup "quiet").isSome

def actionOf (given : List GivenCommand) : Action :=
  match given.getLast? with
  | some ⟨"generate", values⟩ => .generate (generateOf values)
  | some ⟨_, values⟩ => .listCandidates (packageOf values)
  | none => .listCandidates (packageOf [])

def parse (arguments : List String) : Except UsageError Invocation := do
  let given ← program.parse arguments
  return ⟨colorOf (common? given "color"), themeOf (common? given "theme"), actionOf given⟩

end Invocation

end Wireform.Console
