namespace Wireform.Console

/-! # Arguments

Command lines: commands with subcommands and switches, and how arguments are read as one of them.
A switch with a value takes the rest of its argument, or else the next argument, as long as that is
no switch. -/

inductive SwitchKind where
  /-- The switch is there or not. -/
  | flag
  /-- One of these values follows. -/
  | choice (values : List String)
  /-- A path follows, which cannot be empty. -/
  | path
  | help
  | version
  deriving DecidableEq, Repr, Inhabited

structure Switch where
  long : String
  short : Option Char
  kind : SwitchKind
  deriving DecidableEq, Repr, Inhabited

/-- A command. One with subcommands needs one of them. -/
inductive Command where
  | mk (name : String) (switches : List Switch) (required : List String)
      (subcommands : List Command)

inductive UsageError where
  | helpRequested
  | versionRequested
  /-- A command without any argument that needs a subcommand shows its help. -/
  | nothingGiven
  | missingSubcommand
  | missingSwitch
  | unknownArgument
  | unknownSubcommand
  | invalidValue
  /-- A switch is given twice. -/
  | repeatedSwitch
  /-- A flag is given a value. -/
  | unexpectedValue
  deriving DecidableEq, Repr, Inhabited

/-- The exit code after a usage error. To ask for help is none. -/
def UsageError.exitCode : UsageError → Nat
  | .helpRequested => 0
  | .versionRequested => 0
  | _ => 2

/-- A command as it was given: its switches with their values, in order. -/
structure GivenCommand where
  name : String
  values : List (String × String)
  deriving DecidableEq, Repr, Inhabited

namespace Command

def name : Command → String
  | .mk name _ _ _ => name

def switches : Command → List Switch
  | .mk _ switches _ _ => switches

def required : Command → List String
  | .mk _ _ required _ => required

def subcommands : Command → List Command
  | .mk _ _ _ subcommands => subcommands

def long? (command : Command) (name : String) : Option Switch :=
  command.switches.find? (·.long = name)

def short? (command : Command) (letter : Char) : Option Switch :=
  command.switches.find? (·.short = some letter)

def subcommand? (command : Command) (name : String) : Option Command :=
  command.subcommands.find? (·.name = name)

end Command

/-- A switch that waits for its value to be checked, or for the value itself. -/
structure Waiting where
  switch : Switch
  value : Option String
  deriving DecidableEq, Repr, Inhabited

structure Reading where
  values : List (String × String)
  waiting : Option Waiting
  deriving DecidableEq, Repr, Inhabited

namespace Reading

def start : Reading := ⟨[], none⟩

/-- Whether the next argument is a switch's value, unless it is a switch itself. -/
def expectsValue (reading : Reading) : Bool :=
  reading.waiting.any fun waiting => waiting.value.isNone

def add (reading : Reading) (name value : String) : Except UsageError Reading :=
  if reading.values.any (·.1 = name) then .error .repeatedSwitch
  else .ok { reading with values := reading.values ++ [(name, value)] }

def isValid (kind : SwitchKind) (value : String) : Bool :=
  match kind with
  | .choice values => values.contains value
  | .path => !value.isEmpty
  | _ => true

/-- Adds a switch with its value. That it is given twice is noticed before the value is looked
at. -/
def assign (reading : Reading) (switch : Switch) (value : String) : Except UsageError Reading := do
  let reading ← reading.add switch.long value
  if isValid switch.kind value then return reading else throw .invalidValue

def settle (reading : Reading) : Except UsageError Reading :=
  match reading.waiting with
  | none => .ok reading
  | some ⟨_, none⟩ => .error .invalidValue
  | some ⟨switch, some value⟩ => { reading with waiting := none }.assign switch value

def take (reading : Reading) (switch : Switch) (attached : Option String) :
    Except UsageError Reading := do
  match switch.kind, attached with
  | .flag, none => (← reading.settle).add switch.long "true"
  | .help, none =>
    discard reading.settle
    throw .helpRequested
  | .version, none =>
    discard reading.settle
    throw .versionRequested
  | .flag, some _ => throw .unexpectedValue
  | .help, some _ => throw .unexpectedValue
  | .version, some _ => throw .unexpectedValue
  | _, none => return { ← reading.settle with waiting := some ⟨switch, none⟩ }
  | _, some value => (← reading.settle).assign switch value

def takeLong (command : Command) (reading : Reading) (letters : List Char) :
    Except UsageError Reading :=
  let name := String.ofList (letters.takeWhile (· ≠ '='))
  let attached := match letters.dropWhile (· ≠ '=') with
    | _ :: value => some (String.ofList value)
    | [] => none
  match command.long? name with
  | some switch => reading.take switch attached
  | none => .error .unknownArgument

/-- Whether a switch has no value, so that more letters can follow it. -/
def isBare : SwitchKind → Bool
  | .choice _ => false
  | .path => false
  | _ => true

/-- Reads an argument with one hyphen in front: letters of flags, up to the first switch that has a
value, which is the rest. -/
def takeShort (command : Command) : Reading → List Char → Except UsageError Reading
  | reading, [] => .ok reading
  | reading, letter :: rest =>
    match command.short? letter with
    | none => .error .unknownArgument
    | some switch =>
      if isBare switch.kind then do takeShort command (← reading.take switch none) rest
      else
        match rest with
        | [] => reading.take switch none
        | '=' :: value => reading.take switch (some (String.ofList value))
        | value => reading.take switch (some (String.ofList value))

end Reading

namespace Command

def strayArgument (command : Command) (escaped : Bool) (argument : String) : UsageError :=
  if escaped && (command.subcommand? argument).isSome then .unknownArgument
  else if command.subcommands.isEmpty then .unknownArgument
  else .unknownSubcommand

def helpFor (command : Command) : List String → UsageError
  | [] => .helpRequested
  | name :: rest =>
    match command.subcommand? name with
    | some found => helpFor found rest
    | none => .unknownSubcommand

/-- Checks what has been read of a command: at its end, or behind its subcommand. -/
def check (command : Command) (reading : Reading) (continued : Bool) :
    Except UsageError GivenCommand := do
  let reading ← reading.settle
  if !continued && !command.subcommands.isEmpty then
    throw (if reading.values.isEmpty then .nothingGiven else .missingSubcommand)
  if command.required.all fun name => reading.values.any (·.1 = name) then
    return ⟨command.name, reading.values⟩
  else throw .missingSwitch

/-- Reads arguments as a command and its subcommands, outermost first. Behind two hyphens alone
there are no more switches. -/
def read (command : Command) (reading : Reading) (escaped : Bool) :
    List String → Except UsageError (List GivenCommand)
  | [] => do return [← command.check reading false]
  | argument :: rest => do
    if escaped then throw (command.strayArgument true argument)
    let subcommand := if reading.expectsValue then none else command.subcommand? argument
    match subcommand, argument.toList with
    | some subcommand, _ =>
      if subcommand.name = "help" then throw (command.helpFor rest)
      let inner ← subcommand.read .start false rest
      return (← command.check reading true) :: inner
    | none, ['-', '-'] => command.read reading true rest
    | none, '-' :: '-' :: letters => command.read (← reading.takeLong command letters) false rest
    | none, '-' :: first :: letters =>
      command.read (← reading.takeShort command (first :: letters)) false rest
    | none, _ =>
      match reading.waiting with
      | some ⟨switch, none⟩ =>
        command.read { reading with waiting := some ⟨switch, some argument⟩ } false rest
      | _ => throw (command.strayArgument false argument)

def parse (command : Command) (arguments : List String) :
    Except UsageError (List GivenCommand) :=
  command.read .start false arguments

end Command

end Wireform.Console
