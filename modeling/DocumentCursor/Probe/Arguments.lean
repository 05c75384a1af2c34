import DocumentCursor.Text.Integer
import DocumentCursor.Text.Terminal

/-! # The command line of the probe

Arguments are read from the left. A switch is long, with its value after an equals sign or in the
next argument, or short, with its value in the same argument or the next one; short switches that
take no value may stand together. A value in the next argument does not begin with a hyphen, and it
is looked at when the next switch or the end is met. After two hyphens no switch can follow, and
nothing else can either. What a terminal obeys is left out of what an error shows of the arguments.

Main definitions:

* `Switch`, `Arguments`, `UsageError` and `Refusal`;
* `Arguments.read`.
-/

namespace DocumentCursor.Probe

open Text

/-- What can stand on the command line. Only `host` and `port` have a value. -/
inductive Switch where
  | host
  | port
  | async
  | help
  | version
  deriving DecidableEq, Repr

namespace Switch

def all : List Switch := [host, port, async, help, version]

/-- The long name, which stands behind two hyphens. -/
def long : Switch → String
  | host => "host"
  | port => "port"
  | async => "async"
  | help => "help"
  | version => "version"

/-- The short name, which stands behind one hyphen. A host has none. -/
def short? : Switch → Option Char
  | port => some 'p'
  | help => some 'h'
  | version => some 'V'
  | _ => none

/-- What the value is called, if there is one. -/
def valueName? : Switch → Option String
  | host => some "HOST"
  | port => some "PORT"
  | _ => none

/-- How a switch is shown to people. -/
def text (switch : Switch) : String :=
  "--" ++ switch.long ++ match switch.valueName? with
    | some name => " <" ++ name ++ ">"
    | none => ""

/-- The switch of a long name, which must be the whole name. -/
def ofLong? (name : List Char) : Option Switch := all.find? fun switch => switch.long.toList = name

/-- The switch of a short name. -/
def ofShort? (name : Char) : Option Switch := all.find? fun switch => switch.short? = some name

end Switch

/-- Why a command line is refused: the first thing that is wrong with it. -/
inductive UsageError where
  | unexpectedArgument (argument : List Char)
  | unexpectedValue (value : List Char) (switch : Switch)
  | missingValue (switch : Switch)
  | repeated (switch : Switch)
  | invalidValue (value : List Char) (switch : Switch) (reason : String)
  deriving DecidableEq, Repr

/-- An argument, or a part of one, as an error shows it. -/
def quoted (argument : List Char) : String :=
  "'" ++ String.ofList (Terminal.visible argument) ++ "'"

/-- The text that reports an error. -/
def UsageError.message : UsageError → String
  | unexpectedArgument argument => "unexpected argument " ++ quoted argument ++ " found"
  | unexpectedValue value switch =>
    "unexpected value " ++ quoted value ++ " for '" ++ switch.text ++
      "' found; no more were expected"
  | missingValue switch => "a value is required for '" ++ switch.text ++ "' but none was supplied"
  | repeated switch => "the argument '" ++ switch.text ++ "' cannot be used multiple times"
  | invalidValue value switch reason =>
    "invalid value " ++ quoted value ++ " for '" ++ switch.text ++ "': " ++ reason

/-- Why there is nothing to probe: help or the version is asked for, or the command line is
refused. -/
inductive Refusal where
  | help
  | version
  | misuse (error : UsageError)
  deriving DecidableEq, Repr

/-- What the command line asks for. What it does not say is left to the settings. -/
structure Arguments where
  host : Option String := none
  port : Option UInt16 := none
  async : Bool := false
  deriving DecidableEq, Repr, Inhabited

/-- The largest port. -/
def maxPort : Int := 65535

/-- Reads the value of a port: an integer from `0` to `maxPort`. -/
def readPort (value : List Char) : Except UsageError UInt16 :=
  match Integer.read value with
  | .error error => .error (.invalidValue value .port error.message)
  | .ok number =>
    if 0 ≤ number ∧ number ≤ maxPort then .ok (UInt16.ofNat number.toNat)
    else
      .error (.invalidValue value .port (toString number ++ " is not in 0..=" ++ toString maxPort))

namespace Arguments

/-- Takes a switch with its value, if it has one. A switch is taken once. -/
def accept (switch : Switch) (value : Option (List Char)) (arguments : Arguments) :
    Except Refusal Arguments :=
  let misuse := fun (error : UsageError) => Except.error (Refusal.misuse error)
  match switch, value with
  | .help, _ => .error .help
  | .version, _ => .error .version
  | .async, _ =>
    if arguments.async then misuse (.repeated .async) else .ok { arguments with async := true }
  | .host, none | .port, none => misuse (.missingValue switch)
  | .host, some value =>
    if arguments.host.isSome then misuse (.repeated .host)
    else .ok { arguments with host := some (String.ofList value) }
  | .port, some value =>
    if arguments.port.isSome then misuse (.repeated .port)
    else match readPort value with
      | .error error => misuse error
      | .ok port => .ok { arguments with port := some port }

end Arguments

/-- How far a command line was read. -/
structure Progress where
  arguments : Arguments := {}
  /-- A switch whose value stands in an argument of its own, with the value once it was met. -/
  pending : Option (Switch × Option (List Char)) := none

namespace Progress

/-- Takes the switch whose value was looked for, which must have been met. -/
def settle (progress : Progress) : Except Refusal Arguments :=
  match progress.pending with
  | none => .ok progress.arguments
  | some (switch, value) => progress.arguments.accept switch value

/-- Takes a switch that stands with its value, or has none, after the one whose value was looked
for. -/
def take (switch : Switch) (value : Option (List Char)) (progress : Progress) :
    Except Refusal Progress := do
  return { arguments := ← (← progress.settle).accept switch value }

/-- Takes a switch whose value is to follow: it is `pending` until the next argument. -/
def await (switch : Switch) (progress : Progress) : Except Refusal Progress := do
  return { arguments := ← progress.settle, pending := some (switch, none) }

/-- Refuses an argument. -/
def refuse {β : Type} (error : UsageError) : Except Refusal β := .error (.misuse error)

/-- Takes short switches that stand together. What follows the first of them with a value is that
value. -/
def takeShort : List Char → Progress → Except Refusal Progress
  | [], progress => .ok progress
  | name :: rest, progress =>
    match Switch.ofShort? name with
    | none => refuse (.unexpectedArgument ['-', name])
    | some switch =>
      if switch.valueName?.isNone then do takeShort rest (← progress.take switch none)
      else match rest with
        | [] => progress.await switch
        | '=' :: value => progress.take switch (some value)
        | value => progress.take switch (some value)

/-- Takes a long switch, with what stands after the equals sign. A switch without a value must have
none there. -/
def takeLong (name : List Char) (value : Option (List Char)) (progress : Progress) :
    Except Refusal Progress :=
  match Switch.ofLong? name with
  | none => refuse (.unexpectedArgument ('-' :: '-' :: name))
  | some switch =>
    match switch.valueName?, value with
    | some _, none => progress.await switch
    | some _, some value => progress.take switch (some value)
    | none, some value => refuse (.unexpectedValue value switch)
    | none, none => progress.take switch none

/-- Takes an argument that is no switch, which must be a value that was looked for. -/
def takeValue (value : List Char) (progress : Progress) : Except Refusal Progress :=
  match progress.pending with
  | some (switch, none) => .ok { progress with pending := some (switch, some value) }
  | _ => refuse (.unexpectedArgument value)

/-- Takes an argument: a long switch, short ones, or a value. A single hyphen is a value. -/
def takeArgument (argument : List Char) (progress : Progress) : Except Refusal Progress :=
  match argument with
  | '-' :: '-' :: text =>
    let name := text.takeWhile (· ≠ '=')
    progress.takeLong name (if name = text then none else some (text.drop (name.length + 1)))
  | '-' :: name :: names => progress.takeShort (name :: names)
  | value => progress.takeValue value

/-- Takes the arguments that are left. Nothing may follow `--`. -/
def takeAll : List (List Char) → Progress → Except Refusal Arguments
  | [], progress => progress.settle
  | ['-', '-'] :: [], progress => progress.settle
  | ['-', '-'] :: argument :: _, _ => refuse (.unexpectedArgument argument)
  | argument :: arguments, progress => do takeAll arguments (← progress.takeArgument argument)

end Progress

/-- Reads a command line, from the first argument to the last. -/
def Arguments.read (arguments : List String) : Except Refusal Arguments :=
  Progress.takeAll (arguments.map String.toList) {}

/-- Nothing is asked for by an empty command line: `read [] = .ok {}`. -/
@[simp] theorem Arguments.read_nil : Arguments.read [] = .ok {} := rfl

end DocumentCursor.Probe
