import DocumentCursor.Probe.Arguments
import DocumentCursor.Probe.Log
import DocumentCursor.Settings.Load
import DocumentCursor.Stream.Endpoint

/-! # The probe

The probe opens a stream to the server that the settings name, reports what came of it and closes
the stream again. What the command line gives as host and as port is used instead of what the
settings say.

Main definitions:

* `Probe.settings` are the settings that a stream is opened with;
* `Probe.run` makes a `Report`.
-/

namespace DocumentCursor.Probe

open Net

/-- What an attempt at each candidate of an address comes to, if these are known. -/
abbrev Network := Address → Except SystemError (List (Except TransportError Stream.Line))

/-- A network in which nobody can be reached and no name is known. Literal addresses have candidates
all the same. -/
def outOfReach : Network := fun address => do
  let candidates ← address.socketAddresses fun _ _ => .error .networkUnreachable
  return candidates.map fun _ => .error (.system .networkUnreachable)

/-- What the probe leaves behind. -/
structure Report where
  exit : Nat
  output : List String := []
  errors : List String := []
  deriving DecidableEq, Repr

/-! ## Texts -/

/-- The name and the version. -/
def versionText : String := "docwire 0.1.0"

/-- What the probe is for and how it is called. -/
def helpLines : List String := [
  "Probe connectivity to a document database server",
  "",
  "Usage: docwire [OPTIONS]",
  "",
  "Options:",
  "      --host <HOST>  Server host (overrides configuration)",
  "  -p, --port <PORT>  Server port (overrides configuration)",
  "      --async        Use the runtime-driven stream instead of the blocking one",
  "  -h, --help         Print help",
  "  -V, --version      Print version"]

/-- What follows a usage error. -/
def hintLines : List String := ["", "For more information, try '--help'."]

/-- A time in milliseconds: from a second on in seconds, of which the fraction has no zeros at its
end. -/
def durationText (ms : Nat) : String :=
  if ms < 1000 then toString ms ++ "ms"
  else
    let digits := (toString (1000 + ms % 1000)).toList.drop 1
    let fraction := (digits.reverse.dropWhile (· = '0')).reverse
    toString (ms / 1000) ++ (if fraction = [] then "" else "." ++ String.ofList fraction) ++ "s"

/-- A time limit. -/
def limitText : Option UInt64 → String
  | some ms => "Some(" ++ durationText ms.toNat ++ ")"
  | none => "None"

/-! ## Running -/

/-- What the command line says lies over the settings: a host and a port, where it names them. -/
def Arguments.over (arguments : Arguments) (settings : Settings) : Settings :=
  { settings with
    host := arguments.host.getD settings.host
    port := arguments.port.getD settings.port }

/-- The settings that a stream is opened with: those that load, which are validated, and what the
command line says over them, which is not. -/
def settings (arguments : Arguments) (environment : Environment) (files : Files) :
    Except SettingsError Settings :=
  (Settings.load environment files).map arguments.over

/-- The lines that say what is to be probed. -/
def plan (settings : Settings) : List LogLine :=
  let line := fun (message : String) => LogLine.mk .info message
  [line ("Probing " ++ settings.address.text),
    line ("  Connect timeout: " ++ limitText settings.socket.connectTimeout?),
    line ("  Read timeout: " ++ limitText settings.socket.readTimeout?),
    line ("  TLS: " ++ if settings.tls.enabled then "enabled" else "disabled")]

/-- Opens a stream, and closes it again. Nothing is read or written. -/
def connect (async : Bool) (settings : Settings) (network : Network) : Except TransportError Unit :=
  let address := settings.address
  let setup : Stream.Setup := ⟨if async then .asynchronous else .blocking, address, settings.socket⟩
  ((Stream.Endpoint.fresh setup.mode).start setup (network address)).result

/-- Probes what the command line asks for. What is logged is filtered. The exit is `0` if a stream
could be opened, and `1` otherwise. -/
def probe (arguments : Arguments) (environment : Environment) (files : Files) (network : Network) :
    Report :=
  let filter := Filter.ofText (environment.get? filterName)
  let shown := fun (lines : List LogLine) => (lines.filter filter.shows).map LogLine.text
  let failed := fun (name : String) => ["Error: " ++ name]
  match settings arguments environment files with
  | .error error =>
    let lines := [LogLine.mk .error ("Failed to load config: " ++ error.message)]
    { exit := 1, output := shown lines, errors := failed error.name }
  | .ok settings =>
    let address := settings.address.text
    match connect arguments.async settings network with
    | .ok () =>
      { exit := 0, output := shown (plan settings ++ [⟨.info, "Connected to " ++ address⟩]) }
    | .error error =>
      let line := LogLine.mk .error ("Could not connect to " ++ address ++ ": " ++ error.message)
      { exit := 1, output := shown (plan settings ++ [line]), errors := failed error.name }

/-- Runs the program. A command line that is refused exits with `2`, before anything is loaded. -/
def run (arguments : List String) (environment : Environment) (files : Files) (network : Network) :
    Report :=
  match Arguments.read arguments with
  | .ok arguments => probe arguments environment files network
  | .error .help => { exit := 0, output := helpLines }
  | .error .version => { exit := 0, output := [versionText] }
  | .error (.misuse error) => { exit := 2, errors := ("error: " ++ error.message) :: hintLines }

end DocumentCursor.Probe
