import Fingerprint.Simulator.Machine

/-!
# The simulator's console

The simulator reads commands and prints what happens. It is started by
arguments and environment variables, which may be refused. The input arrives
piece by piece, as it is typed or piped in; pieces need not end where lines
end. A line is carried out when it is complete, or when the input ends.

* `Launch.configure`: the configuration, or why the simulator does not start;
* `Console`: a simulator that is running;
* `Simulator.run`: a whole run, with the output between the reads.
-/

namespace Fingerprint

namespace Simulator

/-- What tells how the simulator is used. -/
def usage : List Bytes :=
  ["Usage: fpc-sim [--data-root=<dir>]",
   "Commands read from stdin:",
   "  enroll <subject>           start an enrollment",
   "  auth <subject>             start an authentication",
   "  remove <subject> <id>      remove a template (0 = all)",
   "  cancel-enroll | cancel-auth",
   "  touch <id>                 sensor reports a match (0 = no match)",
   "  progress <id> <remaining>  sensor reports enrollment progress",
   "  error <code>               sensor reports an error",
   "  removed <id> <subject>     sensor reports a removal",
   "  kill-driver | kill-caller",
   "  user <subject>             switch the active subject",
   "  list <subject>             list enrolled templates",
   "  quit"]

/-! ## Launching -/

/-- Why the simulator does not start. -/
inductive Refusal where
  /-- An argument is none that it knows. -/
  | arguments
  | configuration (error : CodedError)

namespace Refusal

/-- The exit code of a simulator that does not start. -/
def exitCode : Refusal → Nat
  | arguments => 64
  | configuration _ => 78

/-- What a simulator says that does not start. -/
def lines : Refusal → List Bytes
  | arguments => usage
  | configuration error =>
    [("Configuration error: " : Bytes) ++ error.message ++
      error.context.flatMap fun part => (" (" : Bytes) ++ part ++ (")" : Bytes)]

end Refusal

/-- The option that sets the data root, up to its value. -/
def dataRootOption : Bytes := "--data-root="

/-- The configuration with the arguments applied, each of which has to set the data root
    to something. -/
def applyArguments (configuration : Configuration) : List Bytes → Except Refusal Configuration
  | [] => .ok configuration
  | argument :: rest =>
    if dataRootOption.isPrefixOf argument && argument.length > dataRootOption.length then
      applyArguments { configuration with dataRoot := argument.drop dataRootOption.length } rest
    else .error .arguments

/-- The configuration that the environment and the arguments ask for. -/
def configure (environment : Environment) (arguments : List Bytes) : Except Refusal Configuration :=
  match Configuration.overlay environment {} with
  | .error error => .error (.configuration error)
  | .ok configuration => applyArguments configuration arguments

/-! ## The console -/

/-- A simulator that is running. -/
structure Console where
  configuration : Configuration
  system : System Machine Empty
  /-- What has arrived of a line that is not complete. -/
  unfinished : Bytes := []
  /-- Whether it takes commands. -/
  isOpen : Bool := true
  /-- The lines on the error output so far. -/
  errors : List Bytes := []

namespace Console

/-- Lets something happen on the machine, and then the queue run empty. -/
def act (console : Console) (action : Act Unit) : Console :=
  let host := host console.configuration
  { console with system := (((do action; host.work) : Act Unit).run console.system).2 }

/-- The simulator as it starts. -/
def start (configuration : Configuration) (machine : Machine) : Console :=
  let console : Console := { configuration, system := { world := machine } }
  console.act ((host configuration).startService 0)

/-- Carries out a line, unless the simulator has ended. -/
def enter (console : Console) (line : Bytes) : Console :=
  if !console.isOpen then console
  else
    match Command.ofLine line with
    | .quit => { console with isOpen := false }
    | .help => { console with errors := console.errors ++ usage }
    | command => console.act (executeOrSay (host console.configuration) command)

/-- Splits a text at its newlines: the complete lines, and what follows the last newline. -/
def splitLines (text : Bytes) : List Bytes × Bytes :=
  let pieces := text.splitOnP (· == 0x0a)
  (pieces.dropLast, pieces.getLastD [])

/-- Takes a piece of the input. -/
def receive (console : Console) (piece : Bytes) : Console :=
  let (lines, unfinished) := splitLines (console.unfinished ++ piece)
  lines.foldl enter { console with unfinished }

/-- Takes the end of the input, which completes the last line. -/
def close (console : Console) : Console :=
  let console := if console.unfinished.isEmpty then console else console.enter console.unfinished
  { console with
    unfinished := []
    isOpen := false
    system := ((Host.stopService (κ := Empty)).run console.system).2 }

/-- The lines printed since the output was last taken. -/
def takeOutput (console : Console) : List Bytes × Console :=
  let machine := console.system.world
  (machine.printed.flatMap (·.splitOnP (· == 0x0a)),
    { console with system := { console.system with world := { machine with printed := [] } } })

/-- The lines written on the error output since they were last taken. -/
def takeErrors (console : Console) : List Bytes × Console := (console.errors, { console with errors := [] })

/-- The events published since they were last taken. -/
def takeEvents (console : Console) : List Event × Console :=
  let machine := console.system.world
  (machine.events,
    { console with system := { console.system with world := { machine with events := [] } } })

/-- Moves the clock of the queue to a time in milliseconds, which timers may have waited
    for. -/
def advanceTo (console : Console) (now : Int) : Console :=
  { console with system := { console.system with clock := now } }.act (pure ())

/-- Lets a directory be refused for the reason given, or no more without one. -/
def refuse (console : Console) (path : Bytes) (reason : Option Bytes) : Console :=
  let machine := console.system.world
  let others := machine.refused.filter (·.1 != path)
  let refused := match reason with
    | some reason => (path, reason) :: others
    | none => others
  { console with system := { console.system with world := { machine with refused } } }

/-- Where the templates of the subject are kept that a line makes active, if it does. -/
def directoryFor (console : Console) (line : Bytes) : Option Bytes :=
  match Command.ofLine line with
  | .switchTo subject => some ((host console.configuration).storagePath subject)
  | _ => none

end Console

/-! ## Whole runs -/

/-- What a run has left behind. -/
structure Transcript where
  exitCode : Nat
  /-- The lines printed before the first read, between the first and the second, and so on,
      and after the last. -/
  output : List (List Bytes)
  errors : List Bytes

/-- The output between the reads of the pieces of input, from now to the end, and the
    lines on the error output. -/
def attend : Console → List Bytes → List (List Bytes) × List Bytes
  | console, [] =>
    let (printed, console) := console.takeOutput
    if !console.isOpen then ([printed], console.errors)
    else
      let (last, console) := console.close.takeOutput
      ([printed, last], console.errors)
  | console, piece :: rest =>
    let (printed, console) := console.takeOutput
    if !console.isOpen then ([printed], console.errors)
    else
      let (output, errors) := attend (console.receive piece) rest
      (printed :: output, errors)

/-- A whole run. -/
def run (environment : Environment) (arguments pieces : List Bytes) : Transcript :=
  match configure environment arguments with
  | .error refusal => ⟨refusal.exitCode, [[]], refusal.lines⟩
  | .ok configuration =>
    let (output, errors) := attend (.start configuration {}) pieces
    ⟨0, output, errors⟩

end Simulator

end Fingerprint
