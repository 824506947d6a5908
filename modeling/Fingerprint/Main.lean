import Fingerprint.AuditLog
import Fingerprint.Simulator.Console
import Std.Time.DateTime.Timestamp

/-!
# The command line

Runs the simulator on the standard streams of the process. Its directories and
its audit log are on the disk of the machine, and its clock is that of the
machine. Timers that have run out take effect when the next line is read.
-/

namespace Fingerprint

namespace CommandLine

/-- The text of a path. -/
def textOf (path : Bytes) : String := (String.fromUTF8? ⟨path.toArray⟩).getD ""

/-- Writes lines, each at once. -/
def putLines (stream : IO.FS.Stream) (lines : List Bytes) : IO Unit :=
  lines.forM fun line => do
    stream.write ⟨(line ++ [0x0a]).toArray⟩
    stream.flush

/-! ## The disk of the machine -/

/-- Why the machine has refused something. -/
def errno : IO.Error → Errno
  | .noFileOrDirectory .. => .noEntry
  | .permissionDenied .. => .denied
  | .resourceBusy .. => .busy
  | .alreadyExists .. => .exists
  | .inappropriateType .. => .notDirectory
  | .resourceExhausted .. => .noSpace
  | .unsupportedOperation .. => .readOnly
  | _ => .invalid

/-- Does something, and tells why it was refused. -/
def attempt (action : IO Unit) : IO (Option Errno) := do
  try
    action
    return none
  catch error => return some (errno error)

/-- What is at a path. -/
def status (path : Bytes) : IO (Except Errno FileStatus) := do
  try
    let found ← ((← IO.currentDir) / textOf path).metadata
    match found.type with
    | .file => return .ok (.regular found.byteSize.toNat)
    | .dir => return .ok .directory
    | _ => return .ok .special
  catch error =>
    match errno error with
    | .noEntry | .notDirectory => return .ok .absent
    | other => return .error other

/-- Opens the file at a path for writing at its end. -/
def openAppend (path : Bytes) : IO (Option IO.FS.Handle) := do
  try return some (← IO.FS.Handle.mk (textOf path) .append)
  catch _ => return none

/-- Writes at the end of an open file. -/
def append (file : IO.FS.Handle) (line : Bytes) : IO Bool := do
  try
    file.write ⟨line.toArray⟩
    file.flush
    return true
  catch _ => return false

/-- The disk of the machine. -/
def disk : Disk IO IO.FS.Handle where
  status := status
  createDirectories path := attempt (IO.FS.createDirAll (textOf path))
  rename source target := attempt (IO.FS.rename (textOf source) (textOf target))
  openAppend := openAppend
  append := append
  complain line := do putLines (← IO.getStderr) [line]

/-- Makes a directory at a path if there is nothing, and tells why that is refused. -/
def provideDirectory (path : Bytes) : IO (Option Bytes) := do
  match ← status path with
  | .ok found => if found.present then return none
  | .error _ => pure ()
  return (← disk.createDirectories path).map (·.message)

/-! ## Running -/

/-- The environment variables that are looked at. -/
def variableNames : List String :=
  ["FPC_MAX_FAILED_ATTEMPTS", "FPC_LOCKOUT_SECONDS", "FPC_ENROLL_TIMEOUT_SECONDS", "FPC_TEARDOWN_ON_REJECT",
   "FPC_DATA_ROOT", "FPC_AUDIT_LOG", "FPC_AUDIT_LOG_MAX_SIZE"]

/-- The environment of the process. -/
def environment : IO Environment := do
  let found ← variableNames.filterMapM fun name => do
    return (← IO.getEnv name).map fun value => (name, Bytes.ofString value)
  return Environment.ofList found

/-- The time, in microseconds since the first instant of 1970. -/
def microseconds : IO Int := do
  return (← Std.Time.Timestamp.now).toNanosecondsSinceUnixEpoch.val / 1000

/-- A simulator that runs on the machine, with its audit log. -/
structure Process where
  console : Simulator.Console
  crypto : Crypto
  log : AuditLog IO.FS.Handle

/-- Hands out what the simulator has printed and published. -/
def Process.settle (process : Process) : IO Process := do
  let (printed, console) := process.console.takeOutput
  let (errors, console) := console.takeErrors
  let (events, console) := console.takeEvents
  putLines (← IO.getStdout) printed
  putLines (← IO.getStderr) errors
  let mut log := process.log
  for event in events do
    log := (← AuditLog.log disk process.crypto (← microseconds) event log).1
  return { process with console, log }

/-- Reads and carries out lines until the simulator or the input ends. -/
partial def Process.interact (process : Process) : IO Unit := do
  let process ← process.settle
  if !process.console.isOpen then return
  let text ← (← IO.getStdin).getLine
  let console := process.console.advanceTo (← IO.monoMsNow)
  if text.isEmpty then
    let _ ← { process with console := console.close }.settle
  else
    let line := Bytes.ofString text
    let console ← match console.directoryFor line with
      | some path => pure (console.refuse path (← provideDirectory path))
      | none => pure console
    { process with console := console.receive line }.interact

/-- Starts the simulator, whose first subject is zero. -/
def start (environment : Environment) (configuration : Configuration) : IO Unit := do
  let key ← IO.getRandomBytes (USize.ofNat AuditLog.macSize)
  let crypto := Crypto.standard (Crypto.cycle key.toList)
  let (complaints, created) := AuditLog.create crypto environment
  putLines (← IO.getStderr) complaints
  match created with
  | .error _ => return
  | .ok log =>
    let path := (Simulator.host configuration).storagePath 0
    let refused := match ← provideDirectory path with
      | some reason => [(path, reason)]
      | none => []
    let console := Simulator.Console.start configuration { refused }
    { console, crypto, log : Process }.interact

end CommandLine

end Fingerprint

open Fingerprint in
/-- Runs the simulator with the arguments of the process; the exit code tells whether it
    was started. -/
def main (arguments : List String) : IO UInt32 := do
  let environment ← CommandLine.environment
  match Simulator.configure environment (arguments.map Bytes.ofString) with
  | .error refusal =>
    CommandLine.putLines (← IO.getStderr) refusal.lines
    return UInt32.ofNat refusal.exitCode
  | .ok configuration =>
    CommandLine.start environment configuration
    return 0
