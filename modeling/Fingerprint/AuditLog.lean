import Fingerprint.Calendar
import Fingerprint.Configuration
import Fingerprint.Event.Json
import Fingerprint.FileSystem

/-!
# The audit log

Events are appended to a log file, one line each. A line is the JSON object of
the event with two members added: a sequence number, and a tag over the tag
of the line before, the sequence number and the object. Who holds the key can
thus check that no line was changed.

A line that would make the file longer than the limit is preceded by a
rotation: the log becomes its own first backup, the backups move up by one,
and the third is dropped. The line's number and tag are settled before the
rotation, so the chain runs on from file to file.

What the log cannot do it complains about on the console, and the event is
lost. The log works on any `Disk`; `Volume.disk` is one in memory.

* `AuditLog.create`: a log as the environment wants it;
* `AuditLog.log`: one event;
* `AuditLog.sealed`, `AuditLog.chained`: the shape of a line and what its tag is over.
-/

namespace Fingerprint

/-- What the log needs from the machine it runs on, as actions of `m`. An open file is
    written through a `Stream`. -/
structure Disk (m : Type → Type) (Stream : Type) where
  /-- What is at a path. -/
  status : Bytes → m (Except Errno FileStatus)
  createDirectories : Bytes → m (Option Errno)
  rename : (source target : Bytes) → m (Option Errno)
  openAppend : Bytes → m (Option Stream)
  /-- Writes at the end of a file; whether that succeeded. -/
  append : Stream → Bytes → m Bool
  /-- Puts a line on the console. -/
  complain : Bytes → m Unit

/-- A log file, and where its chain of lines has got to. -/
structure AuditLog (Stream : Type) where
  path : Bytes
  /-- The length that the file should not exceed. -/
  maxBytes : Nat
  enabled : Bool
  /-- The key of the chain. -/
  key : Bytes
  /-- The tag of the last line, or zeros. -/
  lastMac : Bytes
  /-- The number of the last line. -/
  counter : Nat := 0
  /-- The log file, while it is open. -/
  stream : Option Stream := none

namespace AuditLog

variable {Stream : Type}

/-- The size of keys and tags. -/
def macSize : Nat := 32

/-- The tag that the first line follows. -/
def zeroMac : Bytes := List.replicate macSize 0

/-- The size of a log file when none is asked for. -/
def defaultMaxBytes : Nat := 10 * 1024 * 1024

/-- How many backups are kept. -/
def backups : Nat := 3

/-! ## Opening -/

/-- The path of the log file, empty if there shall be none. -/
def configuredPath (environment : Environment) : Bytes :=
  match environment "FPC_AUDIT_LOG" with
  | none => "logs/fpcoord.log"
  | some value =>
    if value = Bytes.ofString "off" || value = Bytes.ofString "0" || value = Bytes.ofString "none" then []
    else if value.isEmpty then "logs/fpcoord.log"
    else value

/-- The size limit, which is the default unless a positive number is given. -/
def configuredMaxBytes (environment : Environment) : Nat :=
  match environment.nonempty? "FPC_AUDIT_LOG_MAX_SIZE" with
  | none => defaultMaxBytes
  | some text =>
    match Numeral.natural (UInt64.size - 1) text with
    | .ok 0 | .error _ => defaultMaxBytes
    | .ok n => n

/-- The log that the environment asks for, with a fresh key, and the complaints made.
    Without a key there is no log. -/
def create (crypto : Crypto) (environment : Environment) : List Bytes × Except Fault (AuditLog Stream) :=
  let path := configuredPath environment
  let log : AuditLog Stream :=
    { path, maxBytes := configuredMaxBytes environment, enabled := true, key := zeroMac, lastMac := zeroMac }
  if path.isEmpty then ([], .ok { log with enabled := false })
  else
    match crypto.random macSize with
    | .ok key => ([], .ok { log with key })
    | .error (.coded error) =>
      ([complaint "audit key generation failed" (some error.code)], .ok { log with enabled := false })
    | .error fault => ([], .error fault)

/-! ## Lines -/

/-- The eight bytes of a number, most significant first. -/
def bigEndian (n : Nat) : Bytes :=
  [56, 48, 40, 32, 24, 16, 8, 0].map fun shift => UInt8.ofNat (n >>> shift)

/-- What the tag of a line is over: the tag before, the number and the object. -/
def chained (previous : Bytes) (sequence : Nat) (canonical : Bytes) : Bytes :=
  previous ++ bigEndian sequence ++ canonical

/-- The line of an object, with its number and tag as last members. -/
def sealed (canonical : Bytes) (sequence : Nat) (mac : Bytes) : Bytes :=
  canonical.dropLast ++ (",\"seq\":" : Bytes) ++ Bytes.ofNat sequence ++
    (",\"mac\":\"" : Bytes) ++ Bytes.hex mac ++ ("\"\x7d" : Bytes)

/-! ## Files -/

/-- The path of the backup with a number. -/
def backupPath (path : Bytes) (n : Nat) : Bytes := path ++ ("." : Bytes) ++ Bytes.ofNat n

variable {m : Type → Type} [Monad m]

/-- Renames, and complains if that is refused. -/
def moveFile (disk : Disk m Stream) (source target : Bytes) : m Unit := do
  match ← disk.rename source target with
  | none => pure ()
  | some errno => disk.complain (complaint "audit log rotation failed" (some errno.number))

/-- Moves the backups up by one, the last first, starting from number `n`. -/
def shiftBackups (disk : Disk m Stream) (path : Bytes) : (n : Nat) → m Unit
  | 0 => pure ()
  | n + 1 => do
    match ← disk.status (backupPath path (n + 1)) with
    | .ok found => if found.present then moveFile disk (backupPath path (n + 1)) (backupPath path (n + 2))
    | .error _ => pure ()
    shiftBackups disk path n

/-- Makes room for `incoming` more bytes: closes the log file and makes it a backup
    if it would get too long. -/
def rotateIfNeeded (disk : Disk m Stream) (incoming : Nat) (log : AuditLog Stream) : m (AuditLog Stream) := do
  let size := match ← disk.status log.path with
    | .ok .absent => some 0
    | .ok (.regular size) => some size
    | _ => none
  match size with
  | none => return log
  | some size =>
    if size + incoming ≤ log.maxBytes then return log
    else
      shiftBackups disk log.path (backups - 1)
      moveFile disk log.path (backupPath log.path 1)
      return { log with stream := none, lastMac := zeroMac, counter := 0 }

/-- Opens the log file, unless it is open, making its directory if need be. -/
def ensureOpen (disk : Disk m Stream) (log : AuditLog Stream) : m (AuditLog Stream) := do
  if log.stream.isSome then return log
  let parent := Path.parent log.path
  if !parent.isEmpty then
    match ← disk.status parent with
    | .error errno =>
      disk.complain (complaint "audit log directory stat failed" (some errno.number))
      return log
    | .ok found =>
      if !found.present then
        if let some errno ← disk.createDirectories parent then
          disk.complain (complaint "audit log directory create failed" (some errno.number))
          return log
  return { log with stream := ← disk.openAppend log.path }

/-! ## Logging -/

/-- Appends a line and, if that succeeds, moves the chain on to it. -/
def append (disk : Disk m Stream) (line : Bytes) (sequence : Nat) (mac : Bytes) (log : AuditLog Stream) :
    m (AuditLog Stream) := do
  let log ← rotateIfNeeded disk (line.length + 1) log
  let log ← ensureOpen disk log
  match log.stream with
  | none => return log
  | some stream =>
    if ← disk.append stream (line ++ [0x0a]) then
      return { log with lastMac := mac, counter := sequence }
    else
      disk.complain (complaint "audit log write failed" none)
      return { log with stream := none }

/-- Logs an event at a time in microseconds. -/
def log (disk : Disk m Stream) (crypto : Crypto) (now : Int) (event : Event) (log : AuditLog Stream) :
    m (AuditLog Stream × Except Fault Unit) := do
  if !log.enabled then return (log, .ok ())
  let written := Event.Json.format crypto event (Calendar.timestamp now)
  written.complaints.forM disk.complain
  match written.outcome with
  | .error fault => return (log, .error fault)
  | .ok canonical =>
    let sequence := log.counter + 1
    match crypto.hmac log.key (chained log.lastMac sequence canonical) with
    | .error (.coded error) =>
      disk.complain (complaint "audit mac failed" (some error.code))
      return (log, .ok ())
    | .error fault => return (log, .error fault)
    | .ok mac => return (← append disk (sealed canonical sequence mac) sequence mac log, .ok ())

end AuditLog

/-! ## A disk in memory -/

/-- A file system in memory and what was put on the console, oldest first. -/
structure Volume where
  files : FileSystem
  console : List Bytes := []

namespace Volume

/-- Lets an operation of the file system act on a volume. -/
def act {α : Type} (operation : FileSystem → FileSystem × α) : StateM Volume α := fun volume =>
  let (files, result) := operation volume.files
  (result, { volume with files })

/-- The disk whose files are those of a volume. -/
def disk : Disk (StateM Volume) FileSystem.Stream where
  status path := act fun fs => (fs, fs.status path)
  createDirectories path := act fun fs => fs.createDirectories path
  rename source target := act fun fs => fs.rename source target
  openAppend path := act fun fs => fs.openFile path
  append stream line := act fun fs => fs.append stream line
  complain line := modify fun volume => { volume with console := volume.console ++ [line] }

end Volume

end Fingerprint
