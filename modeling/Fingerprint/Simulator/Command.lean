import Fingerprint.Numeral

/-!
# Commands of the simulator

A line holds a word that names the command, and then its arguments, all
separated by blanks. Most commands want an exact number of arguments, each a
numeral of its range; the others take no notice of what follows their name.

* `Command.ofLine`: what a line asks for.
-/

namespace Fingerprint

namespace Simulator

/-- What a line of input asks for. -/
inductive Command where
  /-- Nothing at all: the line is blank. -/
  | skip
  | help
  | quit
  | enroll (subject : Int32)
  | authenticate (subject : Int32)
  | remove (subject : Int32) (id : UInt32)
  | cancelEnrollment
  | cancelAuthentication
  /-- The sensor reports a match with a template, or none with zero. -/
  | touch (id : UInt32)
  /-- The sensor reports how far the enrollment has come. -/
  | progress (id : UInt32) (remaining : Int32)
  /-- The sensor reports an error. -/
  | error (code : Int32)
  /-- The sensor reports a removal. -/
  | removed (id : UInt32) (subject : Int32)
  | killDriver
  | killCaller
  /-- Another subject becomes active. -/
  | switchTo (subject : Int32)
  | list (subject : Int32)
  | unrecognized
  deriving DecidableEq, Repr

namespace Command

/-- The commands that want arguments, by their names. -/
def withArguments (name : Bytes) (arguments : List Bytes) : Option Command :=
  match arguments with
  | [first] =>
    if name = Bytes.ofString "enroll" then enroll <$> Numeral.int32? first
    else if name = Bytes.ofString "auth" then authenticate <$> Numeral.int32? first
    else if name = Bytes.ofString "touch" then touch <$> Numeral.uint32? first
    else if name = Bytes.ofString "error" then error <$> Numeral.int32? first
    else if name = Bytes.ofString "user" then switchTo <$> Numeral.int32? first
    else if name = Bytes.ofString "list" then list <$> Numeral.int32? first
    else none
  | [first, second] =>
    if name = Bytes.ofString "remove" then remove <$> Numeral.int32? first <*> Numeral.uint32? second
    else if name = Bytes.ofString "progress" then progress <$> Numeral.uint32? first <*> Numeral.int32? second
    else if name = Bytes.ofString "removed" then removed <$> Numeral.uint32? first <*> Numeral.int32? second
    else none
  | _ => none

/-- The command that words ask for. -/
def ofWords : List Bytes → Command
  | [] => skip
  | name :: arguments =>
    if name = Bytes.ofString "help" then help
    else if name = Bytes.ofString "quit" || name = Bytes.ofString "exit" then quit
    else if name = Bytes.ofString "cancel-enroll" then cancelEnrollment
    else if name = Bytes.ofString "cancel-auth" then cancelAuthentication
    else if name = Bytes.ofString "kill-driver" then killDriver
    else if name = Bytes.ofString "kill-caller" then killCaller
    else (withArguments name arguments).getD unrecognized

/-- The command that a line asks for. -/
def ofLine (line : Bytes) : Command := ofWords (Bytes.words line)

end Command

end Simulator

end Fingerprint
