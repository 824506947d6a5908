import Fingerprint.Bytes

/-!
# Paths

Paths as texts: names separated by slashes. A slash at the front makes a path
absolute; a slash at the end stands for an empty last name. The operations
here look at the text only, never at a file system.

* `Path.join`: a path below another;
* `Path.parent`, `Path.filename`: a path without its last name, and that name.
-/

namespace Fingerprint

namespace Path

/-- The byte that separates names. -/
def slash : UInt8 := 0x2f

/-- Whether a path starts at the root. -/
def isAbsolute (path : Bytes) : Bool := path.head? == some slash

/-- The path `path` taken from `base`: an absolute path stays as it is. -/
def join (base path : Bytes) : Bytes :=
  if isAbsolute path then path
  else if base.isEmpty || base.getLast? == some slash then base ++ path
  else base ++ slash :: path

/-- A text without the slashes at its end. -/
def dropTrailingSlashes (path : Bytes) : Bytes := Bytes.dropEndWhile (· == slash) path

/-- The last name of a path; empty after a slash. -/
def filename (path : Bytes) : Bytes := Bytes.takeEndWhile (· != slash) path

/-- A path without its last name and the slashes before it. A path that has slashes
    only is its own parent, and an absolute path has an absolute parent. -/
def parent (path : Bytes) : Bytes :=
  if path.all (· == slash) then path
  else
    let before := dropTrailingSlashes (Bytes.dropEndWhile (· != slash) path)
    if before.isEmpty && isAbsolute path then [slash] else before

/-- The names of a path between its slashes, in order, empty ones left out. -/
def names (path : Bytes) : List Bytes := (path.splitOnP (· == slash)).filter fun name => !name.isEmpty

end Path

end Fingerprint
