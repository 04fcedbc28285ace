/-!
# Output paths

What becomes of an attempt to create a file in an empty directory. A path leads through names, and
of these only the standard directories of the root exist. What is above the empty directory, or in a
standard one, is taken to be empty too. The sample session needs it; nothing is proved of it.
-/

namespace FramePacing

/-- Why a file cannot be created. -/
inductive FileError where
  /-- A directory on the way is missing. -/
  | notFound
  /-- The path is that of a directory. -/
  | isDirectory
  /-- A name or the path is too long. -/
  | nameTooLong
  deriving DecidableEq

/-- The error's text. -/
def FileError.message : FileError → String
  | .notFound => "No such file or directory (os error 2)"
  | .isDirectory => "Is a directory (os error 21)"
  | .nameTooLong => "File name too long (os error 36)"

namespace OutputPath

/-- Where on its way a path is. -/
inductive Place where
  /-- At the root. -/
  | root
  /-- In a standard directory. -/
  | standard
  /-- In the empty directory, or above it. -/
  | empty
  deriving DecidableEq

/-- The standard directories. -/
def standardNames : List String :=
  ["bin", "boot", "dev", "etc", "home", "lib", "media", "mnt", "opt", "proc", "root", "run", "sbin",
   "srv", "sys", "tmp", "usr", "var"]

/-- The greatest number of bytes of a name. -/
def nameLimit : Nat := 255

/-- The number of bytes from which on a path is too long. -/
def pathLimit : Nat := 4096

/-- The place above another one. -/
def Place.above : Place → Place
  | .root | .standard => .root
  | .empty => .empty

/-- Walks along the names of a path. `closed` says whether the path ends in a slash: then its last
name can only be that of a directory, and a file is not even looked for. -/
def walk (closed : Bool) (place : Place) : List String → Except FileError Unit
  | [] => .error .isDirectory
  | name :: rest =>
    if name = "." then walk closed place rest
    else if name = ".." then walk closed place.above rest
    else if rest.isEmpty && closed then .error .isDirectory
    else if nameLimit < name.utf8ByteSize then .error .nameTooLong
    else if place = .root && standardNames.contains name then walk closed .standard rest
    else if rest.isEmpty then .ok ()
    else .error .notFound

/-- Tries to create a file in an empty directory. -/
def createInEmpty (path : String) : Except FileError Unit :=
  if pathLimit ≤ path.utf8ByteSize then .error .nameTooLong
  else if path = "" then .error .notFound
  else
    walk (path.endsWith "/") (if path.startsWith "/" then .root else .empty)
      ((path.splitOn "/").filter (· ≠ ""))

end OutputPath

end FramePacing
