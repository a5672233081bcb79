import Cadence.Log.Logger

/-!
What becomes of opening a log file, judged by its path alone, on a system that has
the usual directories and lets everything else be created.
-/

namespace Cadence.Log.Destination

/-- Directories that are there. -/
def directories : List String :=
  ["/", "/bin", "/boot", "/dev", "/dev/pts", "/dev/shm", "/etc", "/home", "/lib",
    "/lib64", "/media", "/mnt", "/opt", "/proc", "/proc/self", "/proc/self/fd",
    "/proc/sys", "/root", "/run", "/sbin", "/srv", "/sys", "/sys/kernel", "/tmp",
    "/usr", "/usr/bin", "/usr/include", "/usr/lib", "/usr/local",
    "/usr/local/bin", "/usr/sbin", "/usr/share", "/usr/src", "/var",
    "/var/cache", "/var/lib", "/var/log", "/var/spool", "/var/tmp"]

def files : List String :=
  ["/dev/null", "/dev/full", "/dev/zero", "/dev/random", "/dev/urandom",
    "/dev/stdin", "/dev/stdout", "/dev/stderr", "/dev/tty", "/etc/passwd",
    "/etc/group", "/etc/hosts", "/etc/hostname", "/proc/version",
    "/proc/self/fd/0", "/proc/self/fd/1", "/proc/self/fd/2"]

def standardErrors : List String := ["/dev/stderr", "/proc/self/fd/2"]

/-- The bytes that a path, and a part of one, stay below. -/
def pathLimit : Nat := 4096
def nameLimit : Nat := 256

def denied : String := "Permission denied (os error 13)"
def isDirectory : String := "Is a directory (os error 21)"
def missing : String := "No such file or directory (os error 2)"
def noDevice : String := "No such device or address (os error 6)"
def notDirectory : String := "Not a directory (os error 20)"
def tooLong : String := "File name too long (os error 36)"

/-- A place in the tree of directories, its innermost part first; parts of a
relative path are inside a directory without a name. -/
structure Place where
  absolute : Bool
  parts : List String
deriving DecidableEq, Repr

/-- The path of a place; one inside the directory without a name has none that
anything is known about. -/
def Place.path (place : Place) : String :=
  if place.absolute then
    if place.parts.isEmpty then "/"
    else String.join (place.parts.reverse.map ("/" ++ ·))
  else String.intercalate "/" place.parts.reverse

def Place.isDirectory (place : Place) : Bool :=
  place.parts.isEmpty || directories.contains place.path

def Place.isFile (place : Place) : Bool := files.contains place.path

/-- The place of a name inside another one. -/
def Place.child (place : Place) (name : String) : Place :=
  { place with parts := name :: place.parts }

/-- The place around another one; the outermost one is inside itself. -/
def Place.parent (place : Place) : Place := { place with parts := place.parts.drop 1 }

/-- Opens what has a name in a directory; `slash` says that one follows the
name. -/
def openNamed (place : Place) (name : String) (slash : Bool) : Opening :=
  let target := place.child name
  if slash || target.isDirectory then .refused isDirectory
  else if nameLimit ≤ name.utf8ByteSize then .refused tooLong
  else if standardErrors.contains target.path then .standardError
  else if target.path == "/dev/tty" then .refused noDevice
  else if target.isFile then .opened
  else if place.path.startsWith "/proc" then .refused missing
  else if place.path.startsWith "/sys" then .refused denied
  else .opened

/-- Follows the parts of a path and opens the last one. -/
def openFrom (place : Place) : List String → Opening
  | [] => .refused isDirectory
  | name :: rest =>
      let ends := rest.all String.isEmpty
      if name.isEmpty || name == "." then openFrom place rest
      else if name == ".." then openFrom place.parent rest
      else if ends then openNamed place name !rest.isEmpty
      else if nameLimit ≤ name.utf8ByteSize then .refused tooLong
      else
        let next := place.child name
        if next.isDirectory then openFrom next rest
        else if next.isFile then .refused notDirectory
        else .refused missing

def openPath (path : String) : Opening :=
  if path.isEmpty then .refused missing
  else if pathLimit ≤ path.utf8ByteSize then .refused tooLong
  else
    openFrom ⟨path.startsWith "/", []⟩
      ((Text.parts '/' path.toList).map String.ofList)

end Cadence.Log.Destination
