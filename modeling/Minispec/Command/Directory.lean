/-!
Files as a run finds them. A path is followed name by name from the current directory, which
holds files and no further directories; other directories are known to exist, and no more.
-/

namespace Minispec.Command

/-- Why a text cannot be read. -/
inductive ReadFault
  | nulInPath
  | missing
  /-- A path goes on after a file. -/
  | notDirectory
  | isDirectory
  | nameTooLong
  | notUtf8
  | other (reason : String)
deriving DecidableEq

def ReadFault.message : ReadFault → String
  | .nulInPath => "file name contained an unexpected NUL byte"
  | .missing => "No such file or directory (os error 2)"
  | .notDirectory => "Not a directory (os error 20)"
  | .isDirectory => "Is a directory (os error 21)"
  | .nameTooLong => "File name too long (os error 36)"
  | .notUtf8 => "stream did not contain valid UTF-8"
  | .other reason => reason

/-- Finds the content of the file at a path, or the reason why it cannot be had. -/
abbrev Files := String → Except ReadFault ByteArray

/-- The files of the current directory by name. -/
structure Directory where
  entries : List (String × ByteArray)

/-- Where a path has led so far. -/
inductive Place
  | current
  | outside
  | file (content : ByteArray)

namespace Directory

/-- The greatest size of a name, in bytes. -/
def maxNameSize : Nat := 255

/-- The greatest size of a path, in bytes. -/
def maxPathSize : Nat := 4095

def enter (d : Directory) (place : Place) (name : String) : Except ReadFault Place :=
  match place, name with
  | .file _, _ => .error .notDirectory
  | place, "" | place, "." => .ok place
  | _, ".." => .ok .outside
  | place, name =>
    if maxNameSize < name.utf8ByteSize then .error .nameTooLong
    else match place, d.entries.lookup name with
      | .current, some content => .ok (.file content)
      | _, _ => .error .missing

/-- Follows a path to its end. A slash at the start leads out of the current directory, and one
at the end asks for a directory. -/
def follow (d : Directory) (path : String) : Except ReadFault Place :=
  (path.splitOn "/").foldlM d.enter (if path.startsWith "/" then .outside else .current)

def read (d : Directory) : Files := fun path => do
  if path.contains '\x00' then .error .nulInPath
  if maxPathSize < path.utf8ByteSize then .error .nameTooLong
  match ← d.follow path with
  | .file content => return content
  | _ => .error .isDirectory

end Directory

end Minispec.Command
