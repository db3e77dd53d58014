import HeaderBindings.Path
import HeaderBindings.Text.Utf8

/-!
# Access to files

A run reads one header, perhaps a settings file, creates a directory and writes two
files.  `FileAccess` names these three operations for whatever monad a run is
performed in; each either succeeds or reports a `Fault`.

The text of a fault is the operating system's, with its number.
-/

namespace HeaderBindings

inductive Fault where
  | notFound
  | exists
  | notDirectory
  | isDirectory
  | nameTooLong
  | nulInPath
  /-- The file should hold a text and does not. -/
  | malformedText
  | other (reason : Text)
  deriving DecidableEq, Repr

def Fault.text : Fault → Text
  | .notFound => "No such file or directory (os error 2)"
  | .exists => "File exists (os error 17)"
  | .notDirectory => "Not a directory (os error 20)"
  | .isDirectory => "Is a directory (os error 21)"
  | .nameTooLong => "File name too long (os error 36)"
  | .nulInPath => "file name contained an unexpected NUL byte"
  | .malformedText => "stream did not contain valid UTF-8"
  | .other reason => reason

/-- The operations on files that a run performs. -/
class FileAccess (m : Type → Type) where
  read : Path → m (Except Fault Bytes)
  /-- Make sure that a directory and all directories above it exist. -/
  createDirs : Path → m (Except Fault Unit)
  /-- Write a file, in place of any that has its path. -/
  write : Path → Bytes → m (Except Fault Unit)

end HeaderBindings
