/-!
# Files

What a program is told about files: whether a path leads to one, and what is in it.  Paths are given
as text, the way the operating system takes them.
-/

namespace LecturePlan

/-- Why a file cannot be read or written. -/
inductive FileFault where
  | notFound
  | permissionDenied
  | notADirectory
  | isADirectory
  | nameTooLong
  | zeroInName
  | other (reason : String)
deriving DecidableEq, Repr

/-- The wording of a file fault. -/
def FileFault.message : FileFault → String
  | .notFound => "No such file or directory (os error 2)"
  | .permissionDenied => "Permission denied (os error 13)"
  | .notADirectory => "Not a directory (os error 20)"
  | .isADirectory => "Is a directory (os error 21)"
  | .nameTooLong => "File name too long (os error 36)"
  | .zeroInName => "file name contained an unexpected NUL byte"
  | .other reason => reason

/-- The files that a program sees. -/
structure Files where
  /-- Whether a path leads to a regular file. -/
  isFile : String → Bool
  /-- The bytes of a file. -/
  read : String → Except FileFault (List UInt8)

end LecturePlan
