/-!
# File faults

Why the system could not read or write a file, with the texts the system gives.
-/

namespace GirAda

/-- Why a file could not be read or written. -/
inductive FileFault where
  | notFound
  | isDirectory
  | notDirectory
  | fileExists
  | nameTooLong
  | nulInName
  | permissionDenied
  | notText
  | other (message : String)
  deriving DecidableEq, Repr

/-- The system's text for a file fault. -/
def FileFault.message : FileFault → String
  | .notFound => "No such file or directory (os error 2)"
  | .isDirectory => "Is a directory (os error 21)"
  | .notDirectory => "Not a directory (os error 20)"
  | .fileExists => "File exists (os error 17)"
  | .nameTooLong => "File name too long (os error 36)"
  | .nulInName => "file name contained an unexpected NUL byte"
  | .permissionDenied => "Permission denied (os error 13)"
  | .notText => "stream did not contain valid UTF-8"
  | .other m => m

end GirAda
