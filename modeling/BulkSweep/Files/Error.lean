/-!
# Failures of a file system

The failures that files can meet with, in the words of the operating system.
-/

set_option autoImplicit false

namespace BulkSweep

/-- Why an operation on files failed. -/
inductive FileError where
  /-- nothing has this name -/
  | notFound
  /-- something has this name already -/
  | exists
  /-- a folder was expected -/
  | notFolder
  /-- a file was expected -/
  | isFolder
  /-- one part of the name is too long -/
  | nameTooLong
  /-- the name holds a character with the code zero -/
  | zeroInName
  /-- the system takes no such name -/
  | invalidName
  /-- the bytes of a file are no text -/
  | notText
  /-- anything else, in the words of the system -/
  | other (message : String)
  deriving DecidableEq, Repr, Inhabited

/-- The message of a failure. -/
def FileError.message : FileError → String
  | notFound => "No such file or directory (os error 2)"
  | .exists => "File exists (os error 17)"
  | notFolder => "Not a directory (os error 20)"
  | isFolder => "Is a directory (os error 21)"
  | nameTooLong => "File name too long (os error 36)"
  | zeroInName => "file name contained an unexpected NUL byte"
  | invalidName => "Invalid argument (os error 22)"
  | notText => "stream did not contain valid UTF-8"
  | other message => message

end BulkSweep
