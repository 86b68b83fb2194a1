/-!
# Failures of a file system

The reasons for which a file system refuses an operation, with the wording of each. Those that
come from the system carry its number.
-/

namespace Remit.FileSystem

/-- Why an operation on files is refused. -/
inductive Error where
  | notFound
  | denied
  | alreadyExists
  | notDirectory
  | isDirectory
  | nameTooLong
  /-- A name with a NUL character cannot be handed to the system. -/
  | nulInName
  /-- The content of a file was to be read as text and is none. -/
  | notText
  /-- Not all bytes could be written. -/
  | notWritten
  /-- Any other reason. -/
  | other (reason : String)
  deriving DecidableEq

/-- The wording of an error. -/
def Error.message : Error → String
  | notFound => "No such file or directory (os error 2)"
  | denied => "Permission denied (os error 13)"
  | alreadyExists => "File exists (os error 17)"
  | notDirectory => "Not a directory (os error 20)"
  | isDirectory => "Is a directory (os error 21)"
  | nameTooLong => "File name too long (os error 36)"
  | nulInName => "file name contained an unexpected NUL byte"
  | notText => "stream did not contain valid UTF-8"
  | notWritten => "failed to write whole buffer"
  | other reason => reason

end Remit.FileSystem
