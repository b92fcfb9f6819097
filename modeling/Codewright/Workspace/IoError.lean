/-!
# Failures of the file system
-/

namespace Codewright.Workspace

/-- Why an operation on the file system failed. -/
inductive IoError where
  | notFound
  | alreadyExists
  | notADirectory
  | isADirectory
  | nameTooLong
  | tooManyLinks
  /-- The name of a file cannot hold a NUL byte. -/
  | nulInName
  /-- Any other cause, in words. -/
  | other (text : String)
  deriving DecidableEq, Repr

/-- The message of a failure, with its number where the system has given one. -/
def IoError.message : IoError → String
  | notFound => "No such file or directory (os error 2)"
  | alreadyExists => "File exists (os error 17)"
  | notADirectory => "Not a directory (os error 20)"
  | isADirectory => "Is a directory (os error 21)"
  | nameTooLong => "File name too long (os error 36)"
  | tooManyLinks => "Too many levels of symbolic links (os error 40)"
  | nulInName => "file name contained an unexpected NUL byte"
  | other text => text

end Codewright.Workspace
