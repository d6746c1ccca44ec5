/-!
# What can go wrong with files

The failures of file operations, with the words in which the system reports them.
-/

namespace TwinTypes

/-- Why a file operation failed. -/
inductive DiskError where
  /-- There is nothing of that name. -/
  | notFound
  /-- There is something of that name already. -/
  | occupied
  /-- A directory is in the way. -/
  | isDirectory
  /-- Something other than a directory is in the way. -/
  | notDirectory
  /-- The name refers to a directory by `.` or `..`, which cannot be replaced. -/
  | busy
  /-- A name or the whole path is too long. -/
  | nameTooLong
  /-- Links lead on and on. -/
  | tooManyLinks
  /-- The path holds the character that ends texts. -/
  | nulInPath
  /-- The contents are no text. -/
  | notText
  /-- The path names no file. -/
  | noFileName
  /-- A failure in the words of the system. -/
  | other (message : String)
  deriving DecidableEq, Repr, Inhabited

/-- A failure in words. -/
def DiskError.message : DiskError → String
  | notFound => "No such file or directory (os error 2)"
  | occupied => "File exists (os error 17)"
  | isDirectory => "Is a directory (os error 21)"
  | notDirectory => "Not a directory (os error 20)"
  | busy => "Device or resource busy (os error 16)"
  | nameTooLong => "File name too long (os error 36)"
  | tooManyLinks => "Too many levels of symbolic links (os error 40)"
  | nulInPath => "file name contained an unexpected NUL byte"
  | notText => "stream did not contain valid UTF-8"
  | noFileName => "destination path has no file name"
  | other message => message

end TwinTypes
