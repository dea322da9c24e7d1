set_option autoImplicit false

/-! # File systems

A client writes files and learns of each whether it was written. No more is asked of a file system
(`FileSystem`). One that can be relied on (`LawfulFileSystem`) knows what its files hold: a file that
was written holds what was written, all others hold what they held, and no path leads to another file
than before. -/

namespace NetGauge

/-- Why a file cannot be read or written. -/
inductive StorageError where
  | notFound
  | notDirectory
  | isDirectory
  | nameTooLong
  | invalidPath
  /-- What else may go wrong, as the system words it. -/
  | other (message : String)
  deriving DecidableEq

def StorageError.message : StorageError → String
  | .notFound => "No such file or directory (os error 2)"
  | .notDirectory => "Not a directory (os error 20)"
  | .isDirectory => "Is a directory (os error 21)"
  | .nameTooLong => "File name too long (os error 36)"
  | .invalidPath => "file name contained an unexpected NUL byte"
  | .other message => message

/-- A place to write files to. -/
class FileSystem (δ : Type) where
  /-- Writes a text to the file that a path leads to, in place of what it held. -/
  write : δ → String → String → Except StorageError Unit × δ

/-- A file system whose files hold what was written to them. -/
class LawfulFileSystem (δ : Type) [FileSystem δ] where
  /-- What paths lead to, whether it has been written or not. -/
  File : Type
  /-- The file that a path leads to, if it leads to one. Several paths may lead to the same. -/
  find? : δ → String → Option File
  /-- What a file holds, if it has been written. -/
  content? : δ → File → Option String
  /-- Where paths lead does not change. -/
  find?_write (disk : δ) (path text other : String) :
    find? (FileSystem.write disk path text).2 other = find? disk other
  /-- A file that was written holds what was written. -/
  content?_write {disk after : δ} {path text : String} (h : FileSystem.write disk path text = (.ok (), after)) :
    ∃ file, find? disk path = some file ∧ content? after file = some text
  /-- No other file changes, not even when the file could not be written. -/
  content?_write_of_ne {disk : δ} {path : String} {file : File} (text : String)
    (h : find? disk path ≠ some file) : content? (FileSystem.write disk path text).2 file = content? disk file

namespace LawfulFileSystem

variable {δ : Type} [FileSystem δ] [LawfulFileSystem δ]

/-- A path leads to a file that holds a text. -/
def Holds (disk : δ) (path text : String) : Prop :=
  ∃ file : File δ, find? disk path = some file ∧ content? disk file = some text

end LawfulFileSystem

end NetGauge
