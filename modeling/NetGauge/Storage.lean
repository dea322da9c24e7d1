import NetGauge.FileSystem

set_option autoImplicit false

/-! # Files in directories

A file system as a value: directories with files and directories in them, and the one of them that
paths start from. A path is followed step by step through directories that are there, and the first
step that cannot be taken says why. Its last step may lead to a file that is not there yet. -/

namespace NetGauge

/-- What a directory holds under a name. -/
inductive Entry where
  | file (content : String)
  | directory (entries : List (String × Entry))

namespace Entry

/-- What a file holds. -/
def content? : Entry → Option String
  | file content => some content
  | directory _ => none

/-- What is found below a directory, name by name. -/
def at? (entries : List (String × Entry)) : List String → Option Entry
  | [] => some (directory entries)
  | name :: rest =>
    match entries.lookup name with
    | some (directory inner) => at? inner rest
    | some (file content) => if rest.isEmpty then some (file content) else none
    | none => none

/-- A directory with one entry put in, in place of one of the same name. -/
def replace (name : String) (entry : Entry) (entries : List (String × Entry)) : List (String × Entry) :=
  entries.filter (fun e => e.1 ≠ name) ++ [(name, entry)]

/-- A directory with a file put in somewhere below it. -/
def put (content : String) (entries : List (String × Entry)) : List String → List (String × Entry)
  | [] => entries
  | [name] => replace name (file content) entries
  | name :: rest =>
    match entries.lookup name with
    | some (directory inner) => replace name (directory (put content inner rest)) entries
    | _ => entries

end Entry

/-- The root of a tree of directories, and where in it paths start: the names that lead there. -/
structure Storage where
  root : List (String × Entry) := [("tmp", .directory [("work", .directory [])])]
  start : List String := ["tmp", "work"]

namespace Storage

/-- What is found at a place. -/
def at? (s : Storage) (place : List String) : Option Entry := Entry.at? s.root place

/-- Whether there is a directory at a place. -/
def isDirectory (s : Storage) (place : List String) : Bool := (s.at? place).any (fun e => e.content?.isNone)

/-! ## Paths -/

/-- How many bytes a path may have at most, and a step of it. -/
def maxPath : Nat := 4095

def maxName : Nat := 255

/-- What a directory has under a name. -/
def look (s : Storage) (place : List String) (name : String) : Except StorageError (Option Entry) :=
  if maxName < name.utf8ByteSize then .error .nameTooLong else .ok (s.at? (place ++ [name]))

/-- Takes a step that is not the last one of a path. It must lead to a directory. -/
def step (s : Storage) (place : List String) (name : String) : Except StorageError (List String) :=
  if name = "" ∨ name = "." then .ok place
  else if name = ".." then .ok place.dropLast
  else do
    match ← s.look place name with
    | some (.directory _) => return place ++ [name]
    | some (.file _) => throw .notDirectory
    | none => throw .notFound

/-- The steps of a path, the last one first and without the empty ones behind it. -/
def backwards (path : String) : List String :=
  (((path.toList.splitOn '/').map String.ofList).reverse).dropWhile (· = "")

/-- Follows a path to its last step: the directory that this one is taken in, and its name. -/
def follow (s : Storage) (path : String) : Except StorageError (List String × String) :=
  if path.toList.contains '\x00' then .error .invalidPath
  else if path = "" then .error .notFound
  else if maxPath < path.utf8ByteSize then .error .nameTooLong
  else
    match backwards path with
    | [] => .error .isDirectory
    | name :: before => do
      let place ← before.reverse.foldlM s.step (if path.startsWith "/" then [] else s.start)
      if name = "." ∨ name = ".." then throw .isDirectory
      return (place, name)

/-! ## Reading and writing -/

/-- The place of the file that the last step of a path leads to, be it there or not. With a slash behind it
    the step leads to a directory. -/
def last (s : Storage) (slash : Bool) (place : List String) (name : String) : Except StorageError (List String) :=
  if slash then .error .isDirectory
  else do
    match ← s.look place name with
    | some (.directory _) => throw .isDirectory
    | _ => if s.isDirectory place then return place ++ [name] else throw .notFound

/-- The place of the file that a path leads to. -/
def place (s : Storage) (path : String) : Except StorageError (List String) := do
  let (directory, name) ← s.follow path
  s.last (path.endsWith "/") directory name

/-- Writes a file, in place of one that is there. -/
def write (s : Storage) (path content : String) : Except StorageError Unit × Storage :=
  match s.place path with
  | .ok place => (.ok (), { s with root := Entry.put content s.root place })
  | .error e => (.error e, s)

instance : FileSystem Storage where
  write := write

/-- The content of a file. -/
def read (s : Storage) (path : String) : Except StorageError String := do
  let (place, name) ← s.follow path
  match ← s.look place name with
  | some (.file content) => if path.endsWith "/" then throw .notDirectory else return content
  | some (.directory _) => throw .isDirectory
  | none => throw .notFound

/-- The files where paths start, with what they hold. -/
def files (s : Storage) : List (String × String) :=
  match s.at? s.start with
  | some (.directory entries) => entries.filterMap (fun e => e.2.content?.map (fun content => (e.1, content)))
  | _ => []

/-- A storage with these files where paths start. -/
def ofFiles (files : List (String × String)) : Storage where
  root := [("tmp", .directory [("work", .directory (files.map (fun f => (f.1, .file f.2))))])]

end Storage

end NetGauge
