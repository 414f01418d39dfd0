import MarkTape.Text.Encoding

/-!
# Reading files

Programs are kept in files, and files stand in folders. A path leads from the top of the file system
or from the folder in which the program is run, down through folders to a file, or up again. Reading
a file finds it, knows its encoding, decodes it, and unifies its line ends, in that order; the first
of these that fails is reported.

* `Path.parts`, `Path.isAbsolute`: the pieces between slashes, and where they start;
* `Path.normalise`: the same place without needless pieces;
* `Path.longestName`, `Path.longestPath`: the limits of a file system, in bytes of UTF-8;
* `FileSystem`: what stands at each place, and the folder in which the program is run;
* `ReadError`: why a file cannot be read;
* `textOfBytes`: bytes as text;
* `FileSystem.find`, `FileSystem.readText`: the bytes of a file, and its text.
-/

namespace MarkTape.Path

/-! ### Paths -/

/-- The pieces of a path between its slashes. -/
def parts (path : String) : List String :=
  (path.toList.splitOn '/').map String.ofList

/-- The path starts at the top of the file system. -/
def isAbsolute (path : String) : Bool := path.toList.head? = some '/'

/-- The slashes that a normalised path begins with: exactly two are kept, any other number above
zero counts as one. -/
def root (path : String) : String :=
  match (path.toList.takeWhile (· = '/')).length with
  | 0 => ""
  | 2 => "//"
  | _ => "/"

/-- The piece leads on from where it stands. -/
def leadsOn (piece : String) : Bool := piece ≠ "" && piece ≠ "."

/-- The path without repeated slashes and without pieces that stay in place; the empty path is
the current folder. -/
def normalise (path : String) : String :=
  let whole := root path ++ "/".intercalate ((parts path).filter leadsOn)
  if whole = "" then "." else whole

/-- The most bytes that one piece may have. -/
def longestName : Nat := 255

/-- The most bytes that a path may have. -/
def longestPath : Nat := 4095

end MarkTape.Path

namespace MarkTape

/-! ### Files -/

/-- What stands at a place in a file system. -/
inductive Entry
  | folder
  | file (bytes : List UInt8)
  deriving DecidableEq

/-- A file system. A place in it is given by the names that lead to it from the top. -/
structure FileSystem where
  /-- What stands at a place, if anything does. -/
  entry? : List String → Option Entry
  /-- The folder in which the program is run. -/
  current : List String

/-- Why a file cannot be read. -/
inductive ReadError
  /-- There is nothing at the path. -/
  | notFound (path : String)
  /-- There is a folder at the path. -/
  | isFolder (path : String)
  /-- The path goes on below a file. -/
  | belowFile (path : String)
  /-- The path, or a piece of it, is longer than any path or name. -/
  | tooLong (path : String)
  /-- No path holds the null character. -/
  | nullInPath
  /-- The encoding has no known name. -/
  | unknownEncoding (name : String)
  /-- The bytes of the file are no text. -/
  | undecodable (bytes : Text.Undecodable)
  deriving DecidableEq

/-- What is said about a file that cannot be read. -/
def ReadError.message : ReadError → String
  | .notFound path => "[Errno 2] No such file or directory: " ++ Text.quote path
  | .isFolder path => "[Errno 21] Is a directory: " ++ Text.quote path
  | .belowFile path => "[Errno 20] Not a directory: " ++ Text.quote path
  | .tooLong path => "[Errno 36] File name too long: " ++ Text.quote path
  | .nullInPath => "embedded null byte"
  | .unknownEncoding name => "unknown encoding: " ++ name
  | .undecodable bytes => bytes.message

/-- The text of a file with the given bytes, its line ends unified. -/
def textOfBytes (encoding : String) (bytes : List UInt8) : Except ReadError String :=
  match Text.Encoding.ofName? encoding with
  | none => .error (.unknownEncoding encoding)
  | some e =>
    match e.decode bytes with
    | .error u => .error (.undecodable u)
    | .ok cs => .ok (String.ofList (Text.unifyNewlines cs))

/-- The encoding of a file unless another is asked for. -/
def defaultEncoding : String := Text.Encoding.utf8.name

namespace FileSystem

/-- Where a path has led so far. -/
inductive Place
  /-- In a folder. -/
  | folder (names : List String)
  /-- At a file. -/
  | file (bytes : List UInt8)

/-- The place of a name in the folder `names`. -/
def child (fs : FileSystem) (path : String) (names : List String) (name : String) :
    Except ReadError Place :=
  if Path.longestName < name.utf8ByteSize then .error (.tooLong path)
  else
    match fs.entry? (names ++ [name]) with
    | some .folder => .ok (.folder (names ++ [name]))
    | some (.file bytes) => .ok (.file bytes)
    | none => .error (.notFound path)

/-- Follow one piece of `path`. Nothing lies above the top. -/
def enter (fs : FileSystem) (path : String) : Place → String → Except ReadError Place
  | .file _, _ => .error (.belowFile path)
  | .folder names, piece =>
    if !Path.leadsOn piece then .ok (.folder names)
    else if piece = ".." then .ok (.folder names.dropLast)
    else fs.child path names piece

/-- The file that a path has led to. -/
def atEnd (path : String) : Place → Except ReadError (List UInt8)
  | .file bytes => .ok bytes
  | .folder _ => .error (.isFolder path)

/-- The bytes of the file at `path`. -/
def find (fs : FileSystem) (path : String) : Except ReadError (List UInt8) := do
  if path.toList.contains '\x00' then throw .nullInPath
  if path = "" then throw (.notFound path)
  if Path.longestPath < path.utf8ByteSize then throw (.tooLong path)
  let first := if Path.isAbsolute path then [] else fs.current
  atEnd path (← (Path.parts path).foldlM (fs.enter path) (.folder first))

/-- The text of the file at `path`, its line ends unified. -/
def readText (fs : FileSystem) (path encoding : String) : Except ReadError String := do
  textOfBytes encoding (← fs.find path)

end FileSystem

end MarkTape
