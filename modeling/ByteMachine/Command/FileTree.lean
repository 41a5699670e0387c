import ByteMachine.Text.Pieces

/-
  Files as a value: directories and files below one root. A path is resolved
  one name at a time, from the root if it begins with `/` and from the working
  directory otherwise. A path to a text file gives the text.
-/

namespace ByteMachine.Command

/-- Why a file cannot be read as text. -/
inductive ReadError where
  | notFound
  | notDirectory
  | isDirectory
  /-- A name in the path, or the path itself, has too many bytes. -/
  | nameTooLong
  /-- The bytes of the file are not UTF-8. -/
  | notText
  /-- Any other refusal of the system, in its own words and with its number. -/
  | system (details : String) (code : Nat)
  deriving DecidableEq, Repr

/-- The refusal in words. -/
def ReadError.message : ReadError → String
  | .notFound => "No such file or directory (os error 2)"
  | .notDirectory => "Not a directory (os error 20)"
  | .isDirectory => "Is a directory (os error 21)"
  | .nameTooLong => "File name too long (os error 36)"
  | .notText => "stream did not contain valid UTF-8"
  | .system details code => details ++ " (os error " ++ Nat.repr code ++ ")"

/-- The text of the bytes of a file. -/
def textOf (bytes : ByteArray) : Except ReadError String :=
  match String.fromUTF8? bytes with
  | some text => .ok text
  | none => .error .notText

/-! ## Paths -/

/-- The most bytes that a name in a path may have. -/
def nameLimit : Nat := 255

/-- The most bytes that a path may have. -/
def pathLimit : Nat := 4095

/-- The names in a path, without the empty ones and those that stand for the same place. -/
def pathNames (path : String) : List String :=
  (Text.namedPieces '/' path).filter (· != ".")

/-- Whether the path can only be that of a directory. -/
def endsInDirectory (path : String) : Bool :=
  match (Text.pieces '/' path.toList).getLast? with
  | some name => name == [] || name == ['.'] || name == ['.', '.']
  | none => false

/-- The name of the file that a path leads to. -/
def fileName? (path : String) : Option String :=
  match (pathNames path).getLast? with
  | some ".." | none => none
  | some name => some name

/-- What follows the last dot of a name, if something precedes that dot. -/
def extension? (name : String) : Option String :=
  let reversed := name.toList.reverse
  match reversed.dropWhile (· != '.') with
  | _ :: _ :: _ => some (String.ofList (reversed.takeWhile (· != '.')).reverse)
  | _ => none

/-! ## Trees -/

/-- The names on the way from the root to a file or directory. -/
abbrev Place := List String

/-- The place that a name leads to from a directory. The root is its own parent. -/
def Place.enter (place : Place) (name : String) : Place :=
  if name = ".." then place.dropLast else place ++ [name]

/-- The working directory. Its own name is empty, so that no path spells it. -/
def workingDirectory : Place := ["tmp", ""]

/-- Where the resolution of a path begins. -/
def startOf (path : String) : Place :=
  if path.toList.head? = some '/' then [] else workingDirectory

/-- Files and directories with their places. A file that was put later stands
before those that it replaces. -/
structure FileTree where
  files : List (Place × ByteArray)
  directories : List Place

namespace FileTree

/-- The tree that every system has: the null device and a place for temporary
files, here with the working directory in it. -/
def bare : FileTree where
  files := [(["dev", "null"], ByteArray.empty)]
  directories := [[], ["dev"], ["tmp"], workingDirectory]

/-- The bytes of the file at a place. -/
def file? (t : FileTree) (place : Place) : Option ByteArray := t.files.lookup place

/-- Whether a place is that of a directory. -/
def isDirectory (t : FileTree) (place : Place) : Bool := t.directories.contains place

/-- The tree with a file, and the directories on the way to it, which goes on
from a directory. -/
def putFrom (t : FileTree) (place : Place) (bytes : ByteArray) : List String → FileTree
  | [] => t
  | [name] => { t with files := (place ++ [name], bytes) :: t.files }
  | name :: rest =>
    putFrom { t with directories := place.enter name :: t.directories } (place.enter name) bytes
      rest

/-- The tree with a file at the path. -/
def put (t : FileTree) (path : String) (bytes : ByteArray) : FileTree :=
  t.putFrom (startOf path) bytes (pathNames path)

/-- The tree with files at the given paths, each put after the ones before it. -/
def ofPaths (files : List (String × ByteArray)) : FileTree :=
  files.foldl (fun t (path, bytes) => t.put path bytes) bare

/-- The bytes at the end of the names, going on from a directory; a directory has none. -/
def walk (t : FileTree) : Place → List String → Except ReadError (Option ByteArray)
  | _, [] => .ok none
  | place, name :: rest =>
    if name = ".." then t.walk (place.enter name) rest
    else if name.utf8ByteSize > nameLimit then .error .nameTooLong
    else match t.file? (place.enter name) with
      | some bytes => if rest = [] then .ok (some bytes) else .error .notDirectory
      | none =>
        if t.isDirectory (place.enter name) then t.walk (place.enter name) rest
        else .error .notFound

/-- The text of the file at the path. -/
def read (t : FileTree) (path : String) : Except ReadError String := do
  if path.utf8ByteSize > pathLimit then throw .nameTooLong
  match ← t.walk (startOf path) (pathNames path) with
  | none => .error .isDirectory
  | some bytes => if endsInDirectory path then .error .notDirectory else textOf bytes

end FileTree

end ByteMachine.Command
