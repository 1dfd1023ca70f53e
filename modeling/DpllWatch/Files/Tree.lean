import DpllWatch.Bytes
import DpllWatch.Text.Utf8

/-! A tree of files and directories, and looking paths up in it. -/

namespace DpllWatch

inductive FileError where
  | notFound
  | notDirectory
  | isDirectory
  | nameTooLong
  | nulInName
  | notText
deriving DecidableEq, Repr

namespace FileError

def message : FileError → String
  | notFound => "No such file or directory (os error 2)"
  | notDirectory => "Not a directory (os error 20)"
  | isDirectory => "Is a directory (os error 21)"
  | nameTooLong => "File name too long (os error 36)"
  | nulInName => "file name contained an unexpected NUL byte"
  | notText => "stream did not contain valid UTF-8"

end FileError

inductive FileEntry where
  | file (content : Bytes)
  | directory
deriving DecidableEq, Repr

structure FileTree where
  entries : List (List String × FileEntry)
deriving Repr

namespace FileTree

def empty : FileTree := ⟨[]⟩

def entry? (t : FileTree) (names : List String) : Option FileEntry :=
  if names.isEmpty then some .directory else t.entries.lookup names

/-- Longest name of an entry and longest path, in bytes; a path also has room for its end mark. -/
def maxName : Nat := 255

def maxPath : Nat := 4095

/-- Follows names from the entry that `place` leads to. Two dots lead up, at the root to itself. -/
def follow (t : FileTree) (place : List String) : List String → Except FileError FileEntry
  | [] =>
    match t.entry? place with
    | some entry => .ok entry
    | none => .error .notFound
  | name :: names =>
    match t.entry? place with
    | none => .error .notFound
    | some (.file _) => .error .notDirectory
    | some .directory =>
      if name = "" ∨ name = "." then follow t place names
      else if name = ".." then follow t place.dropLast names
      else if maxName < name.utf8ByteSize then .error .nameTooLong
      else follow t (place ++ [name]) names

def resolve (t : FileTree) (path : String) : Except FileError FileEntry :=
  if path.contains '\x00' then .error .nulInName
  else if path.isEmpty then .error .notFound
  else if maxPath < path.utf8ByteSize then .error .nameTooLong
  else t.follow [] (path.splitOn "/")

def isPresent (t : FileTree) (path : String) : Bool := (t.resolve path).isOk

def read (t : FileTree) (path : String) : Except FileError Bytes := do
  match ← t.resolve path with
  | .file content => .ok content
  | .directory => .error .isDirectory

def readText (t : FileTree) (path : String) : Except FileError String := do
  let content ← t.read path
  match Text.Utf8.decode? content with
  | some text => .ok (String.ofList text)
  | none => .error .notText

def put (t : FileTree) (names : List String) (entry : FileEntry) : FileTree :=
  ⟨(names, entry) :: t.entries.filter (·.1 != names)⟩

def makeWay (t : FileTree) (place : List String) : List String → List String × FileTree
  | [] => (place, t)
  | name :: names =>
    if name = "" ∨ name = "." then makeWay t place names
    else if name = ".." then makeWay t place.dropLast names
    else
      let next := place ++ [name]
      makeWay (if (t.entry? next).isSome then t else t.put next .directory) next names

def place (t : FileTree) (path : String) : List String × FileTree :=
  let names := (path.splitOn "/").filter (· != "")
  let (parent, t) := t.makeWay [] names.dropLast
  (parent ++ names.getLast?.toList, t)

def makeDirectory (t : FileTree) (path : String) : FileTree := (t.makeWay [] (path.splitOn "/")).2

def insert (t : FileTree) (path : String) (content : Bytes) : FileTree :=
  let (names, t) := t.place path
  t.put names (.file content)

/-- Removes a file, never a directory. The directories on the way there are made first. -/
def erase (t : FileTree) (path : String) : FileTree :=
  let (names, t) := t.place path
  match t.entry? names with
  | some (.file _) => ⟨t.entries.filter (·.1 != names)⟩
  | _ => t

end FileTree

end DpllWatch
