/-!
# File trees

The files of a working directory, held in memory, and what comes of reading the file at a path.
-/
namespace Kaleido

/-- Why a file cannot be read. -/
inductive ReadFailure where
  | notFound
  | isDirectory
  | notDirectory
  | nameTooLong
  /-- The bytes of the file are no text. -/
  | invalidText
  /-- Anything else, in the words of the system. -/
  | other (description : String)
deriving Repr, DecidableEq

/-- The failure in words. -/
def ReadFailure.message : ReadFailure → String
  | .notFound => "No such file or directory (os error 2)"
  | .isDirectory => "Is a directory (os error 21)"
  | .notDirectory => "Not a directory (os error 20)"
  | .nameTooLong => "File name too long (os error 36)"
  | .invalidText => "stream did not contain valid UTF-8"
  | .other description => description

/-- The text that the bytes of a file hold. -/
def textOfBytes (bytes : ByteArray) : Except ReadFailure String :=
  match String.fromUTF8? bytes with
  | some text => .ok text
  | none => .error .invalidText

/-- A file with its bytes, or a directory with its entries. -/
inductive FileTree where
  | file (bytes : ByteArray)
  | directory (entries : List (String × FileTree))

namespace FileTree

/-- The directory without entries. -/
def empty : FileTree := .directory []

/-- The entry of a name. -/
def entry? : FileTree → String → Option FileTree
  | .file _, _ => none
  | .directory entries, name => entries.lookup name

/-- Puts a tree at a path of names, and makes the directories on the way. -/
def insert (tree : FileTree) : List String → FileTree → FileTree
  | [], new => new
  | name :: rest, new =>
    let entries := match tree with
      | .file _ => []
      | .directory entries => entries
    let below := (entries.lookup name).getD empty
    .directory ((name, below.insert rest new) :: entries.filter (·.1 ≠ name))

/-- The greatest number of bytes of a name. -/
def greatestName : Nat := 255

/-- The greatest number of bytes of a path. -/
def greatestPath : Nat := 4095

/-- Follows names from a place in a tree. The place is given with the directories above it, the
nearest first; of what is above those nothing is known, and it counts as a directory without
entries. An empty name and a dot stay in a directory, two dots leave it, and nothing but the end
can follow a file. -/
def follow (above : List FileTree) (place : FileTree) : List String → Except ReadFailure FileTree
  | [] => .ok place
  | name :: rest =>
    match place with
    | .file _ => .error .notDirectory
    | .directory _ =>
      if name = "" ∨ name = "." then follow above place rest
      else if name = ".." then
        match above with
        | [] => follow [] empty rest
        | parent :: outer => follow outer parent rest
      else if name.utf8ByteSize > greatestName then .error .nameTooLong
      else
        match place.entry? name with
        | none => .error .notFound
        | some below => follow (place :: above) below rest

/-- Finds the place of a path, whose names are divided by slashes. A path that begins with a slash
begins above everything that is known, any other one in the tree. -/
def find (tree : FileTree) (path : String) : Except ReadFailure FileTree :=
  if path = "" then .error .notFound
  else if path.utf8ByteSize > greatestPath then .error .nameTooLong
  else follow [] (if path.toList.head? = some '/' then empty else tree) (path.splitOn "/")

/-- Reads the file at a path. -/
def read (tree : FileTree) (path : String) : Except ReadFailure String :=
  match tree.find path with
  | .error failure => .error failure
  | .ok (.directory _) => .error .isDirectory
  | .ok (.file bytes) => textOfBytes bytes

end FileTree

end Kaleido
