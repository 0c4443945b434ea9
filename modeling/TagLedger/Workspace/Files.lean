import TagLedger.Store.Opening

/-!
# Files

A directory tree: what stands at each place, a place being the names that lead there from the root
of the tree.  Paths are followed name by name, and every name but the last must be that of a
directory.
-/

namespace TagLedger

inductive FileNode where
  | directory
  | text (content : String)
  /-- A file whose bytes are no text. -/
  | binary
  /-- The file of a store, with whether it says that changes to the store are kept in a log.  While
  all of them are, the file still reads as the text that it was before. -/
  | store (content : Store) (logged : Bool) (text : Option String)

inductive FileFault where
  | notFound
  | exists
  | notADirectory
  | isADirectory
  | nameTooLong
  | notText
  deriving DecidableEq, Repr

def FileFault.text : FileFault → String
  | .notFound => "No such file or directory (os error 2)"
  | .exists => "File exists (os error 17)"
  | .notADirectory => "Not a directory (os error 20)"
  | .isADirectory => "Is a directory (os error 21)"
  | .nameTooLong => "File name too long (os error 36)"
  | .notText => "stream did not contain valid UTF-8"

def FileNode.content : FileNode → Except FileFault String
  | .directory => .error .isADirectory
  | .text content => .ok content
  | .binary | .store _ _ none => .error .notText
  | .store _ _ (some own) => .ok own

def FileNode.isDirectory : FileNode → Bool
  | .directory => true
  | _ => false

def FileNode.isEmpty : FileNode → Bool
  | .text content => content.isEmpty
  | _ => false

abbrev Place : Type :=
  List String

def Place.path (place : Place) : String :=
  "/".intercalate place

abbrev Files : Type :=
  Table FileNode

namespace Files

def node? (files : Files) (place : Place) : Option FileNode :=
  if place = [] then some .directory else files.find? place.path

def contains (files : Files) (place : Place) : Bool :=
  (files.node? place).isSome

def addDirectories (files : Files) (place : Place) : List String → Files
  | [] => files
  | name :: rest =>
      let below := place ++ [name]
      let files := if files.contains below then files else files.insert below.path .directory
      addDirectories files below rest

def put (place : Place) (node : FileNode) (files : Files) : Files :=
  (files.addDirectories [] place.dropLast).insert place.path node

def remove (place : Place) (files : Files) : Files :=
  let path := place.path
  ⟨files.rows.filter fun row => row.1 != path && !row.1.startsWith (path ++ "/"),
    files.ordered.filter _⟩

def nameLimit : Nat := 255

def follow (files : Files) : Place → List String → Except FileFault Place
  | place, [] => .ok place
  | place, name :: rest =>
      match files.node? place with
      | none => .error .notFound
      | some .directory =>
          if name = "" ∨ name = "." then follow files place rest
          else if name = ".." then follow files place.dropLast rest
          else if nameLimit < name.utf8ByteSize then .error .nameTooLong
          else follow files (place ++ [name]) rest
      | some _ => .error .notADirectory

def pathLimit : Nat := 4095

def followPath (files : Files) (directory : Place) (path : String) : Except FileFault Place :=
  if pathLimit < path.utf8ByteSize then .error .nameTooLong
  else files.follow (if path.startsWith "/" then [] else directory) (path.splitOn "/")

def readText (files : Files) (directory : Place) (path : String) : Except FileFault String :=
  match files.followPath directory path with
  | .error fault => .error fault
  | .ok place =>
      match files.node? place with
      | some node => node.content
      | none => .error .notFound

def writeText (place : Place) (content : String) (files : Files) : Except FileFault Files :=
  match files.node? place with
  | some .directory => .error .isADirectory
  | _ => .ok (files.put place (.text content))

def createDirectory (place : Place) (files : Files) : Except FileFault Files :=
  match files.node? place with
  | none => .ok (files.put place .directory)
  | some .directory => .ok files
  | some _ => .error .exists

end Files

end TagLedger
