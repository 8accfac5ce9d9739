import GroundLink.Text.Lines
import GroundLink.Text.Utf8

/-! # Files

Settings come from files below a working directory. Reading one gives its text or the
reason why there is none; a path is followed part by part, and every part but the last
has to be a directory.
-/

namespace GroundLink

/-- Why a file cannot be read as text. -/
inductive FileFault where
  | notFound
  | notDirectory
  | isDirectory
  | nameTooLong
  | zeroInName
  | notText
  /-- Any other reason, as the system words it. -/
  | other (reason : String)
  deriving Repr, DecidableEq

namespace FileFault

def message : FileFault → String
  | notFound => "No such file or directory (os error 2)"
  | notDirectory => "Not a directory (os error 20)"
  | isDirectory => "Is a directory (os error 21)"
  | nameTooLong => "File name too long (os error 36)"
  | zeroInName => "file name contained an unexpected NUL byte"
  | notText => "stream did not contain valid UTF-8"
  | other reason => reason

end FileFault

/-- What a name in a directory stands for: the octets of a file, or a directory. -/
inductive FileContent where
  | file (bytes : Bytes)
  | directory
  deriving Repr, DecidableEq

/-- Where a path has led. -/
inductive Place where
  /-- Below the working directory, by the names on the way. -/
  | inside (names : List String)
  /-- A directory above the working directory, in which no other name is known. -/
  | above
  deriving Repr, DecidableEq

namespace Place

def parent : Place → Place
  | inside [] => above
  | inside names => inside names.dropLast
  | above => above

def child? (place : Place) (name : String) : Option Place :=
  match place with
  | inside names => some (inside (names ++ [name]))
  | above => none

/-- Where a part of a path leads. An empty part and a single dot stay, two dots go up. -/
def move? (place : Place) (part : String) : Option Place :=
  if part = "" ∨ part = "." then some place
  else if part = ".." then some place.parent
  else place.child? part

end Place

/-- The files and directories below a working directory, by the names that lead to them. -/
structure FileTree where
  entries : List (List String × FileContent)

namespace FileTree

/-- The parts of a path between slashes. -/
def parts (path : String) : List String := (Text.parts '/' path.toList).map String.ofList

/-- The entry for a place, if it is below the working directory. -/
def entryAt (content : FileContent) : Place → List (List String × FileContent)
  | .inside names => [(names, content)]
  | .above => []

/-- What a path with its content tells from a place on: the path has directories on its way, and
the content at its end. -/
def entriesOn (content : FileContent) (place : Place) :
    List String → List (List String × FileContent)
  | [] => entryAt content place
  | part :: rest =>
      entryAt .directory place ++
        match place.move? part with
        | some next => entriesOn content next rest
        | none => []

/-- Where the parts of a path are followed from. -/
def start (path : String) : Place := if path.startsWith "/" then .above else .inside []

/-- The tree of paths with their contents. Of two contents at one place the later one counts. -/
def ofEntries (entries : List (String × FileContent)) : FileTree :=
  ⟨(entries.flatMap fun entry =>
    entriesOn entry.2 (start entry.1) (parts entry.1)).reverse⟩

/-- What stands at a place. The working directory and those above it are always there. -/
def content? (files : FileTree) : Place → Option FileContent
  | .above | .inside [] => some .directory
  | .inside names => files.entries.lookup names

/-- Follows the parts of a path from a place. Only a directory can be left or stayed in. -/
def follow (files : FileTree) (place : Place) : List String → Except FileFault Bytes
  | [] =>
      match files.content? place with
      | some (.file bytes) => .ok bytes
      | some .directory => .error .isDirectory
      | none => .error .notFound
  | part :: rest =>
      match files.content? place with
      | none => .error .notFound
      | some (.file _) => .error .notDirectory
      | some .directory =>
          if part.utf8ByteSize > 255 then .error .nameTooLong
          else
            match place.move? part with
            | some next => files.follow next rest
            | none => .error .notFound

/-- The octets of the file at a path. -/
def readBytes (files : FileTree) (path : String) : Except FileFault Bytes :=
  if path.toList.contains '\x00' then .error .zeroInName
  else if path = "" then .error .notFound
  else if path.utf8ByteSize ≥ 4096 then .error .nameTooLong
  else files.follow (start path) (parts path)

end FileTree

/-- A way to read files: each path gives octets or a reason why not. -/
abbrev FileSource := String → Except FileFault Bytes

namespace FileSource

/-- The text of a file. -/
def readText (files : FileSource) (path : String) : Except FileFault String := do
  let bytes ← files path
  match Utf8.decode bytes with
  | .ok text => .ok text
  | .error _ => .error .notText

end FileSource

end GroundLink
