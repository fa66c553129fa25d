import NCBlock.Text.Basic

/-!
What the tool sees of a file system, and a tree of files held in memory.
-/

namespace NCBlock

structure Files where
  /-- There is a file, not a directory, at a path. -/
  isFile : Text → Bool
  /-- The content of the file at a path, if it can be read and is text. -/
  read : Text → Option Text

/-- Text of bytes in UTF-8. -/
def Text.ofUtf8? (bytes : List UInt8) : Option Text :=
  (String.fromUTF8? ⟨bytes.toArray⟩).map String.toList

/-- The parts of a text between slashes. -/
def Text.splitPath : Text → List Text
  | [] => [[]]
  | '/' :: rest => [] :: splitPath rest
  | c :: rest =>
    match splitPath rest with
    | [] => [[c]]
    | part :: parts => (c :: part) :: parts

/-- Files by the names that lead to them from the root. -/
structure FileTree where
  entries : List (List Text × List UInt8)

namespace FileTree

def isDirectory (tree : FileTree) (location : List Text) : Bool :=
  location = [] || tree.entries.any fun e =>
    location.isPrefixOf e.1 && location.length < e.1.length

/-- Where names lead from a location. Every step starts in a directory. -/
def follow (tree : FileTree) : List Text → List Text → Option (List Text)
  | location, [] => some location
  | location, name :: rest =>
    if !tree.isDirectory location then none
    else if name = [] ∨ name = ['.'] then tree.follow location rest
    else if name = ['.', '.'] then
      if location = [] then none else tree.follow location.dropLast rest
    else tree.follow (location ++ [name]) rest

/-- The bytes of the file that a relative path leads to. -/
def find? (tree : FileTree) (path : Text) : Option (List UInt8) :=
  if path = [] ∨ path.head? = some '/' then none
  else
    match tree.follow [] (Text.splitPath path) with
    | some location => tree.entries.lookup location
    | none => none

def files (tree : FileTree) : Files where
  isFile path := (tree.find? path).isSome
  read path := (tree.find? path).bind Text.ofUtf8?

end FileTree

end NCBlock
