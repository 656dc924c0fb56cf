import Assessment.CommandLine
import Assessment.Text.Blank

/-!
# Trees of files

A tree of text files that is held as data: every file by its path from the root, which
is the working directory.  The program can run on such a tree instead of a disk.
-/

namespace Assessment

/-- The contents of files by the names on their paths. -/
structure FileTree where
  files : List (List (List Char) × String)

namespace FileTree

/-- The names on a relative path, without empty ones and full stops. -/
def names (path : List Char) : List (List Char) :=
  (Text.split (· == '/') path).filter fun name => !name.isEmpty && name != ['.']

/-- The tree with the given files, of which the last of each path counts. -/
def ofList (files : List (String × String)) : FileTree :=
  ⟨(files.map fun (path, content) => (names path.toList, content)).reverse⟩

/-- Whether a directory is in the tree; the root always is. -/
def hasDirectory (tree : FileTree) (directory : List (List Char)) : Bool :=
  directory.isEmpty || tree.files.any fun (path, _) =>
    directory.isPrefixOf path && directory.length < path.length

/-- Follows names from a directory, each of which but the last has to lead to a
directory. -/
def follow? (tree : FileTree) (directory : List (List Char)) :
    List (List Char) → Option (List (List Char))
  | [] => some directory
  | name :: rest =>
      if !tree.hasDirectory directory then none
      else if name == ['.', '.'] then
        if directory.isEmpty then none else follow? tree directory.dropLast rest
      else follow? tree (directory ++ [name]) rest

/-- What is found under a path.  A slash at its end asks for a directory, and absolute
paths lead out of the tree. -/
def read (tree : FileTree) (path : String) : FileContent :=
  let text := path.toList
  if text.head? == some '/' || text.getLast? == some '/' then .absent
  else
    match tree.follow? [] (names text) with
    | none => .absent
    | some found =>
        match tree.files.find? fun file => file.1 == found with
        | some file => .text file.2
        | none => .absent

end FileTree

end Assessment
