import DashQuery.Text.Scan

/-!
# Files and where they are looked for

A settings file given by a relative path is looked for in the working directory, then in every
directory around it.
-/

namespace DashQuery

/-- Files below one root directory, by their paths of names. -/
structure FileTree where
  files : List (List String × String)
  /-- The directories that exist besides those that the files need. -/
  directories : List (List String)

namespace FileTree

/-- Whether a path leads to a directory. -/
def hasDirectory (tree : FileTree) (path : List String) : Bool :=
  (tree.files.any fun f => path.length < f.1.length && path.isPrefixOf f.1) ||
    tree.directories.any fun d => path.isPrefixOf d

/-- The text of the file at the end of a path of names, `.` and `..` from a directory. -/
def read? (tree : FileTree) (directory : List String) : List String → Option String
  | [] => none
  | [name] =>
    if name = "" ∨ name = "." ∨ name = ".." then none
    else tree.files.lookup (directory ++ [name])
  | name :: path =>
    if name = "" ∨ name = "." then tree.read? directory path
    else if name = ".." then
      if directory.isEmpty then none else tree.read? directory.dropLast path
    else if tree.hasDirectory (directory ++ [name]) then tree.read? (directory ++ [name]) path
    else none

/-- The text of the file found first from a directory upwards; the list holds the names of the
directory from the inside out. -/
def findUpwards? (tree : FileTree) (path : List String) : List String → Option String
  | [] => tree.read? [] path
  | name :: outer =>
    match tree.read? (name :: outer).reverse path with
    | some text => some text
    | none => tree.findUpwards? path outer

/-- The text of the file that a path given in a working directory leads to. -/
def find? (tree : FileTree) (workingDirectory : List String) (path : String) : Option String :=
  if path.toList.head? = some '/' then none
  else tree.findUpwards? (Text.pieces '/' path) workingDirectory.reverse

end FileTree

end DashQuery
