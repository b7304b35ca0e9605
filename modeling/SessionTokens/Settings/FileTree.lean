/-! # File trees

Text files by their paths, below one directory. A path is followed part by part, so a detour through
a directory that is not there leads nowhere.
-/

namespace SessionTokens

/-- The parts of a path. -/
def pathParts (path : String) : List String := (path.toList.splitOn '/').map String.ofList

/-- Where a path leads that goes on with the given parts from a directory. All but the last part
must be directories, and the last one must be a name. -/
def walkPath (isDirectory : List String → Bool) (here : List String) :
    List String → Option (List String)
  | [] => none
  | part :: parts =>
    if part = "" || part = "." then walkPath isDirectory here parts
    else if part = ".." then
      if here.isEmpty then none else walkPath isDirectory here.dropLast parts
    else if parts.isEmpty then some (here ++ [part])
    else if isDirectory (here ++ [part]) then walkPath isDirectory (here ++ [part]) parts
    else none

/-- Files by the parts of their paths. -/
structure FileTree where
  files : List (List String × String)

namespace FileTree

/-- The tree of files with the given paths and texts. -/
def ofList (files : List (String × String)) : FileTree where
  files := files.filterMap fun f =>
    (walkPath (fun _ => true) [] (pathParts f.1)).map fun parts => (parts, f.2)

/-- There is a file somewhere below. -/
def isDirectory (t : FileTree) (parts : List String) : Bool :=
  t.files.any fun f => parts.isPrefixOf f.1 && parts.length < f.1.length

/-- The text of the file at a path. An absolute path leads out of the tree. -/
def text? (t : FileTree) (path : String) : Option String :=
  if path.startsWith "/" then none
  else
    match walkPath t.isDirectory [] (pathParts path) with
    | some parts => (t.files.find? (·.1 = parts)).map (·.2)
    | none => none

end FileTree

end SessionTokens
