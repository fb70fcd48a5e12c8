import SqlFront.Files

/-!
# SqlFront.Files.InMemory

A file system held in memory: a tree of directories and files, seen from the directory in which it
stands.
-/

namespace SqlFront

inductive FileTree where
  | file (bytes : ByteArray)
  | directory (entries : List (String × FileTree))

namespace FileTree

instance : Inhabited FileTree := ⟨.directory []⟩

/-- The parts of a path between its slashes. -/
def parts (path : String) : List String := path.splitOn "/"

/-- The entries with one replaced or added. -/
def put (name : String) (tree : FileTree) : List (String × FileTree) → List (String × FileTree)
  | [] => [(name, tree)]
  | (n, t) :: entries => if n == name then (n, tree) :: entries else (n, t) :: put name tree entries

/-- The tree with something at a path; directories on the way are made if they are missing. A
directory that is there already stays as it is. -/
def add (item : FileTree) : List String → FileTree → FileTree
  | [], tree =>
    match item, tree with
    | .directory [], .directory entries => .directory entries
    | _, _ => item
  | name :: path, tree =>
    let entries := match tree with
      | .directory entries => entries
      | .file _ => []
    .directory (put name (add item path ((entries.lookup name).getD default)) entries)

/-- Follows a path downwards from a tree. `above` holds the directories that were passed, the
nearest first; above the outermost there is nothing to be seen. -/
def follow (above : List FileTree) (tree : FileTree) :
    List String → Except ReadFailure FileTree
  | [] => .ok tree
  | name :: path =>
    match tree with
    | .file _ => .error .notDirectory
    | .directory entries =>
      if name == "" || name == "." then follow above tree path
      else if name == ".." then follow above.tail (above.headD default) path
      else
        match entries.lookup name with
        | some inner => follow (tree :: above) inner path
        | none => .error .notFound

/-- What is at a path. A path that starts with a slash does not lead into the tree. -/
def find (tree : FileTree) (path : String) : Except ReadFailure FileTree :=
  if path.isEmpty then .error .notFound
  else if path.toList.contains '\x00' then .error .badPath
  else if path.startsWith "/" then follow [] (.directory []) (parts path)
  else follow [] tree (parts path)

/-- The view of the tree. -/
def files (tree : FileTree) : Files where
  holds path := (tree.find path).toBool
  read path :=
    match tree.find path with
    | .ok (.file bytes) => .ok bytes
    | .ok (.directory _) => .error .isDirectory
    | .error failure => .error failure

/-- The tree with these items, each under its path. -/
def ofItems (items : List (String × FileTree)) : FileTree :=
  items.foldl (fun tree item => add item.2 ((parts item.1).filter (· != "")) tree) default

end FileTree
end SqlFront
