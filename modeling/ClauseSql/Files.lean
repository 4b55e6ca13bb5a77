/-!
# Files

Settings and catalogs are read from files.

## What is here

* `Files` — what is asked of a file system, in any monad.
* `FileTree` — a directory given by what is below it, and `FileTree.files`, which answers for a
  working directory.
* `FilePath.directory` and `FilePath.join` — the directory that a path to a file leads through, and
  a path followed from a directory.  Both keep the spelling of what they are given.
-/

set_option autoImplicit false

namespace ClauseSql

/-- What is asked of a file system. -/
structure Files (m : Type → Type) where
  /-- Whether there is a file or a directory at a path. -/
  isPresent : String → m Bool
  /-- The text of the file at a path; none if there is no such file, or it is no text. -/
  read? : String → m (Option String)

/-! ## Paths -/

namespace FilePath

/-- Whether a path starts from the root of the file system. -/
def isAbsolute (path : String) : Bool := path.toList.head? == some '/'

/-- Drops separators and steps that stay in place from the end of a path, which is given from its
last character to its first.  What is left of the root is the root. -/
def dropTail : List Char → List Char
  | '/' :: rest => if rest.isEmpty then ['/'] else dropTail rest
  | '.' :: '/' :: rest => dropTail ('/' :: rest)
  | rest => rest

/-- The directory that a path to a file leads through; empty for a bare name. -/
def directory (path : String) : String :=
  String.ofList (dropTail (path.toList.reverse.dropWhile (· != '/'))).reverse

/-- A path followed from a directory. -/
def join (directory path : String) : String :=
  match directory.toList.getLast? with
  | none | some '/' => directory ++ path
  | some _ => directory ++ "/" ++ path

/-- The names between the separators of a path, without those that stay in place. -/
def steps (path : String) : List String :=
  (path.splitOn "/").filter fun name => name != "" && name != "."

/-- A directory, given by the path from the root, and then those it lies in. -/
def ancestors (path : String) : List String :=
  let names := steps path
  ((List.range (names.length + 1)).map fun count =>
    "/" ++ "/".intercalate (names.take count)).reverse

/-- Whether a path can only be that of a directory. -/
def endsInDirectory (path : String) : Bool :=
  (path.splitOn "/").getLast? == some "" || (path.splitOn "/").getLast? == some "."

end FilePath

/-! ## Trees -/

/-- A directory, as what is below it with the names that lead there. -/
structure FileTree where
  /-- The files, with their texts. -/
  entries : List (List String × String)
  /-- Directories, which may hold no file. -/
  directories : List (List String) := []
  /-- Whether it is the root of the file system, which is its own parent. -/
  isRoot : Bool := false
deriving Repr

/-- What is at a path. -/
inductive FileEntry where
  | directory
  | file (text : String)
deriving DecidableEq, Repr

namespace FileTree

/-- The directory with files at the given paths. -/
def ofList (files : List (String × String)) : FileTree where
  entries := files.map fun file => (FilePath.steps file.1, file.2)

/-- What can be counted on below the root of the file system. -/
def root : FileTree where
  entries := [(["dev", "null"], ""), (["etc", "passwd"], "root:x:0:0:root:/root:/bin/sh\n")]
  directories := [["bin"], ["home"], ["lib"], ["media"], ["mnt"], ["opt"], ["proc"], ["root"],
    ["run"], ["sbin"], ["srv"], ["sys"], ["tmp"], ["usr"], ["usr", "bin"], ["usr", "lib"],
    ["usr", "local"], ["usr", "share"], ["var"], ["var", "log"], ["var", "tmp"]]
  isRoot := true

/-- Whether the names lead to a directory: it is the one the tree stands for, is listed, or has a
file. -/
def isDirectory (tree : FileTree) (names : List String) : Bool :=
  names.isEmpty || tree.directories.contains names ||
    tree.entries.any fun entry => names.isPrefixOf entry.1 && names != entry.1

/-- What the names lead to. -/
def entry? (tree : FileTree) (names : List String) : Option FileEntry :=
  if tree.isDirectory names then some .directory
  else (tree.entries.find? fun entry => entry.1 == names).map fun entry => .file entry.2

/-- What the given steps lead to from the place that `names` lead to.  A step is only made from a
directory.  Nothing is known of the directories that the tree lies in but that they are there. -/
def follow (tree : FileTree) (names : List String) : List String → Option FileEntry
  | [] => tree.entry? names
  | step :: rest =>
    match tree.entry? names with
    | some .directory =>
      if step != ".." then follow tree (names ++ [step]) rest
      else if !names.isEmpty || tree.isRoot then follow tree names.dropLast rest
      else if rest.all (· == "..") then some .directory
      else none
    | _ => none

/-- The greatest number of bytes of a path. -/
def longestPath : Nat := 4095

/-- What is at a path. -/
def find? (tree : FileTree) (path : String) : Option FileEntry :=
  if path.isEmpty || longestPath < path.utf8ByteSize then none
  else
    match (if FilePath.isAbsolute path then root else tree).follow [] (FilePath.steps path) with
    | some (.file text) => if FilePath.endsInDirectory path then none else some (.file text)
    | found => found

/-- Whether there is a file or a directory at a path. -/
def isPresent (tree : FileTree) (path : String) : Bool := (tree.find? path).isSome

/-- The text of the file at a path. -/
def read? (tree : FileTree) (path : String) : Option String :=
  match tree.find? path with
  | some (.file text) => some text
  | _ => none

/-- A file system that never changes, with a tree as the working directory. -/
def files (tree : FileTree) : Files Id := ⟨tree.isPresent, tree.read?⟩

end FileTree
end ClauseSql
