import DataPath.Files.Access
import DataPath.Files.Path

/-!
# A tree of files in memory

A tree assigns to some paths a directory or a file.  The root is always a directory,
and paths lead through directories only.
-/

namespace DataPath.Files

/-- What there is at a path. -/
inductive Entry where
  | directory
  | file (text : String)
  deriving DecidableEq, Repr

/-- Directories and files by the names along their paths. -/
structure Tree where
  entries : List (List String × Entry) := []
  deriving Repr

namespace Tree

/-- What there is at the end of these names. -/
def entry? (tree : Tree) (names : List String) : Option Entry :=
  if names.isEmpty then some .directory else tree.entries.lookup names

/-- The tree with something put at the end of these names. -/
def put (tree : Tree) (names : List String) (entry : Entry) : Tree :=
  ⟨(names, entry) :: tree.entries.filter fun e => e.1 ≠ names⟩

/-- Whether there is something at a path. -/
def contains (tree : Tree) (path : String) : Bool := (tree.entry? (names path)).isSome

/-- The text of the file at a path. -/
def read? (tree : Tree) (path : String) : Option String :=
  match tree.entry? (names path) with
  | some (.file text) => some text
  | _ => none

/-- Create the directories with these names below one another, as far as they are
missing, and say whether none of them is a file. -/
def createBelow (tree : Tree) (above : List String) : List String → Tree × Bool
  | [] => (tree, true)
  | name :: rest =>
    let here := above ++ [name]
    match tree.entry? here with
    | some .directory => tree.createBelow here rest
    | some (.file _) => (tree, false)
    | none => (tree.put here .directory).createBelow here rest

/-- Create a directory with all directories above it, as far as they are missing. -/
def createDirs (tree : Tree) (path : String) : Tree × Bool := tree.createBelow [] (names path)

/-- Write a text to the file at a path; the directory must be there. -/
def write (tree : Tree) (path text : String) : Tree × Bool :=
  let here := names path
  match tree.entry? here.dropLast, tree.entry? here with
  | some .directory, none | some .directory, some (.file _) => (tree.put here (.file text), true)
  | _, _ => (tree, false)

/-- Access to a tree that is carried along. -/
def access : Access (StateM Tree) where
  exists? path := do return (← get).contains path
  read? path := do return (← get).read? path
  createDirs path := modifyGet fun tree => (tree.createDirs path).swap
  write path text := modifyGet fun tree => (tree.write path text).swap

end Tree

end DataPath.Files
