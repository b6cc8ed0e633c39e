/-!
# Access to files

What a program needs from a file system, with the effects of some monad: the disk in
the program that is run, a tree in memory when it is studied.
-/

namespace DataPath.Files

/-- The operations on files.  Each one that can fail says whether it succeeded. -/
structure Access (m : Type → Type) where
  /-- Whether there is something at a path. -/
  exists? : String → m Bool
  /-- The text of the file at a path. -/
  read? : String → m (Option String)
  /-- Create a directory with all directories above it, as far as they are missing. -/
  createDirs : String → m Bool
  /-- Write a text to the file at a path. -/
  write : String → String → m Bool

end DataPath.Files
