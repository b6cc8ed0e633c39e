/-!
# File paths

A path is a text of names with slashes between them; it is absolute when it begins
with a slash.  Empty names and the name `.` mean nothing, except for a `.` in front.
-/

namespace DataPath.Files

/-- Whether a path begins at the root. -/
def isAbsolute (path : String) : Bool := path.toList.head? = some '/'

/-- The path of a name below a directory. -/
def join (directory name : String) : String :=
  if directory.isEmpty ∨ directory.toList.getLast? = some '/' then directory ++ name
  else directory ++ "/" ++ name

/-- The parts of a path between its slashes. -/
def parts : List Char → List (List Char)
  | [] => [[]]
  | '/' :: cs => [] :: parts cs
  | c :: cs => match parts cs with
    | [] => [[c]]
    | part :: rest => (c :: part) :: rest

/-- The names along a path. -/
def names (path : String) : List String :=
  ((parts path.toList).map String.ofList).filter fun name => name ≠ "" ∧ name ≠ "."

/-- A reversed path without the slashes, and the names `.`, that it ends with. -/
def trimEnd : List Char → List Char
  | '/' :: rest => match trimEnd rest with
    | [] => ['/']
    | rest => rest
  | '.' :: '/' :: rest => match trimEnd rest with
    | [] => ['/']
    | rest => rest
  | cs => cs

/-- The directory that a path lies in: the path without its last name.  The root lies
in no directory, and a path that is a single name lies in the empty path. -/
def parent? (path : String) : Option String :=
  match trimEnd path.toList.reverse with
  | [] | ['/'] => none
  | cs =>
    let rest := cs.dropWhile (· ≠ '/')
    some (String.ofList (trimEnd rest).reverse)

end DataPath.Files
