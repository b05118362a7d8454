import FailureReplay.Text.Basic

/-!
# Paths

Paths are texts with `/` between names. Empty names and `.` name nothing, except
for a leading `.`.
-/

namespace FailureReplay.Path

/-- The names of a path that name something. -/
def names (path : Text) : List Text :=
  (path.splitOn '/').filter fun name => !name.isEmpty && name != ['.']

/-- The last name, unless it leads to a parent directory. -/
def fileName? (path : Text) : Option Text :=
  match (names path).getLast? with
  | some name => if name = ['.', '.'] then none else some name
  | none => none

/-- A file name up to its last dot; a leading dot does not count. -/
def stem (name : Text) : Text :=
  match (name.reverse.dropWhile (· != '.')).drop 1 with
  | [] => name
  | before => before.reverse

/-- The end of a reversed path without separators and names that name nothing. -/
def dropTail : Text → Text
  | [] => []
  | c :: rest =>
    if c = '/' && !rest.isEmpty then dropTail rest
    else if c = '.' && rest.head? = some '/' then dropTail rest
    else c :: rest

/-- The directory part of a path, as it is written; empty when there is none. -/
def directory (path : Text) : Text :=
  match dropTail path.reverse with
  | ['/'] => []
  | trimmed => (dropTail (trimmed.dropWhile (· != '/'))).reverse

def join (dir name : Text) : Text :=
  if dir.isEmpty then name
  else if dir.getLast? = some '/' then dir ++ name
  else dir ++ '/' :: name

end FailureReplay.Path
