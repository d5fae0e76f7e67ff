/-!
# Paths

The components of a path stand between slashes. Empty components and single dots say nothing
about the place.
-/

namespace RouteHighlight.Path

def split (path : String) : List (List Char) := path.toList.splitOn '/'

def components (path : String) : List (List Char) :=
  (split path).filter fun part => part != [] && part != ['.']

/-- The name of the file at a path: the last component, unless that leads upwards. -/
def fileName? (path : String) : Option String :=
  match (components path).getLast? with
  | none => none
  | some part => if part = ['.', '.'] then none else some (String.ofList part)

def baseName (path : String) : String := (fileName? path).getD path

end RouteHighlight.Path
