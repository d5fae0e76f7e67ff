import RouteHighlight.Path

/-!
# Directories

A directory holds text files at relative paths. It also has the directories that those files
lie in.
-/

namespace RouteHighlight.Config

structure Directory where
  files : List (String × String)

namespace Directory

def places (dir : Directory) : List (List (List Char) × String) :=
  dir.files.map fun (path, text) => (Path.components path, text)

def hasDirectory (dir : Directory) (way : List (List Char)) : Bool :=
  way.isEmpty || dir.places.any fun (place, _) => way.length < place.length && way.isPrefixOf place

def file? (dir : Directory) (way : List (List Char)) : Option String :=
  (dir.places.find? (·.1 == way)).map (·.2)

/-- The file that components lead to, from the directory at the end of `way`. All components but
the last must name directories, and two dots go up. Nothing is known of what lies above. -/
def follow? (dir : Directory) (way : List (List Char)) : List (List Char) → Option String
  | [] => none
  | part :: parts =>
    if part = [] ∨ part = ['.'] then dir.follow? way parts
    else if part = ['.', '.'] then
      if way.isEmpty then none else dir.follow? way.dropLast parts
    else
      let way := way ++ [part]
      if parts.isEmpty then dir.file? way
      else if dir.hasDirectory way then dir.follow? way parts
      else none

def read? (dir : Directory) (path : String) : Option String :=
  dir.follow? [] (Path.split path)

def joined (parts : List (List Char)) : String :=
  String.ofList (['/'].intercalate parts)

/-- The path with the extension of configuration files appended to its last component, if that
names a file. -/
def extended (path : String) : String :=
  let parts := ((Path.split path).reverse.dropWhile fun part => part = [] || part = ['.']).reverse
  match parts.getLast? with
  | none => path
  | some part =>
    if part = ['.', '.'] then path else joined parts ++ ".toml"

/-- A configuration file: the path as given, or else with the extension appended. The result is
the path without its dots, and the text. -/
def find? (dir : Directory) (path : String) : Option (String × String) :=
  (lookup? path).or (lookup? (extended path))
where
  lookup? (path : String) : Option (String × String) :=
    (dir.read? path).map fun text => (joined (Path.components path), text)

end Directory

end RouteHighlight.Config
