/-! Paths as texts. A slash separates the components; an empty component and a
single dot stand for the directory reached so far. -/

namespace ScriptedDialog.Files.Path

/-- A path below a directory. A path that starts with a slash stands on its own. -/
def join (directory path : String) : String :=
  if directory.isEmpty || path.startsWith "/" then path
  else if directory.endsWith "/" then directory ++ path
  else directory ++ "/" ++ path

/-- The components of a path, empty ones included. -/
def components (path : String) : List String :=
  (path.toList.splitOnP (· = '/')).map String.ofList

/-- Takes the empty and single dot components off the end of a path that is
written backwards. -/
def dropStays : List Char → List Char
  | '/' :: rest => dropStays rest
  | '.' :: '/' :: rest => dropStays rest
  | ['.'] => []
  | path => path

/-- A path without the components at its end that lead nowhere. What the path
starts from, a slash or a dot of its own, stays. -/
def tidied (path : List Char) : List Char :=
  match path with
  | '/' :: rest => '/' :: (dropStays rest.reverse).reverse
  | '.' :: '/' :: rest => '.' :: (dropStays ('/' :: rest).reverse).reverse
  | ['.'] => ['.']
  | path => (dropStays path.reverse).reverse

/-- The path without its last component. -/
def parent (path : String) : String :=
  String.ofList (tidied (path.toList.reverse.dropWhile (· ≠ '/')).reverse)

/-- The last component. -/
def name (path : String) : String :=
  String.ofList (path.toList.reverse.takeWhile (· ≠ '/')).reverse

end ScriptedDialog.Files.Path
