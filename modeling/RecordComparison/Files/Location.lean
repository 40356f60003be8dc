/-!
Paths of files as texts. Nothing here looks at the files themselves.
-/
namespace RecordComparison.Location

def fileName (path : List Char) : List Char :=
  (path.reverse.takeWhile (· != '/')).reverse

/-- What comes after the last dot of a file's name; a name that only begins with a dot has no
extension. -/
def extension? (path : String) : Option String :=
  let reversed := (fileName path.toList).reverse
  let ending := reversed.takeWhile (· != '.')
  match reversed.dropWhile (· != '.') with
  | [] => none
  | [_] => none
  | _ :: _ :: _ => some (String.ofList ending.reverse)

def trimEnd : List Char → List Char
  | ['/'] => ['/']
  | '/' :: rest => trimEnd rest
  | ['.', '/'] => ['/']
  | '.' :: '/' :: rest => trimEnd rest
  | path => path

def parent (path : String) : String :=
  String.ofList (trimEnd (path.toList.reverse.dropWhile (· != '/'))).reverse

def isAbsolute (path : String) : Bool := path.toList.head? == some '/'

def join (directory path : String) : String :=
  if isAbsolute path ∨ directory = "" then path
  else if directory.toList.getLast? = some '/' then directory ++ path
  else directory ++ "/" ++ path

end RecordComparison.Location
