/-!
The parts of a path of a file.
-/

namespace ArrivalRamp.FilePath

/-- A path, read from its end, without slashes and single dots that change nothing there. -/
def trimTail : List Char → List Char
  | ['/'] => ['/']
  | '/' :: rest => trimTail rest
  | '.' :: '/' :: rest => trimTail ('/' :: rest)
  | path => path

/-- A path without slashes and single dots at its end. -/
def trimmed (path : String) : List Char :=
  (trimTail path.toList.reverse).reverse

/-- The last name of a path, unless it leads upward. -/
def lastName? (path : String) : Option (List Char) :=
  let name := ((trimmed path).reverse.takeWhile (· ≠ '/')).reverse
  if name = [] || name = ['.'] || name = ['.', '.'] then none else some name

/-- What follows the last dot of the last name, if something stands before the dot. -/
def extension? (path : String) : Option String :=
  (lastName? path).bind fun name =>
    let fromEnd := name.reverse
    let after := fromEnd.takeWhile (· ≠ '.')
    if fromEnd.length ≤ after.length + 1 then none else some (String.ofList after.reverse)

/-- The directory that a path lies in. It is empty for a name alone. -/
def parent? (path : String) : Option String :=
  let whole := trimmed path
  if whole = [] || whole = ['/'] then none
  else some (String.ofList (trimTail (whole.reverse.dropWhile (· ≠ '/'))).reverse)

/-- The directory that a path lies in, if it is named. -/
def directory? (path : String) : Option String :=
  (parent? path).filter fun directory => !directory.isEmpty

/-- A name below a directory. -/
def join (directory name : String) : String :=
  if directory.isEmpty || directory.endsWith "/" then directory ++ name
  else directory ++ "/" ++ name

end ArrivalRamp.FilePath
