/-!
# File paths

Paths are texts with slashes between names.  A relative path is looked up from the
directory of the document that names it.
-/

namespace Assessment.FilePath

/-- The path without slashes and `.` parts at its end. -/
def trimEnd : List Char → List Char
  | [] => []
  | text =>
      let parts := trimReversed text.reverse
      if parts.isEmpty && text.head? == some '/' then ['/'] else parts.reverse
where
  /-- The same for a path whose last character comes first. -/
  trimReversed : List Char → List Char
    | '/' :: rest => trimReversed rest
    | ['.'] => ['.']
    | '.' :: '/' :: rest => trimReversed ('/' :: rest)
    | rest => rest

/-- The directory that a path lies in.  A path of one name lies in the directory with
the empty path, and a path without names in none. -/
def parent? (path : String) : Option String :=
  let text := trimEnd path.toList
  let name := (text.reverse.takeWhile (· != '/')).reverse
  if name.isEmpty then none
  else some (String.ofList (trimEnd (text.take (text.length - name.length))))

def isAbsolute (path : String) : Bool :=
  path.toList.head? == some '/'

/-- The path as seen from a directory. -/
def join (directory path : String) : String :=
  if isAbsolute path || directory.isEmpty then path
  else if directory.toList.getLast? == some '/' then directory ++ path
  else directory ++ "/" ++ path

end Assessment.FilePath
