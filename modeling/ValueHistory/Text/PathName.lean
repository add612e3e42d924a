import ValueHistory.Text.Split

/-! Paths as texts. Slashes stand between the names; several in a row count as one, and a single dot
as no name at all.
-/

namespace ValueHistory.PathName

/-- What stands between the slashes of a path. -/
def parts (path : String) : List String :=
  (Text.split '/' path.toList).map String.ofList

/-- Whether a part of a path leads nowhere. -/
def isIdle (part : String) : Bool :=
  part = "" || part = "."

/-- The names of a path in their order; two dots are a name, that of the directory above. -/
def names (path : String) : List String :=
  (parts path).filter fun part => !isIdle part

/-- Whether a path begins at the root. -/
def isAbsolute (path : String) : Bool :=
  path.toList.head? = some '/'

/-- Whether a path says by its end that it is the path of a directory. -/
def meansDirectory (path : String) : Bool :=
  (parts path).getLast?.any isIdle

/-- The path without its last name. It is empty where no name is left, which means the directory
that the path begins at.
-/
def parent (path : String) : String :=
  let rest := ((parts path).reverse.dropWhile isIdle).drop 1
  "/".intercalate (rest.dropWhile isIdle).reverse

end ValueHistory.PathName
