/-! The last component of a path. -/
namespace RecordCache

/-- The components of a path. Slashes in a row count as one, and a component `.` names nothing. -/
def pathComponents (path : String) : List String :=
  (path.splitOn "/").filter fun part => part != "" && part != "."

/-- The last component of a store's name. A name without one, or one that ends in `..`, is its own
short form. -/
def fileName (path : String) : String :=
  match (pathComponents path).getLast? with
  | none => path
  | some last => if last = ".." then path else last

end RecordCache
