/-!
# Sort keys

The entries of an `order by` clause.  The first entry is the primary key of the sort.
-/

namespace SqlStatement

/-- The direction of a sort. -/
inductive Direction where
  | ascending
  | descending
deriving DecidableEq

namespace Direction

instance : Inhabited Direction := ⟨.ascending⟩

/-- The keyword behind a sort key. -/
def keyword : Direction → String
  | ascending => "asc"
  | descending => "desc"

end Direction

/-- A field to sort by. -/
structure SortKey where
  field : String
  direction : Direction
deriving DecidableEq, Inhabited

namespace SortKey

/-- The text of a sort key. -/
def sql (key : SortKey) : String :=
  key.field ++ " " ++ key.direction.keyword

/-- The texts of sort keys, between commas. -/
def listSql (keys : List SortKey) : String :=
  ",".intercalate (keys.map sql)

end SortKey

end SqlStatement
