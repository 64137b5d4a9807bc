import SqlStatement.Filter

/-!
# Filter edits

The ways to build a filter directly, as data: filing a condition or a group, starting over, and
filing the filter itself as a group, in itself or in a new filter.

* `Filter.Edit.apply` is the effect of one edit and `Filter.Edit.applyAll` that of a list.
* `Filter.Edit.history` gives the filter after every edit of a list.
-/

namespace SqlStatement.Filter

/-- A step in building a filter. -/
inductive Edit where
  | push (connector : Connector) (condition : Condition)
  /-- Files the filter that the inner edits build from nothing. -/
  | pushGroup (connector : Connector) (edits : List Edit)
  /-- Starts over with one condition. -/
  | single (condition : Condition)
  /-- Starts over with nothing. -/
  | clear
  /-- Files a copy of the filter in itself. -/
  | nest (connector : Connector)
  /-- Files the filter in a new one. -/
  | wrap (connector : Connector)
deriving Inhabited

namespace Edit

mutual

/-- The filter after an edit. -/
def apply : Edit → Filter → Filter
  | push connector c, f => f.push connector c
  | pushGroup connector edits, f => f.pushGroup connector (applyAll edits empty)
  | single c, _ => .single c
  | clear, _ => empty
  | nest connector, f => f.pushGroup connector f
  | wrap connector, f => empty.pushGroup connector f

/-- The filter after a list of edits. -/
def applyAll : List Edit → Filter → Filter
  | [], f => f
  | edit :: edits, f => applyAll edits (edit.apply f)

end

/-- The filter after each edit of a list. -/
def history : List Edit → Filter → List Filter
  | [], _ => []
  | edit :: edits, f => edit.apply f :: history edits (edit.apply f)

end Edit

end SqlStatement.Filter
