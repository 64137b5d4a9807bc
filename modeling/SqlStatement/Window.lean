/-!
# Windows of rows

A page is the window of rows that a limit and an offset select.  Pages are numbered from one, and
page numbers and sizes below one count as one.  The first row of a page far behind may have no
64-bit index; `Window.ofPage` then gives an `Overflow` and no window.
-/

namespace SqlStatement

/-- The failure of a product that leaves the 64-bit range. -/
inductive Overflow where
  | multiply
deriving DecidableEq, Inhabited

/-- The report of an overflow. -/
def Overflow.message : Overflow → String
  | multiply => "attempt to multiply with overflow"

/-- A range of rows. -/
structure Window where
  limit : Int64
  offset : Int64
deriving DecidableEq

/-- The rows of a page of the given number and size. -/
def Window.ofPage (page perPage : Int64) : Except Overflow Window :=
  let size := max perPage 1
  let skippedPages := max page 1 - 1
  if skippedPages.toInt * size.toInt ≤ Int64.maxValue.toInt then
    .ok ⟨size, skippedPages * size⟩
  else
    .error .multiply

end SqlStatement
