import Mathlib.Algebra.Order.Ring.Int
import Mathlib.Data.Int.ConditionallyCompleteOrder
import Mathlib.Order.CompletePartialOrder
import Mathlib.Order.Interval.Set.Disjoint
import SqlStatement.Proofs.Query.Clauses
import SqlStatement.Proofs.Table.Pagination

/-!
# Pages

The page of a number and a size starts behind the rows of the pages before it.  Its first row has
the product of their number and their size as its index, and only this product can leave the 64-bit
range.

* `Window.ofPage_eq_ok_iff` and `Window.ofPage_eq_error_iff` say when there is a window and which.
* `Window.mem_rows_iff_ediv_eq` says that a row is on the page that its index divided by the page
  size names, so that pages of one size cannot overlap or leave rows out.
* `Query.Step.pages_tile_rows` is the main result.
-/

namespace SqlStatement

open Fallible

namespace Window

/-! ### Page numbers and sizes -/

/-- The number of pages before a page. -/
def pagesBefore (page : Int64) : Int :=
  max page.toInt 1 - 1

/-- The number of rows on a page. -/
def pageSize (perPage : Int64) : Int :=
  max perPage.toInt 1

variable {page perPage : Int64} {window : Window}

theorem toInt_max_one (n : Int64) : (max n 1).toInt = max n.toInt 1 := by
  have hmax : max n 1 = if n ≤ 1 then 1 else n := rfl
  rw [hmax]
  split
  case isTrue h =>
    exact (max_eq_right (Int64.le_iff_toInt_le.1 h)).symm
  case isFalse h =>
    rw [Int64.le_iff_toInt_le, not_le] at h
    exact (max_eq_left h.le).symm

theorem toInt_pageSize (perPage : Int64) : (max perPage 1).toInt = pageSize perPage :=
  toInt_max_one perPage

theorem one_le_iff (page : Int64) : 1 ≤ page ↔ 1 ≤ page.toInt :=
  Int64.le_iff_toInt_le

theorem le_one_iff (page : Int64) : page ≤ 1 ↔ page.toInt ≤ 1 :=
  Int64.le_iff_toInt_le

theorem toInt_pagesBefore (page : Int64) : (max page 1 - 1).toInt = pagesBefore page := by
  have hone : 1 ≤ max page 1 := by
    rw [one_le_iff, toInt_max_one]
    exact le_max_right _ _
  rw [Int64.toInt_sub_of_le _ _ (by decide) hone, toInt_max_one]
  rfl

theorem pagesBefore_nonneg (page : Int64) : 0 ≤ pagesBefore page :=
  sub_nonneg_of_le (le_max_right _ _)

theorem one_le_pageSize (perPage : Int64) : 1 ≤ pageSize perPage :=
  le_max_right _ _

theorem pagesBefore_of_one_le
    (h : 1 ≤ page) :
    pagesBefore page = page.toInt - 1 := by
  rw [pagesBefore, max_eq_left ((one_le_iff page).1 h)]

theorem pagesBefore_of_le_one
    (h : page ≤ 1) :
    pagesBefore page = 0 := by
  rw [pagesBefore, max_eq_right ((le_one_iff page).1 h), sub_self]

/-- The index of the first row of a page. -/
def firstRow (page perPage : Int64) : Int :=
  pagesBefore page * pageSize perPage

theorem firstRow_nonneg (page perPage : Int64) : 0 ≤ firstRow page perPage :=
  mul_nonneg (pagesBefore_nonneg page) (zero_le_one.trans (one_le_pageSize perPage))

/-! ### Overflow -/

theorem ofPage_eq (page perPage : Int64) :
    ofPage page perPage =
      if firstRow page perPage ≤ 2 ^ 63 - 1 then
        .ok ⟨max perPage 1, (max page 1 - 1) * max perPage 1⟩
      else
        .error .multiply := by
  refine if_congr ?_ rfl rfl
  rw [toInt_pagesBefore, toInt_pageSize, Int64.toInt_maxValue, firstRow]

theorem ofPage_eq_error_iff (failure : Overflow) :
    ofPage page perPage = .error failure ↔ 2 ^ 63 - 1 < firstRow page perPage := by
  rw [ofPage_eq]
  split
  case isTrue h =>
    exact iff_of_false (by simp) (not_lt.2 h)
  case isFalse h =>
    cases failure
    exact iff_of_true rfl (not_le.1 h)

/-- A page whose first row has no 64-bit index. -/
example : ofPage Int64.maxValue 2 = .error .multiply := by
  rfl

theorem toInt_offset
    (h : firstRow page perPage ≤ 2 ^ 63 - 1) :
    ((max page 1 - 1) * max perPage 1).toInt = firstRow page perPage := by
  have hnonneg := firstRow_nonneg page perPage
  rw [Int64.toInt_mul, toInt_pagesBefore, toInt_pageSize, ← firstRow]
  exact Int.bmod_eq_of_le (by omega) (by omega)

theorem ofPage_eq_ok_iff :
    ofPage page perPage = .ok window ↔
      firstRow page perPage ≤ 2 ^ 63 - 1 ∧
      window.limit.toInt = pageSize perPage ∧
      window.offset.toInt = firstRow page perPage := by
  rw [ofPage_eq]
  split
  case isTrue h =>
    obtain ⟨limit, offset⟩ := window
    rw [Except.ok.injEq, Window.mk.injEq, ← Int64.toInt_inj, ← Int64.toInt_inj, toInt_pageSize,
      toInt_offset h, eq_comm, @eq_comm Int (firstRow page perPage), and_iff_right h]
  case isFalse h =>
    exact iff_of_false (by simp) fun hwindow => h hwindow.1

/-- The third page of ten rows, and a page whose number and size count as one. -/
example : ofPage 3 10 = .ok ⟨10, 20⟩ ∧ ofPage (-3) 0 = .ok ⟨1, 0⟩ :=
  ⟨rfl, rfl⟩

theorem exists_ofPage
    (h : firstRow page perPage ≤ 2 ^ 63 - 1) :
    ∃ window, ofPage page perPage = .ok window :=
  ⟨_, (ofPage_eq page perPage).trans (if_pos h)⟩

/-- The number of pages before a page is in the 64-bit range. -/
theorem not_ssubOverflow (page : Int64) :
    (max page 1).toBitVec.ssubOverflow (1 : Int64).toBitVec = false := by
  have hhigh := (max page 1).toInt_le
  have hone : 1 ≤ (max page 1).toInt := by
    rw [toInt_max_one]
    exact le_max_right _ _
  rw [Int64.toInt_maxValue] at hhigh
  simp only [BitVec.ssubOverflow, Int64.toInt_toBitVec, Int64.toInt_one, Bool.or_eq_false_iff,
    decide_eq_false_iff_not]
  omega

/-- The index of a first row leaves the 64-bit range only upwards. -/
theorem smulOverflow_iff (page perPage : Int64) :
    (max page 1 - 1).toBitVec.smulOverflow (max perPage 1).toBitVec = true ↔
      2 ^ 63 - 1 < firstRow page perPage := by
  have hnonneg := firstRow_nonneg page perPage
  simp only [BitVec.smulOverflow, Int64.toInt_toBitVec, toInt_pagesBefore, toInt_pageSize,
    Bool.or_eq_true, decide_eq_true_eq]
  rw [← firstRow]
  omega

/-! ### Rows -/

/-- The indices of the rows in a window. -/
def rows (window : Window) : Set Int :=
  Set.Ico window.offset.toInt (window.offset.toInt + window.limit.toInt)

/-- The indices of the rows on a page; there are none if the page overflows. -/
def pageRows (perPage page : Int64) : Set Int :=
  {row | ∃ window, ofPage page perPage = .ok window ∧ row ∈ window.rows}

/-- A row is on the page before which there are as many pages as its index divided by the size of a
page. -/
theorem mem_rows_iff_ediv_eq
    {row : Int}
    (hwindow : ofPage page perPage = .ok window) :
    row ∈ window.rows ↔ row / pageSize perPage = pagesBefore page := by
  obtain ⟨-, hlimit, hoffset⟩ := ofPage_eq_ok_iff.1 hwindow
  have hpos : 0 < pageSize perPage := one_le_pageSize perPage
  rw [rows, Set.mem_Ico, hlimit, hoffset, firstRow, Int.ediv_eq_iff_of_pos hpos]

theorem ediv_eq_of_mem_pageRows
    {row : Int}
    (h : row ∈ pageRows perPage page) :
    row / pageSize perPage = pagesBefore page := by
  obtain ⟨window, hwindow, hrow⟩ := h
  exact (mem_rows_iff_ediv_eq hwindow).1 hrow

/-- If a page does not overflow, then no page before it does. -/
theorem exists_ofPage_of_le
    {last : Int64}
    (hlast : ∃ window, ofPage last perPage = .ok window)
    (hpage : 1 ≤ page)
    (hle : page ≤ last) :
    ∃ window, ofPage page perPage = .ok window := by
  obtain ⟨window, hwindow⟩ := hlast
  have hpages : pagesBefore page ≤ pagesBefore last := by
    rw [pagesBefore_of_one_le hpage, pagesBefore_of_one_le (Int64.le_trans hpage hle)]
    exact Int.sub_le_sub_right (Int64.le_iff_toInt_le.1 hle) 1
  have hfirst : firstRow page perPage ≤ 2 ^ 63 - 1 :=
    calc firstRow page perPage
        ≤ firstRow last perPage :=
          mul_le_mul_of_nonneg_right hpages (zero_le_one.trans (one_le_pageSize perPage))
      _ ≤ 2 ^ 63 - 1 := (ofPage_eq_ok_iff.1 hwindow).1
  exact exists_ofPage hfirst

/-- A row is on no two pages. -/
theorem eq_of_mem_pageRows
    {other : Int64}
    {row : Int}
    (hpage : 1 ≤ page)
    (hother : 1 ≤ other)
    (hrow : row ∈ pageRows perPage page)
    (hrowOther : row ∈ pageRows perPage other) :
    page = other := by
  have hpages : pagesBefore page = pagesBefore other := by
    rw [← ediv_eq_of_mem_pageRows hrow, ediv_eq_of_mem_pageRows hrowOther]
  rw [pagesBefore_of_one_le hpage, pagesBefore_of_one_le hother] at hpages
  exact Int64.toInt_inj.1 (by omega)

/-- The rows on the pages up to one that does not overflow. -/
theorem exists_mem_pageRows_iff
    {last : Int64}
    (hlast : ∃ window, ofPage last perPage = .ok window)
    (row : Int) :
    (∃ page, (1 ≤ page ∧ page ≤ last) ∧ row ∈ pageRows perPage page) ↔
      0 ≤ row ∧ row < last.toInt * pageSize perPage := by
  have hpos : 0 < pageSize perPage := one_le_pageSize perPage
  rw [← Int.ediv_lt_iff_lt_mul hpos, ← Int.ediv_nonneg_iff_of_pos hpos]
  constructor
  · rintro ⟨page, ⟨hpage, hle⟩, hrow⟩
    have hfirst := (one_le_iff page).1 hpage
    have hle := Int64.le_iff_toInt_le.1 hle
    rw [ediv_eq_of_mem_pageRows hrow, pagesBefore_of_one_le hpage]
    omega
  · rintro ⟨hnonneg, hlt⟩
    have hrange := last.toInt_le
    rw [Int64.toInt_maxValue] at hrange
    have hpage : (Int64.ofInt (row / pageSize perPage + 1)).toInt = row / pageSize perPage + 1 :=
      Int64.toInt_ofInt_of_le (by omega) (by omega)
    have hfirst : 1 ≤ Int64.ofInt (row / pageSize perPage + 1) := by
      rw [one_le_iff, hpage]
      omega
    have hle : Int64.ofInt (row / pageSize perPage + 1) ≤ last := by
      rw [Int64.le_iff_toInt_le, hpage]
      omega
    obtain ⟨window, hwindow⟩ := exists_ofPage_of_le hlast hfirst hle
    refine ⟨_, ⟨hfirst, hle⟩, window, hwindow, ?_⟩
    rw [mem_rows_iff_ediv_eq hwindow, pagesBefore_of_one_le hfirst, hpage]
    omega

end Window

namespace Query.Step

open Window

/-! ### Turning to a page -/

theorem paginate_eq_error_iff (page perPage : Int64) (q : Query) :
    (paginate page perPage).apply q = .error .multiply ↔ 2 ^ 63 - 1 < firstRow page perPage := by
  rw [apply, ← ofPage_eq_error_iff .multiply]
  cases ofPage page perPage with
  | error failure =>
      cases failure
      exact iff_of_true rfl rfl
  | ok window =>
      exact iff_of_false nofun nofun

theorem paginate_eq_ok_iff (page perPage : Int64) (q next : Query) :
    (paginate page perPage).apply q = .ok next ↔
      ∃ window, ofPage page perPage = .ok window ∧
        next = { q with limit := some window.limit, offset := some window.offset } := by
  rw [apply]
  cases ofPage page perPage with
  | error failure =>
      exact iff_of_false nofun nofun
  | ok window =>
      constructor
      · intro h
        exact ⟨window, rfl, (Except.ok.inj h).symm⟩
      · rintro ⟨other, hother, rfl⟩
        obtain rfl := Except.ok.inj hother
        rfl

/-- A page replaces whatever window there is. -/
theorem paginate_eq_of_withoutWindow_eq
    {q r : Query}
    (h : q.withoutWindow = r.withoutWindow)
    (page perPage : Int64) :
    (paginate page perPage).apply q = (paginate page perPage).apply r := by
  have hq : (paginate page perPage).apply q = (paginate page perPage).apply q.withoutWindow := rfl
  rw [hq, h]
  rfl

/-- Programs that take the same steps but for those that select windows turn to the same page. -/
theorem paginate_eq_of_applyAll
    {first second : List Step}
    {q p r : Query}
    (hsteps :
      ((takenAll first).filter fun step => !step.isWindow) =
        (takenAll second).filter fun step => !step.isWindow)
    (hfirst : applyAll first q = .ok p)
    (hsecond : applyAll second q = .ok r)
    (page perPage : Int64) :
    (paginate page perPage).apply p = (paginate page perPage).apply r := by
  rw [← applyAll_takenAll] at hfirst hsecond
  exact paginate_eq_of_withoutWindow_eq (withoutWindow_applyAll_eq hsteps hfirst hsecond)
    page perPage

/-- A step to a page fails exactly if the index of the first row of the page leaves the 64-bit
range, which it leaves upwards; no other number that occurs leaves it.  Otherwise the step selects
the page.  The pages of one size up to one that does not overflow are disjoint and have all rows up
to the end of the last, so every such row is on one page.  What windows were selected before does
not matter. -/
theorem pages_tile_rows (perPage : Int64) :
    (∀ (page : Int64) (q : Query),
      (max page 1).toBitVec.ssubOverflow (1 : Int64).toBitVec = false ∧
      ((max page 1 - 1).toBitVec.smulOverflow (max perPage 1).toBitVec = true ↔
        2 ^ 63 - 1 < (max page.toInt 1 - 1) * pageSize perPage) ∧
      ((paginate page perPage).apply q = .error .multiply ↔
        2 ^ 63 - 1 < (max page.toInt 1 - 1) * pageSize perPage) ∧
      ((max page.toInt 1 - 1) * pageSize perPage ≤ 2 ^ 63 - 1 →
        ∃ window : Window,
          ofPage page perPage = .ok window ∧
          (paginate page perPage).apply q =
            .ok { q with limit := some window.limit, offset := some window.offset } ∧
          window.limit.toInt = pageSize perPage ∧
          1 ≤ window.limit ∧
          window.offset.toInt = (max page.toInt 1 - 1) * pageSize perPage ∧
          0 ≤ window.offset ∧
          (page ≤ 1 → window.offset = 0))) ∧
    {page | 1 ≤ page}.PairwiseDisjoint (pageRows perPage) ∧
    (∀ last : Int64, 1 ≤ last → (last.toInt - 1) * pageSize perPage ≤ 2 ^ 63 - 1 →
      (⋃ page ∈ {page | 1 ≤ page ∧ page ≤ last}, pageRows perPage page) =
        Set.Ico 0 (last.toInt * pageSize perPage) ∧
      ∀ row ∈ Set.Ico 0 (last.toInt * pageSize perPage),
        ∃! page, (1 ≤ page ∧ page ≤ last) ∧ row ∈ pageRows perPage page) ∧
    ∀ (first second : List Step) (page : Int64) (q p r : Query),
      ((takenAll first).filter fun step => !step.isWindow) =
        ((takenAll second).filter fun step => !step.isWindow) →
      applyAll first q = .ok p →
      applyAll second q = .ok r →
      (paginate page perPage).apply p = (paginate page perPage).apply r := by
  refine ⟨fun page q => ⟨?_, ?_, ?_, fun hrange => ?_⟩, ?_, fun last hone hrange => ?_, ?_⟩
  · exact not_ssubOverflow page
  · exact smulOverflow_iff page perPage
  · exact paginate_eq_error_iff page perPage q
  · obtain ⟨window, hwindow⟩ := exists_ofPage hrange
    obtain ⟨-, hlimit, hoffset⟩ := ofPage_eq_ok_iff.1 hwindow
    refine ⟨window, hwindow, ?_, hlimit, ?_, hoffset, ?_, fun hpage => ?_⟩
    · exact (paginate_eq_ok_iff page perPage q _).2 ⟨window, hwindow, rfl⟩
    · rw [one_le_iff, hlimit]
      exact one_le_pageSize perPage
    · rw [Int64.le_iff_toInt_le, hoffset]
      exact firstRow_nonneg page perPage
    · rw [← Int64.toInt_inj, hoffset, firstRow, pagesBefore_of_le_one hpage, zero_mul]
      rfl
  · intro page hpage other hother hne
    exact Set.disjoint_left.2 fun row hrow hrowOther =>
      hne (eq_of_mem_pageRows hpage hother hrow hrowOther)
  · have hlast : ∃ window, ofPage last perPage = .ok window := by
      refine exists_ofPage ?_
      rw [firstRow, pagesBefore_of_one_le hone]
      exact hrange
    refine ⟨Set.ext fun row => ?_, fun row hrow => ?_⟩
    · refine Iff.trans ?_ (exists_mem_pageRows_iff hlast row)
      simp
    · obtain ⟨page, hpage, hmem⟩ := (exists_mem_pageRows_iff hlast row).2 hrow
      exact ⟨page, ⟨hpage, hmem⟩, fun other hother =>
        eq_of_mem_pageRows hother.1.1 hpage.1 hother.2 hmem⟩
  · intro first second page q p r hsteps hfirst hsecond
    exact paginate_eq_of_applyAll hsteps hfirst hsecond page perPage

/-- The twenty-sixth row is on the third page of ten, whatever limit was set before, and a page of a
quintillion rows has no twentieth of its kind. -/
theorem pages_tile_rows_tens :
    (∃ window : Window,
      (paginate 3 10).apply (.onTable "users") =
        .ok { Query.onTable "users" with
          limit := some window.limit
          offset := some window.offset } ∧
      window.offset.toInt = 20) ∧
    (∃! page, (1 ≤ page ∧ page ≤ (3 : Int64)) ∧ (25 : Int) ∈ pageRows 10 page) ∧
    (paginate 3 10).apply ({ Query.onTable "users" with limit := some 5 } : Query) =
      (paginate 3 10).apply ({ Query.onTable "users" with offset := some 7 } : Query) ∧
    (paginate 20 1000000000000000000).apply (.onTable "users") = .error .multiply := by
  obtain ⟨heffect, -, htiles, hwindows⟩ := pages_tile_rows 10
  obtain ⟨hoverflow, -⟩ := pages_tile_rows 1000000000000000000
  obtain ⟨-, -, -, hpage⟩ := heffect 3 (.onTable "users")
  obtain ⟨window, -, happly, -, -, hoffset, -⟩ := hpage (by decide)
  obtain ⟨-, hone⟩ := htiles 3 (by decide) (by decide)
  refine ⟨⟨window, happly, hoffset⟩, hone 25 (by decide), ?_, ?_⟩
  · exact hwindows [.limit 5] [.branch true [.offset 7] []] 3 (.onTable "users") _ _ rfl rfl rfl
  · exact (hoverflow 20 (.onTable "users")).2.2.1.2 (by decide)

end Query.Step

end SqlStatement
