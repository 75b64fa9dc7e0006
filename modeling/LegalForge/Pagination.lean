import LegalForge.BaseModels

/-! One page of a list, as a response. -/
namespace LegalForge

/-- The page asked for and its size, as checked. -/
structure PaginationParams where
  page : ℤ := 1
  pageSize : ℤ := 25
  page_ge : 1 ≤ page := by decide
  pageSize_ge : 1 ≤ pageSize := by decide
  pageSize_le : pageSize ≤ 100 := by decide

/-- `PaginationParams.offset` -/
def PaginationParams.offset (p : PaginationParams) : ℤ := (p.page-1)*p.pageSize

/-- `PaginationParams(page=page, page_size=page_size)`. No handler answers its exception. -/
def paginationParams (page pageSize : ℤ) : Except HttpError PaginationParams :=
  if h : 1 ≤ page ∧ 1 ≤ pageSize ∧ pageSize ≤ 100 then .ok ⟨page, pageSize, h.1, h.2.1, h.2.2⟩
  else .error .internal

structure PaginatedResponse (α : Type) where
  items : List α
  total : ℕ
  page : ℤ
  pageSize : ℤ
  totalPages : ℤ
  deriving DecidableEq

/-- `PaginatedResponse.create` -/
def paginated {α : Type} (items : List α) (total : ℕ) (page pageSize : ℤ) :
    Except HttpError (PaginatedResponse α) :=
  if total = 0 then .ok ⟨items, total, page, pageSize, 0⟩
  else if pageSize = 0 then .error .internal
  else .ok ⟨items, total, page, pageSize, (total+pageSize-1).fdiv pageSize⟩

end LegalForge
