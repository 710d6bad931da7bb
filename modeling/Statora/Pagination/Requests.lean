import Statora.Library.Binary64
import Statora.Library.Pages
import Statora.Numbers

/-!
# Requests for a page

Two kinds of lists are served in pages. The handlers of the admin lists count the pages in
floating point, the service of the monitor logs in integers.
-/

namespace Statora.Pagination
open Library (Arranged window roundNearest)
variable {α β : Type} [LinearOrder β]

structure PaginationConfig where
  defaultLimit : ℤ
  /-- Zero means no maximum. -/
  maxLimit : ℤ
  deriving DecidableEq, Repr

def defaultPage : ℤ := 1

def defaultPaginationConfig : PaginationConfig := ⟨20, 0⟩

def monitorLogsPaginationConfig : PaginationConfig := ⟨10, 100⟩

def positiveParam (query message : String) (absent : ℤ) : Except String ℤ :=
  if query = "" then .ok absent
  else
    match atoi query with
    | none => .error message
    | some value => if value < 1 then .error message else .ok value

def parsePage (pageQuery : String) : Except String ℤ :=
  positiveParam pageQuery "invalid page query parameter" defaultPage

def parseLimit (config : PaginationConfig) (limitQuery : String) : Except String ℤ :=
  (positiveParam limitQuery "invalid limit query parameter" config.defaultLimit).map fun limit =>
    if limitQuery ≠ "" ∧ config.maxLimit > 0 ∧ limit > config.maxLimit then config.maxLimit
    else limit

def parsePaginationParams (config : PaginationConfig) (pageQuery limitQuery : String) :
    Except String (ℤ × ℤ) := do
  let page ← parsePage pageQuery
  let limit ← parseLimit config limitQuery
  return (page, limit)

/-- Documents with distinct sort keys. The store counts them in 64 bits. -/
structure SortedCollection (α β : Type) [LinearOrder β] where
  items : List α
  key : α → β
  distinct : (items.map key).Nodup
  counted : (items.length : ℤ) ≤ maxInt

def SortedCollection.count (c : SortedCollection α β) : ℤ := c.items.length

inductive StoreError
  | negativeSkip
  deriving DecidableEq, Repr

def findPage (sorted : List α) (skip limit : ℤ) : Except StoreError (List α) :=
  if skip < 0 then .error .negativeSkip else .ok (window skip.toNat limit.toNat sorted)

def skipOf (page limit : ℤ) : ℤ := wrapInt ((page - 1) * limit)

/-- `int(x)` of a float. Outside the range it depends on the processor; this is amd64. -/
def intOfFloat (x : ℚ) : ℤ :=
  let truncated := if x < 0 then ⌈x⌉ else ⌊x⌋
  if truncated < minInt ∨ truncated > maxInt then minInt else truncated

def responseTotalPages (total limit : ℤ) : ℤ :=
  if total > 0 ∧ limit > 0 then
    intOfFloat ⌈roundNearest (roundNearest total / roundNearest limit)⌉
  else 0

def calculateTotalPages (total limit : ℤ) : ℤ :=
  if total ≤ 0 ∨ limit ≤ 0 then 0 else (wrapInt (total + limit - 1)).tdiv limit

inductive Listing
  | admin
  | monitorLogs
  deriving DecidableEq, Repr

def Listing.config : Listing → PaginationConfig
  | .admin => defaultPaginationConfig
  | .monitorLogs => monitorLogsPaginationConfig

def Listing.totalPages : Listing → ℤ → ℤ → ℤ
  | .admin => responseTotalPages
  | .monitorLogs => calculateTotalPages

structure PaginatedResult (α : Type) where
  items : List α
  page : ℤ
  total : ℤ
  totalPages : ℤ
  deriving DecidableEq, Repr

def Listing.respond (listing : Listing) (c : SortedCollection α β) (sorted : List α)
    (page limit : ℤ) : Except StoreError (PaginatedResult α) :=
  (findPage sorted (skipOf page limit) limit).map fun items =>
    { items := items
      page := page
      total := c.count
      totalPages := listing.totalPages c.count limit }

end Statora.Pagination
