import CfFrappe.Adapters.ListOrder

set_option autoImplicit false

/-! # Pages of readable documents

Whether an actor can read a document is decided row by row, not by the store: a page of readable documents is
cut out of all the documents that match, which are read 200 at a time (`listReadableDocumentPage`). The scan
counts the matches once, and the readable documents as it goes; where the pages of the store end makes no
difference to the page that comes out (`listReadableDocumentPage_exact`).
-/

/-! ## Slices of a list

A slice of a list grows with the list (`slice_concat`), and slices one after the other make up the list
(`flatMap_slice`).
-/

namespace Paging

variable {α : Type}

/-- `list.slice(offset, offset + limit)`. -/
def slice (offset limit : Nat) (l : List α) : List α := (l.drop offset).take limit

theorem length_slice (offset limit : Nat) (l : List α) : (slice offset limit l).length = min limit (l.length - offset) := by
  simp [slice]

/-- The next element is in the slice if it comes after the offset and the slice is not full. -/
theorem slice_concat (offset limit : Nat) (l : List α) (a : α) :
    slice offset limit (l ++ [a]) =
      if offset ≤ l.length ∧ (slice offset limit l).length < limit then slice offset limit l ++ [a]
      else slice offset limit l := by
  rw [length_slice]
  unfold slice
  by_cases hoffset : offset ≤ l.length
  · rw [List.drop_append_of_le_length hoffset, List.take_append, List.length_drop]
    by_cases hfull : min limit (l.length - offset) < limit
    · rw [if_pos ⟨hoffset, hfull⟩]
      have hroom : 1 ≤ limit - (l.length - offset) := by omega
      have hlast : List.take (limit - (l.length - offset)) [a] = [a] := List.take_of_length_le hroom
      rw [hlast]
    · rw [if_neg (fun h => hfull h.2)]
      have hnone : limit - (l.length - offset) = 0 := by omega
      rw [hnone, List.take_zero, List.append_nil]
  · rw [if_neg (fun h => hoffset h.1), List.drop_of_length_le (by simp; omega), List.drop_of_length_le (by omega)]

/-- What comes before a page, and the page. -/
theorem take_append_slice (offset limit : Nat) (l : List α) :
    l.take offset ++ slice offset limit l = l.take (offset + limit) := by
  unfold slice
  rw [List.take_add]

/-- **Pages one after the other.** -/
theorem flatMap_slice (limit n : Nat) (l : List α) :
    (List.range n).flatMap (fun i => slice (i * limit) limit l) = l.take (n * limit) := by
  induction n with
  | zero => simp
  | succ n ih =>
    rw [List.range_succ, List.flatMap_append, ih, List.flatMap_singleton, take_append_slice, Nat.succ_mul]

end Paging

open Utf Paging

namespace QueryService

/-- The query of a caller; the store is asked with pages of its own. -/
structure ReadableQuery where
  tenantId : TenantId
  doctype : DocTypeName
  predicate : Option PredicateExpression := none
  orderBy : JsString
  order : ListOrderDirection
  limit : Nat
  offset : Nat

/-- What the store is asked for. -/
structure StoreQuery extends ReadableQuery where
  skipTotal : Bool := false

structure ListDocumentsResult where
  data : List DocumentSnapshot
  limit : Nat
  offset : Nat
  total : Nat

/-- What the service needs: the store, and the decisions about one document. -/
structure Services where
  list : StoreQuery → ListDocumentsResult
  canReadDocument : Actor → DocTypeDefinition → DocumentSnapshot → Bool
  canActOnDocument : Actor → DocTypeDefinition → PermissionAction → DocumentSnapshot → Bool
  redactDocumentSnapshot : Actor → DocTypeDefinition → DocumentSnapshot → DocumentSnapshot

structure ReadableDocument where
  source : DocumentSnapshot
  document : DocumentSnapshot

inductive ProjectionPageScan
  | complete
  | continue (nextOffset : Nat)

def planProjectionPageScan (offset pageSize total : Nat) : ProjectionPageScan :=
  if total ≤ offset + pageSize then .complete else .continue (offset + pageSize)

structure ReadablePage where
  page : ListDocumentsResult
  sources : List DocumentSnapshot

/-- `data`, `sources` and `readableTotal` of the scan. -/
structure PageScan where
  data : List DocumentSnapshot := []
  sources : List DocumentSnapshot := []
  readableTotal : Nat := 0

def scanPageSize : Nat := 200

section

variable (services : Services) (actor : Actor) (doctype : DocTypeDefinition) (action : PermissionAction)

def isReadable (document : DocumentSnapshot) : Bool :=
  (document.docstatus != .deleted && services.canReadDocument actor doctype document) &&
    (action == .read || services.canActOnDocument actor doctype action document)

def filterReadableDocuments (documents : List DocumentSnapshot) : List ReadableDocument :=
  (documents.filter (isReadable services actor doctype action)).map (fun document =>
    { source := document, document := services.redactDocumentSnapshot actor doctype document })

/-- One turn of the inner loop. -/
def PageScan.add (query : ReadableQuery) (scan : PageScan) (readable : ReadableDocument) : PageScan :=
  if query.offset ≤ scan.readableTotal ∧ scan.data.length < query.limit then
    { data := scan.data ++ [readable.document], sources := scan.sources ++ [readable.source]
      readableTotal := scan.readableTotal + 1 }
  else { scan with readableTotal := scan.readableTotal + 1 }

/-- The loop, from an offset on; the number of matches is known after the first page. -/
def scanReadableDocuments (query : ReadableQuery) : Nat → Option Nat → Nat → PageScan → Option ReadablePage
  | 0, _, _, _ => none
  | fuel + 1, matchTotal, scanOffset, scan =>
    let result := services.list
      { query with limit := scanPageSize, offset := scanOffset, skipTotal := matchTotal.isSome }
    let matchTotal := matchTotal.getD result.total
    let scan := (filterReadableDocuments services actor doctype action result.data).foldl (PageScan.add query) scan
    match planProjectionPageScan scanOffset scanPageSize matchTotal with
    | .complete =>
      some
        { page := { data := scan.data, limit := query.limit, offset := query.offset, total := scan.readableTotal }
          sources := scan.sources }
    | .continue nextOffset => scanReadableDocuments query fuel (some matchTotal) nextOffset scan

/-- The fuel bounds the number of pages; `none` if it runs out. -/
def listReadableDocumentPage (fuel : Nat) (query : ReadableQuery) : Option ReadablePage :=
  scanReadableDocuments services actor doctype action query fuel none 0 {}

end

/-! ## The scan -/

/-- The store pages through one list of matching documents, and counts it unless it is asked not to. -/
structure ListsSlices (services : Services) (query : ReadableQuery) (matching : List DocumentSnapshot) : Prop where
  data : ∀ limit offset skipTotal,
    (services.list { query with limit, offset, skipTotal }).data = slice offset limit matching
  total : ∀ limit offset, (services.list { query with limit, offset, skipTotal := false }).total = matching.length

section

variable {services : Services} {actor : Actor} {doctype : DocTypeDefinition} {action : PermissionAction}
variable {query : ReadableQuery}

/-- The scan after some readable documents. -/
def PageScan.after (query : ReadableQuery) (readable : List ReadableDocument) : PageScan :=
  { data := (slice query.offset query.limit readable).map (·.document)
    sources := (slice query.offset query.limit readable).map (·.source)
    readableTotal := readable.length }

theorem PageScan.add_after (readable : List ReadableDocument) (next : ReadableDocument) :
    PageScan.add query (PageScan.after query readable) next = PageScan.after query (readable ++ [next]) := by
  unfold PageScan.add PageScan.after
  rw [slice_concat]
  dsimp only
  rw [List.length_map]
  split_ifs with hroom
  · simp
  · simp

/-- **The inner loop**: it goes on with the slice. -/
theorem PageScan.foldl_after (readable more : List ReadableDocument) :
    more.foldl (PageScan.add query) (PageScan.after query readable) = PageScan.after query (readable ++ more) := by
  induction more generalizing readable with
  | nil => simp
  | cons next more ih => rw [List.foldl_cons, PageScan.add_after, ih, List.append_assoc, List.singleton_append]

theorem filterReadableDocuments_append (documents more : List DocumentSnapshot) :
    filterReadableDocuments services actor doctype action (documents ++ more) =
      filterReadableDocuments services actor doctype action documents ++
        filterReadableDocuments services actor doctype action more := by
  simp [filterReadableDocuments]

/-- **The scan from an offset on**, after the documents before it. By induction on the fuel; every page of the
store is the next part of the matching documents, and after the last one none is left. -/
theorem scanReadableDocuments_eq {matching : List DocumentSnapshot} (hlist : ListsSlices services query matching)
    {fuel scanOffset : Nat} (hfuel : matching.length < scanOffset + fuel) (hpositive : 0 < fuel) {matchTotal : Option Nat}
    (htotal : ∀ total, matchTotal = some total → total = matching.length) :
    scanReadableDocuments services actor doctype action query fuel matchTotal scanOffset
        (PageScan.after query (filterReadableDocuments services actor doctype action (matching.take scanOffset))) =
      some
        { page :=
            { data := (PageScan.after query (filterReadableDocuments services actor doctype action matching)).data
              limit := query.limit, offset := query.offset
              total := (filterReadableDocuments services actor doctype action matching).length }
          sources := (PageScan.after query (filterReadableDocuments services actor doctype action matching)).sources } := by
  induction fuel generalizing scanOffset matchTotal with
  | zero => exact absurd hpositive (Nat.lt_irrefl 0)
  | succ fuel ih =>
    have hcount : matchTotal.getD (services.list
        { query with limit := scanPageSize, offset := scanOffset, skipTotal := matchTotal.isSome }).total =
        matching.length := by
      cases matchTotal with
      | none => exact hlist.total scanPageSize scanOffset
      | some total => exact htotal total rfl
    unfold scanReadableDocuments
    dsimp only
    rw [hcount, hlist.data, PageScan.foldl_after, ← filterReadableDocuments_append, take_append_slice]
    unfold planProjectionPageScan
    by_cases hlast : matching.length ≤ scanOffset + scanPageSize
    · rw [if_pos hlast, List.take_of_length_le hlast]
      rfl
    · rw [if_neg hlast]
      have hsize : scanPageSize = 200 := rfl
      apply ih
      · omega
      · omega
      · intro total h
        exact (Option.some.inj h).symm

/-- The readable documents, as the caller sees them. -/
def readableDocuments (services : Services) (actor : Actor) (doctype : DocTypeDefinition) (action : PermissionAction)
    (matching : List DocumentSnapshot) : List DocumentSnapshot :=
  (matching.filter (isReadable services actor doctype action)).map (services.redactDocumentSnapshot actor doctype)

theorem map_document_filterReadableDocuments (matching : List DocumentSnapshot) :
    (filterReadableDocuments services actor doctype action matching).map (·.document) =
      readableDocuments services actor doctype action matching := by
  simp [filterReadableDocuments, readableDocuments, Function.comp_def]

theorem map_slice {α β : Type} (f : α → β) (offset limit : Nat) (l : List α) :
    (slice offset limit l).map f = slice offset limit (l.map f) := by
  simp [slice, List.map_take, List.map_drop]

/-- One page. -/
theorem listReadableDocumentPage_eq {matching : List DocumentSnapshot} (hlist : ListsSlices services query matching)
    {fuel : Nat} (hfuel : matching.length < fuel) :
    listReadableDocumentPage services actor doctype action fuel query = some
      { page :=
          { data := slice query.offset query.limit (readableDocuments services actor doctype action matching)
            limit := query.limit, offset := query.offset
            total := (readableDocuments services actor doctype action matching).length }
        sources := slice query.offset query.limit (matching.filter (isReadable services actor doctype action)) } := by
  have hstart : PageScan.after query (filterReadableDocuments services actor doctype action (matching.take 0)) = {} := by
    simp [PageScan.after, filterReadableDocuments, slice]
  unfold listReadableDocumentPage
  rw [← hstart, scanReadableDocuments_eq hlist (by omega) (by omega) (by simp)]
  unfold PageScan.after
  dsimp only
  rw [map_slice, map_slice, map_document_filterReadableDocuments]
  have hsources : (filterReadableDocuments services actor doctype action matching).map (·.source) =
      matching.filter (isReadable services actor doctype action) := by
    simp [filterReadableDocuments, Function.comp_def]
  have hlength : (filterReadableDocuments services actor doctype action matching).length =
      (readableDocuments services actor doctype action matching).length := by
    simp [filterReadableDocuments, readableDocuments]
  rw [hsources, hlength]

/-- A page with another limit and offset is cut out of the same matching documents. -/
theorem ListsSlices.page {matching : List DocumentSnapshot} (h : ListsSlices services query matching)
    (limit offset : Nat) : ListsSlices services { query with limit, offset } matching :=
  ⟨h.data, h.total⟩

variable (actor doctype action)

/-- **Paging is exact slicing.** With fuel for the matching documents, every page is the slice of the readable
documents that was asked for, with their number; and the pages from 0 on make up all of them. -/
theorem listReadableDocumentPage_exact {matching : List DocumentSnapshot}
    (hlist : ListsSlices services query matching) {fuel : Nat} (hfuel : matching.length < fuel) :
    (∀ limit offset, ∃ found,
      listReadableDocumentPage services actor doctype action fuel { query with limit, offset } = some found ∧
        found.page.data = slice offset limit (readableDocuments services actor doctype action matching) ∧
        found.page.total = (readableDocuments services actor doctype action matching).length ∧
        found.sources = slice offset limit (matching.filter (isReadable services actor doctype action))) ∧
    ∀ limit pages, (readableDocuments services actor doctype action matching).length ≤ pages * limit →
      (List.range pages).flatMap (fun i =>
        ((listReadableDocumentPage services actor doctype action fuel { query with limit, offset := i * limit }).map
          (·.page.data)).getD []) = readableDocuments services actor doctype action matching := by
  constructor
  · intro limit offset
    exact ⟨_, listReadableDocumentPage_eq (hlist.page limit offset) hfuel, rfl, rfl, rfl⟩
  · intro limit pages hpages
    calc (List.range pages).flatMap (fun i =>
          ((listReadableDocumentPage services actor doctype action fuel { query with limit, offset := i * limit }).map
            (·.page.data)).getD [])
        = (List.range pages).flatMap (fun i =>
            slice (i * limit) limit (readableDocuments services actor doctype action matching)) := by
          congr 1
          funext i
          rw [listReadableDocumentPage_eq (hlist.page limit (i * limit)) hfuel]
          rfl
      _ = (readableDocuments services actor doctype action matching).take (pages * limit) := flatMap_slice _ _ _
      _ = readableDocuments services actor doctype action matching := List.take_of_length_le hpages

end

/-! ### Three invoices, one of them deleted -/

def invoice (name : DocumentName) (docstatus : DocStatus) : DocumentSnapshot :=
  { tenantId := defaultTenantId, doctype := js "Invoice", name, version := 1, docstatus, data := []
    createdAt := js "2024-01-01T00:00:00.000Z", updatedAt := js "2024-01-01T00:00:00.000Z" }

def storedInvoices : List DocumentSnapshot :=
  [invoice (js "INV-1") .draft, invoice (js "INV-2") .deleted, invoice (js "INV-3") .submitted]

def invoiceServices : Services where
  list query :=
    { data := slice query.offset query.limit storedInvoices, limit := query.limit, offset := query.offset
      total := if query.skipTotal then 0 else storedInvoices.length }
  canReadDocument _ _ _ := true
  canActOnDocument _ _ _ _ := true
  redactDocumentSnapshot _ _ document := document

def clerk : Actor := { id := js "ada", roles := [js "Clerk"] }

def invoices : ReadableQuery :=
  { tenantId := defaultTenantId, doctype := js "Invoice", orderBy := js "updatedAt", order := .desc, limit := 1, offset := 1 }

/-- The second page of one document. -/
theorem listReadableDocumentPage_exact_invoices :
    ∃ found, listReadableDocumentPage invoiceServices clerk { name := js "Invoice", fields := [] } .read 4 invoices =
      some found ∧ found.page.data = [invoice (js "INV-3") .submitted] ∧ found.page.total = 2 := by
  have hlist : ListsSlices invoiceServices invoices storedInvoices := ⟨fun _ _ _ => rfl, fun _ _ => rfl⟩
  have hfuel : storedInvoices.length < 4 := by decide
  have hpages := listReadableDocumentPage_exact clerk { name := js "Invoice", fields := [] } .read hlist hfuel
  obtain ⟨found, hfound, hdata, htotal, -⟩ := hpages.1 1 1
  exact ⟨found, hfound, hdata, htotal⟩

end QueryService
