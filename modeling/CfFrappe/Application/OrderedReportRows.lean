import CfFrappe.Core.JsonText
import CfFrappe.Core.Reports
import CfFrappe.Lib.BinaryHeap
import CfFrappe.Lib.NormalForms

set_option autoImplicit false

/-! # Ordered reports

The report on screen sorts its documents and cuts (`sortReportDocuments`); the CSV export reads the
documents once and keeps the first rows of the order in a heap of bounded size
(`BoundedOrderedReportRows`). Both break ties by the position of the document.
-/

open Utf

/-- What `resolveReportOrder` chose. -/
structure ReportOrderControlResult where
  orderBy : Option JsString
  order : ReportOrder
  deriving DecidableEq

structure OrderedReportRow where
  row : ReportRow
  sortValue : Option Json
  index : Nat
  deriving DecidableEq

section

variable (localeCompare : JsString → JsString → Ordering)

def compareOrderedRows (left right : OrderedReportRow) (direction : ReportOrder) : Ordering :=
  match direction.directed (compareReportSortValues localeCompare left.sortValue right.sortValue) with
  | .eq => compare left.index right.index
  | compared => compared

def isWorseOrderedRow (left right : OrderedReportRow) (direction : ReportOrder) : Bool :=
  compareOrderedRows localeCompare left right direction = .gt

def requireOrderedRowHeapEntry (heap : List OrderedReportRow) (index : Nat) (label : JsString) :
    Except FrameworkError OrderedReportRow :=
  match heap[index]? with
  | some entry => .ok entry
  | none => .error (.ofError
      (js "Report ordered-row heap is missing " ++ label ++ js " entry at index " ++ Json.natToString index))

/-! ## The bounded heap -/

structure BoundedOrderedReportRows where
  columnName : JsString
  direction : ReportOrder
  heap : List OrderedReportRow
  limit : Nat
  report : ReportDefinition

namespace BoundedOrderedReportRows

def new (report : ReportDefinition) (order : ReportOrderControlResult) (limit : Nat) : BoundedOrderedReportRows where
  columnName := ((report.columns.find? (fun item => some item.name = order.orderBy)).map (·.name)).getD []
  direction := order.order
  heap := []
  limit
  report

def swap (heap : List OrderedReportRow) (left right : Nat) : Except FrameworkError (List OrderedReportRow) := do
  let value ← requireOrderedRowHeapEntry heap left (js "left")
  let other ← requireOrderedRowHeapEntry heap right (js "right")
  return (heap.set left other).set right value

def siftUp (direction : ReportOrder) (heap : List OrderedReportRow) (child : Nat) :
    Except FrameworkError (List OrderedReportRow) :=
  if 0 < child then do
    let parent := (child - 1) / 2
    let childEntry ← requireOrderedRowHeapEntry heap child (js "child")
    let parentEntry ← requireOrderedRowHeapEntry heap parent (js "parent")
    if isWorseOrderedRow localeCompare childEntry parentEntry direction then
      siftUp direction (← swap heap child parent) parent
    else return heap
  else return heap
termination_by child
decreasing_by omega

/-- The candidate if it is in the heap and worse than the worst so far. -/
def worseCandidate (direction : ReportOrder) (heap : List OrderedReportRow) (candidate worst : Nat)
    (label : JsString) : Except FrameworkError Nat :=
  if candidate < heap.length then do
    let candidateEntry ← requireOrderedRowHeapEntry heap candidate label
    let worstEntry ← requireOrderedRowHeapEntry heap worst (js "worst")
    return if isWorseOrderedRow localeCompare candidateEntry worstEntry direction then candidate else worst
  else return worst

/-- The loop of `siftDown`, for at most `fuel` turns. -/
def siftDown (direction : ReportOrder) : (fuel : Nat) → List OrderedReportRow → Nat →
    Except FrameworkError (List OrderedReportRow)
  | 0, _, _ => .error (.ofError (js "out of fuel"))
  | fuel + 1, heap, parent => do
      let left := parent * 2 + 1
      let right := left + 1
      let worst ← worseCandidate localeCompare direction heap left parent (js "left")
      let worst ← worseCandidate localeCompare direction heap right worst (js "right")
      if worst = parent then return heap
      else siftDown direction fuel (← swap heap parent worst) worst

def add (rows : BoundedOrderedReportRows) (document : DocumentSnapshot) (index : Nat) :
    Except FrameworkError BoundedOrderedReportRows := do
  let entry : OrderedReportRow :=
    { row := projectReportDocumentRow document rows.report.columns
      sortValue := reportSortValue document rows.report.columns rows.columnName
      index }
  if rows.heap.length < rows.limit then
    return { rows with heap := ← siftUp localeCompare rows.direction (rows.heap ++ [entry]) rows.heap.length }
  else
    match rows.heap[0]? with
    | some worst =>
      if compareOrderedRows localeCompare entry worst rows.direction = .lt then
        return { rows with
          heap := ← siftDown localeCompare rows.direction rows.heap.length (rows.heap.set 0 entry) 0 }
      else return rows
    | none => return rows

def toRows (rows : BoundedOrderedReportRows) : List ReportRow :=
  (rows.heap.mergeSort
    (fun left right => compareOrderedRows localeCompare left right rows.direction ≠ .gt)).map (·.row)

/-- Adds the documents of a scan, numbered from `index` on. -/
def addAll (rows : BoundedOrderedReportRows) (index : Nat) :
    List DocumentSnapshot → Except FrameworkError BoundedOrderedReportRows
  | [] => .ok rows
  | document :: documents => do
      let rows ← rows.add localeCompare document index
      rows.addAll (index + 1) documents

end BoundedOrderedReportRows

/-! ## Sorting documents -/

/-- The comparison of `sortReportDocuments`, of documents with their positions. -/
def compareIndexedDocuments (report : ReportDefinition) (columnName : JsString) (order : ReportOrder)
    (left right : Nat × DocumentSnapshot) : Ordering :=
  match compareReportSortValues localeCompare (reportSortValue left.2 report.columns columnName)
      (reportSortValue right.2 report.columns columnName) with
  | .eq => compare left.1 right.1
  | compared => order.directed compared

def sortReportDocuments (documents : List DocumentSnapshot) (report : ReportDefinition)
    (order : ReportOrderControlResult) : List DocumentSnapshot :=
  match order.orderBy with
  | none => documents
  | some orderBy =>
    match report.columns.find? (fun item => item.name = orderBy) with
    | none => documents
    | some column =>
      if column.name = [] then documents
      else
        ((documents.mapIdx (fun index document => (index, document))).mergeSort
          (fun left right =>
            compareIndexedDocuments localeCompare report column.name order.order left right ≠ .gt)).map (·.2)

end

/-! ## Every sift finds its entries -/

section Sifts

variable {localeCompare : JsString → JsString → Ordering} {direction : ReportOrder} {heap : List OrderedReportRow}

theorem requireOrderedRowHeapEntry_eq {index : Nat} (h : index < heap.length) (label : JsString) :
    requireOrderedRowHeapEntry heap index label = .ok heap[index] := by
  rw [requireOrderedRowHeapEntry, List.getElem?_eq_getElem h]

namespace BoundedOrderedReportRows

/-- `isWorseOrderedRow` for the library's heaps. -/
def worse (localeCompare : JsString → JsString → Ordering) (direction : ReportOrder) (left right : OrderedReportRow) :
    Bool :=
  isWorseOrderedRow localeCompare left right direction

theorem swap_eq {left right : Nat} (hleft : left < heap.length) (hright : right < heap.length) :
    swap heap left right = .ok (BinaryHeap.swap heap left right) := by
  rw [BinaryHeap.swap_eq (List.getElem?_eq_getElem hleft) (List.getElem?_eq_getElem hright), swap,
    requireOrderedRowHeapEntry_eq hleft, requireOrderedRowHeapEntry_eq hright]
  rfl

theorem siftUp_eq {child : Nat} (h : child < heap.length) :
    siftUp localeCompare direction heap child =
      .ok (BinaryHeap.siftUp (worse localeCompare direction) heap child) := by
  induction child using Nat.strong_induction_on generalizing heap with
  | _ child ih =>
    rw [siftUp, BinaryHeap.siftUp]
    by_cases hpositive : 0 < child
    · have hlt : (child - 1) / 2 < child := by omega
      have hparent : (child - 1) / 2 < heap.length := by omega
      have hat : BinaryHeap.worseAt (worse localeCompare direction) heap child ((child - 1) / 2) =
          worse localeCompare direction heap[child] heap[(child - 1) / 2] :=
        BinaryHeap.worseAt_eq (List.getElem?_eq_getElem h) (List.getElem?_eq_getElem hparent)
      rw [if_pos hpositive, hat]
      simp only [requireOrderedRowHeapEntry_eq h, requireOrderedRowHeapEntry_eq hparent, hpositive, true_and,
        bind, Except.bind]
      by_cases hworse : worse localeCompare direction heap[child] heap[(child - 1) / 2] = true
      · have hworse' : isWorseOrderedRow localeCompare heap[child] heap[(child - 1) / 2] direction = true := hworse
        rw [if_pos hworse, if_pos hworse', swap_eq h hparent]
        exact ih _ hlt (by rw [BinaryHeap.length_swap]; exact hparent)
      · have hworse' : ¬ isWorseOrderedRow localeCompare heap[child] heap[(child - 1) / 2] direction = true := hworse
        rw [if_neg hworse, if_neg hworse']
        rfl
    · rw [if_neg hpositive, if_neg (fun hboth => hpositive hboth.1)]
      rfl

theorem worseCandidate_eq {worst : Nat} (hworst : worst < heap.length) (candidate : Nat) (label : JsString) :
    worseCandidate localeCompare direction heap candidate worst label =
      .ok (if candidate < heap.length ∧
        BinaryHeap.worseAt (worse localeCompare direction) heap candidate worst then candidate else worst) := by
  unfold worseCandidate
  by_cases hcandidate : candidate < heap.length
  · rw [if_pos hcandidate, requireOrderedRowHeapEntry_eq hcandidate, requireOrderedRowHeapEntry_eq hworst,
      BinaryHeap.worseAt_eq (List.getElem?_eq_getElem hcandidate) (List.getElem?_eq_getElem hworst)]
    simp only [hcandidate, true_and]
    rfl
  · rw [if_neg hcandidate, if_neg (fun hboth => hcandidate hboth.1)]
    rfl

theorem siftDown_eq {fuel parent : Nat} (h : parent < heap.length) (hfuel : heap.length ≤ parent + fuel) :
    siftDown localeCompare direction fuel heap parent =
      .ok (BinaryHeap.siftDown (worse localeCompare direction) fuel heap parent) := by
  induction fuel generalizing heap parent with
  | zero => omega
  | succ fuel ih =>
    rw [siftDown, BinaryHeap.siftDown]
    have hfirst : (if parent * 2 + 1 < heap.length ∧
        BinaryHeap.worseAt (worse localeCompare direction) heap (parent * 2 + 1) parent then parent * 2 + 1
        else parent) < heap.length := by
      split
      · rename_i hleft
        exact hleft.1
      · exact h
    simp only [worseCandidate_eq h, bind, Except.bind]
    rw [worseCandidate_eq hfirst]
    change (if BinaryHeap.worstOf (worse localeCompare direction) heap parent = parent then _ else _) = _
    by_cases hstop : BinaryHeap.worstOf (worse localeCompare direction) heap parent = parent
    · rw [if_pos hstop, if_pos hstop]
      rfl
    · obtain ⟨hchild, hlt⟩ := (BinaryHeap.worstOf_cases _ heap parent).resolve_left hstop
      have hdeeper := hchild.lt
      rw [if_neg hstop, if_neg hstop]
      change (swap heap parent (BinaryHeap.worstOf (worse localeCompare direction) heap parent)).bind _ = _
      have hlength := BinaryHeap.length_swap heap parent (BinaryHeap.worstOf (worse localeCompare direction) heap parent)
      have hrest := @ih (BinaryHeap.swap heap parent (BinaryHeap.worstOf (worse localeCompare direction) heap parent))
        (BinaryHeap.worstOf (worse localeCompare direction) heap parent) (by rw [hlength]; exact hlt)
        (by rw [hlength]; omega)
      rw [swap_eq h hlt]
      exact hrest

theorem compareReportSortValues_swap [Std.OrientedCmp localeCompare] (left right : Option Json) :
    compareReportSortValues localeCompare left right = (compareReportSortValues localeCompare right left).swap := by
  have htext : ∀ v w : Option Json, localeCompare (textOrEmpty v) (textOrEmpty w) =
      (localeCompare (textOrEmpty w) (textOrEmpty v)).swap := fun v w => Std.OrientedCmp.eq_swap
  unfold compareReportSortValues
  split
  · rename_i p q
    exact Std.OrientedCmp.eq_swap
  · rename_i v w hnot
    split
    · rename_i p q
      exact absurd rfl (hnot q p rfl)
    · exact htext _ _

theorem compareOrderedRows_swap [Std.OrientedCmp localeCompare] (left right : OrderedReportRow) :
    compareOrderedRows localeCompare left right direction =
      (compareOrderedRows localeCompare right left direction).swap := by
  have hindex : compare left.index right.index = (compare right.index left.index).swap := Std.OrientedCmp.eq_swap
  unfold compareOrderedRows
  rw [compareReportSortValues_swap left.sortValue right.sortValue]
  cases direction <;> cases compareReportSortValues localeCompare right.sortValue left.sortValue <;>
    simp [ReportOrder.directed, hindex]

/-- What `add` puts into the heap for a document. -/
def entry (rows : BoundedOrderedReportRows) (document : DocumentSnapshot) (index : Nat) : OrderedReportRow where
  row := projectReportDocumentRow document rows.report.columns
  sortValue := reportSortValue document rows.report.columns rows.columnName
  index

/-- Adding a document offers its entry to the heap. -/
theorem add_eq [Std.OrientedCmp localeCompare] (rows : BoundedOrderedReportRows) (document : DocumentSnapshot)
    (index : Nat) :
    rows.add localeCompare document index =
      .ok { rows with
        heap := BinaryHeap.offer (worse localeCompare rows.direction) rows.limit rows.heap
          (rows.entry document index) } := by
  unfold add BinaryHeap.offer
  by_cases hroom : rows.heap.length < rows.limit
  · have hlast : rows.heap.length < (rows.heap ++ [rows.entry document index]).length := by simp
    simp only [if_pos hroom]
    change (siftUp localeCompare rows.direction (rows.heap ++ [rows.entry document index]) rows.heap.length).bind _ = _
    rw [siftUp_eq hlast]
    rfl
  · simp only [if_neg hroom]
    cases hroot : rows.heap[0]? with
    | none => rfl
    | some root =>
      have hpositive : 0 < rows.heap.length := (List.getElem?_eq_some_iff.mp hroot).1
      have hbetter : compareOrderedRows localeCompare (rows.entry document index) root rows.direction = .lt ↔
          worse localeCompare rows.direction root (rows.entry document index) = true := by
        rw [compareOrderedRows_swap, Ordering.swap_eq_lt]
        exact decide_eq_true_iff.symm
      change (if compareOrderedRows localeCompare (rows.entry document index) root rows.direction = .lt then _
        else _) = _
      by_cases hlt : compareOrderedRows localeCompare (rows.entry document index) root rows.direction = .lt
      · simp only [if_pos hlt, if_pos (hbetter.mp hlt)]
        change (siftDown localeCompare rows.direction rows.heap.length
          (rows.heap.set 0 (rows.entry document index)) 0).bind _ = _
        rw [siftDown_eq (by simpa using hpositive) (by simp)]
        rfl
      · simp only [if_neg hlt, if_neg (fun hworse => hlt (hbetter.mpr hworse))]
        rfl

end BoundedOrderedReportRows

end Sifts

/-! ## The order on the rows -/

/-- A number, `null` or nothing. -/
def NumberOrMissing : Option Json → Prop
  | none | some .null | some (.num _) => True
  | _ => False

/-- A string, `null` or nothing. -/
def StringOrMissing : Option Json → Prop
  | none | some .null | some (.str _) => True
  | _ => False

def numberRank : Option Json → Option Rat
  | some (.num value) => some value
  | _ => none

section Orders

variable {localeCompare : JsString → JsString → Ordering}

/-- Numbers are compared by value, and nothing comes before every number. -/
theorem compareReportSortValues_number [Std.OrientedCmp localeCompare]
    (hempty : ∀ value, localeCompare [] (Json.numberToString value) = .lt) {left right : Option Json}
    (hleft : NumberOrMissing left) (hright : NumberOrMissing right) :
    compareReportSortValues localeCompare left right = compare (numberRank left) (numberRank right) := by
  have hnothing : localeCompare [] [] = .eq := Std.ReflCmp.compare_self
  have hgreater : ∀ value, localeCompare (Json.numberToString value) [] = .gt :=
    fun value => Std.OrientedCmp.gt_of_lt (hempty value)
  unfold NumberOrMissing at hleft hright
  split at hleft <;> split at hright
  all_goals first
    | exact absurd hleft id
    | exact absurd hright id
    | simp [compareReportSortValues, numberRank, textOrEmpty, Json.toText, hnothing, hempty, hgreater, compare]

theorem compareReportSortValues_string {left right : Option Json} (hleft : StringOrMissing left) :
    compareReportSortValues localeCompare left right = localeCompare (textOrEmpty left) (textOrEmpty right) := by
  unfold StringOrMissing at hleft
  split at hleft
  all_goals first
    | exact absurd hleft id
    | rfl

/-- The order of entries under a comparison of their values. -/
def compareEntries (cmp : Option Json → Option Json → Ordering) (direction : ReportOrder) :
    OrderedReportRow → OrderedReportRow → Ordering :=
  compareLex (fun left right => direction.directed (cmp left.sortValue right.sortValue))
    (compareOn OrderedReportRow.index)

instance transCmp_compareEntries (cmp : Option Json → Option Json → Ordering) [Std.TransCmp cmp]
    (direction : ReportOrder) : Std.TransCmp (compareEntries cmp direction) := by
  have hvalue : Std.TransCmp (fun left right : OrderedReportRow =>
      direction.directed (cmp left.sortValue right.sortValue)) := by
    cases direction with
    | asc => exact transCmp_on OrderedReportRow.sortValue
    | desc =>
      have hdesc : ∀ left right : OrderedReportRow,
          ReportOrder.desc.directed (cmp left.sortValue right.sortValue) = cmp right.sortValue left.sortValue :=
        fun left right => Std.OrientedCmp.eq_swap.symm
      simp only [hdesc]
      exact @transCmp_on _ _ (fun left right => cmp right left) _ OrderedReportRow.sortValue
  unfold compareEntries
  infer_instance

/-- The code's order of entries is the one of any comparison that agrees with it on their values. -/
theorem compareOrderedRows_eq {cmp : Option Json → Option Json → Ordering} {left right : OrderedReportRow}
    (h : compareReportSortValues localeCompare left.sortValue right.sortValue = cmp left.sortValue right.sortValue)
    (direction : ReportOrder) :
    compareOrderedRows localeCompare left right direction = compareEntries cmp direction left right := by
  unfold compareOrderedRows
  rw [h]
  change _ = (direction.directed (cmp left.sortValue right.sortValue)).then (compare left.index right.index)
  cases direction.directed (cmp left.sortValue right.sortValue) <;> rfl

/-- The comparison is a total preorder on the values of a column. -/
def OrdersValues (localeCompare : JsString → JsString → Ordering) (values : Option Json → Prop) : Prop :=
  ∃ cmp : Option Json → Option Json → Ordering, Std.TransCmp cmp ∧
    ∀ left right, values left → values right → compareReportSortValues localeCompare left right = cmp left right

theorem ordersValues_number [Std.OrientedCmp localeCompare]
    (hempty : ∀ value, localeCompare [] (Json.numberToString value) = .lt) :
    OrdersValues localeCompare NumberOrMissing := by
  refine ⟨compareOn numberRank, inferInstance, fun left right hleft hright => ?_⟩
  exact compareReportSortValues_number hempty hleft hright

theorem ordersValues_string [Std.TransCmp localeCompare] : OrdersValues localeCompare StringOrMissing := by
  refine ⟨fun left right => localeCompare (textOrEmpty left) (textOrEmpty right), transCmp_on textOrEmpty, ?_⟩
  intro left right hleft _
  exact compareReportSortValues_string hleft

theorem worseOn_of_ordersValues {values : Option Json → Prop} (h : OrdersValues localeCompare values)
    (direction : ReportOrder) :
    BinaryHeap.WorseOn (fun entry : OrderedReportRow => values entry.sortValue)
      (BoundedOrderedReportRows.worse localeCompare direction) := by
  obtain ⟨cmp, htrans, hcmp⟩ := h
  apply BinaryHeap.worseOn_of_transCmp (compareEntries cmp direction)
  intro left right hleft hright
  rw [← compareOrderedRows_eq (hcmp _ _ hleft hright)]
  rfl

/-- Entries that are level stand at one position. -/
theorem index_eq_of_level {left right : OrderedReportRow} {direction : ReportOrder}
    [Std.OrientedCmp localeCompare]
    (h : BoundedOrderedReportRows.worse localeCompare direction left right = false)
    (h' : BoundedOrderedReportRows.worse localeCompare direction right left = false) : left.index = right.index := by
  have hleft : compareOrderedRows localeCompare left right direction ≠ .gt := of_decide_eq_false h
  have hright : compareOrderedRows localeCompare right left direction ≠ .gt := of_decide_eq_false h'
  have hlevel : compareOrderedRows localeCompare left right direction = .eq := by
    rw [BoundedOrderedReportRows.compareOrderedRows_swap] at hright
    cases hcompared : compareOrderedRows localeCompare left right direction with
    | eq => rfl
    | gt => exact absurd hcompared hleft
    | lt =>
      rw [hcompared] at hright
      exact absurd rfl hright
  unfold compareOrderedRows at hlevel
  split at hlevel
  · exact Nat.compare_eq_eq.mp hlevel
  · rename_i hne
    exact absurd hlevel hne

end Orders

/-! ## Bounded rows are the first of the sorted rows -/

namespace BoundedOrderedReportRows

variable {localeCompare : JsString → JsString → Ordering}

/-- The rows with another heap. -/
def withHeap (rows : BoundedOrderedReportRows) (heap : List OrderedReportRow) : BoundedOrderedReportRows :=
  { rows with heap }

/-- The entries of documents numbered from `index` on. -/
def entriesFrom (rows : BoundedOrderedReportRows) : (index : Nat) → List DocumentSnapshot → List OrderedReportRow
  | _, [] => []
  | index, document :: documents => rows.entry document index :: rows.entriesFrom (index + 1) documents

theorem entriesFrom_withHeap (rows : BoundedOrderedReportRows) (heap : List OrderedReportRow) (index : Nat)
    (documents : List DocumentSnapshot) :
    (rows.withHeap heap).entriesFrom index documents = rows.entriesFrom index documents := by
  induction documents generalizing index with
  | nil => rfl
  | cons document documents ih =>
    rw [entriesFrom, entriesFrom, ih]
    rfl

/-- **A scan adds every document**, and the heap keeps the best of those seen. -/
theorem addAll_keeps [Std.OrientedCmp localeCompare] {values : Option Json → Prop}
    (hvalues : OrdersValues localeCompare values) {rows : BoundedOrderedReportRows} (hlimit : 0 < rows.limit)
    (documents : List DocumentSnapshot) (index : Nat) {seen : List OrderedReportRow}
    (hseen : ∀ entry ∈ seen, values entry.sortValue)
    (hdocuments : ∀ entry ∈ rows.entriesFrom index documents, values entry.sortValue)
    (h : BinaryHeap.Keeps (worse localeCompare rows.direction) rows.limit seen rows.heap) :
    ∃ heap, rows.addAll localeCompare index documents = .ok (rows.withHeap heap) ∧
      BinaryHeap.Keeps (worse localeCompare rows.direction) rows.limit
        (seen ++ rows.entriesFrom index documents) heap := by
  induction documents generalizing rows index seen with
  | nil =>
    refine ⟨rows.heap, rfl, ?_⟩
    rw [entriesFrom, List.append_nil]
    exact h
  | cons document documents ih =>
    rw [entriesFrom] at hdocuments
    have hentry := hdocuments _ List.mem_cons_self
    have hstep := h.offer (worseOn_of_ordersValues hvalues rows.direction) hlimit hseen hentry
    rw [addAll, add_eq]
    simp only [bind, Except.bind]
    generalize BinaryHeap.offer (worse localeCompare rows.direction) rows.limit rows.heap
      (rows.entry document index) = offered at hstep ⊢
    have hseen' : ∀ entry ∈ seen ++ [rows.entry document index], values entry.sortValue := by
      intro entry hmem
      rcases List.mem_append.mp hmem with hmem | hmem
      · exact hseen entry hmem
      · rw [List.mem_singleton.mp hmem]
        exact hentry
    have hdocuments' : ∀ entry ∈ (rows.withHeap offered).entriesFrom (index + 1) documents,
        values entry.sortValue := by
      rw [entriesFrom_withHeap]
      exact fun entry hmem => hdocuments entry (List.mem_cons_of_mem _ hmem)
    obtain ⟨heap, hrest, hkeeps⟩ := @ih (rows.withHeap offered) hlimit (index + 1) _ hseen' hdocuments' hstep
    rw [entriesFrom_withHeap, List.append_assoc, List.singleton_append] at hkeeps
    exact ⟨heap, hrest, hkeeps⟩

theorem entriesFrom_eq (rows : BoundedOrderedReportRows) (index : Nat) (documents : List DocumentSnapshot) :
    rows.entriesFrom index documents =
      (documents.mapIdx (fun i document => (index + i, document))).map (fun item => rows.entry item.2 item.1) := by
  induction documents generalizing index with
  | nil => rfl
  | cons document documents ih =>
    rw [entriesFrom, ih, List.mapIdx_cons, List.map_cons]
    simp [Nat.add_assoc, Nat.add_comm 1]

/-- Different entries of a scan have different indices. -/
theorem eq_of_index_eq (rows : BoundedOrderedReportRows) {index : Nat} {documents : List DocumentSnapshot}
    {left right : OrderedReportRow} (hleft : left ∈ rows.entriesFrom index documents)
    (hright : right ∈ rows.entriesFrom index documents) (h : left.index = right.index) : left = right := by
  rw [entriesFrom_eq] at hleft hright
  obtain ⟨item, hitem, rfl⟩ := List.mem_map.mp hleft
  obtain ⟨item', hitem', rfl⟩ := List.mem_map.mp hright
  obtain ⟨i, hi, rfl⟩ := List.mem_mapIdx.mp hitem
  obtain ⟨j, hj, rfl⟩ := List.mem_mapIdx.mp hitem'
  have hij : index + i = index + j := h
  obtain rfl : i = j := by omega
  rfl

/-- The comparison that sorts documents is the one of their entries. -/
theorem compareIndexedDocuments_eq (rows : BoundedOrderedReportRows) (left right : Nat × DocumentSnapshot) :
    compareIndexedDocuments localeCompare rows.report rows.columnName rows.direction left right =
      compareOrderedRows localeCompare (rows.entry left.2 left.1) (rows.entry right.2 right.1) rows.direction := by
  unfold compareIndexedDocuments compareOrderedRows entry
  cases rows.direction <;>
    cases compareReportSortValues localeCompare (reportSortValue left.2 rows.report.columns rows.columnName)
      (reportSortValue right.2 rows.report.columns rows.columnName) <;> rfl

/-- Sorting the entries of documents sorts the documents. -/
theorem mergeSort_entriesFrom (rows : BoundedOrderedReportRows) (documents : List DocumentSnapshot) :
    ((rows.entriesFrom 0 documents).mergeSort
        (fun left right => !worse localeCompare rows.direction left right)).map (·.row) =
      (((documents.mapIdx (fun index document => (index, document))).mergeSort
        (fun left right => compareIndexedDocuments localeCompare rows.report rows.columnName rows.direction
          left right ≠ .gt)).map (·.2)).map (fun document => projectReportDocumentRow document rows.report.columns) := by
  have hitems : rows.entriesFrom 0 documents =
      (documents.mapIdx (fun index document => (index, document))).map (fun item => rows.entry item.2 item.1) := by
    rw [entriesFrom_eq]
    simp
  have hcompare : ∀ left ∈ documents.mapIdx (fun index document => (index, document)),
      ∀ right ∈ documents.mapIdx (fun index document => (index, document)),
      decide (compareIndexedDocuments localeCompare rows.report rows.columnName rows.direction left right ≠ .gt) =
        !worse localeCompare rows.direction (rows.entry left.2 left.1) (rows.entry right.2 right.1) := by
    intro left _ right _
    rw [compareIndexedDocuments_eq]
    unfold worse isWorseOrderedRow
    simp
  rw [hitems, ← List.map_mergeSort hcompare, List.map_map, List.map_map]
  rfl

/-- **The bounded rows are the sorted documents, cut at the limit**, and no sift misses an entry. -/
theorem toRows_addAll [Std.TransCmp localeCompare]
    (hempty : ∀ value, localeCompare [] (Json.numberToString value) = .lt) (report : ReportDefinition)
    (order : ReportOrderControlResult) {limit : Nat} (hlimit : 1 ≤ limit) {column : ReportColumnDefinition}
    (hcolumn : column ∈ report.columns) (hname : column.name ≠ []) (horder : order.orderBy = some column.name)
    (documents : List DocumentSnapshot)
    (hvalues : (∀ document ∈ documents, NumberOrMissing (reportSortValue document report.columns column.name)) ∨
      (∀ document ∈ documents, StringOrMissing (reportSortValue document report.columns column.name))) :
    ∃ rows, (new report order limit).addAll localeCompare 0 documents = .ok rows ∧
      rows.toRows localeCompare =
        ((sortReportDocuments localeCompare documents report order).take limit).map
          (fun document => projectReportDocumentRow document report.columns) := by
  -- the column the order names
  obtain ⟨found, hfound, hfound_name⟩ : ∃ found, report.columns.find? (fun item => item.name = column.name) =
      some found ∧ found.name = column.name := by
    cases hfind : report.columns.find? (fun item => item.name = column.name) with
    | none => exact absurd (decide_eq_true rfl) (List.find?_eq_none.mp hfind column hcolumn)
    | some found =>
      have hmatches := List.find?_some hfind
      exact ⟨found, rfl, of_decide_eq_true hmatches⟩
  have hname_eq : (new report order limit).columnName = column.name := by
    have hsame : report.columns.find? (fun item => some item.name = order.orderBy) = some found := by
      rw [← hfound, horder]
      simp
    simp [new, hsame, hfound_name]
  have hentries : ∀ values : Option Json → Prop,
      (∀ document ∈ documents, values (reportSortValue document report.columns column.name)) →
      ∀ entry ∈ (new report order limit).entriesFrom 0 documents, values entry.sortValue := by
    intro values hdocuments entry hentry
    rw [entriesFrom_eq] at hentry
    obtain ⟨item, hitem, rfl⟩ := List.mem_map.mp hentry
    obtain ⟨i, hi, rfl⟩ := List.mem_mapIdx.mp hitem
    have hdocument := hdocuments _ (List.getElem_mem hi)
    rw [← hname_eq] at hdocument
    exact hdocument
  -- either kind of value is ordered by the comparison
  obtain ⟨values, hordered, hall⟩ : ∃ values, OrdersValues localeCompare values ∧
      ∀ entry ∈ (new report order limit).entriesFrom 0 documents, values entry.sortValue := by
    rcases hvalues with hnumbers | hstrings
    · exact ⟨NumberOrMissing, ordersValues_number hempty, hentries _ hnumbers⟩
    · exact ⟨StringOrMissing, ordersValues_string, hentries _ hstrings⟩
  obtain ⟨heap, hadd, hkeeps⟩ := @addAll_keeps localeCompare _ values hordered (new report order limit) hlimit
    documents 0 [] (by simp) hall (BinaryHeap.keeps_nil _ _)
  rw [List.nil_append] at hkeeps
  refine ⟨_, hadd, ?_⟩
  have hsorted := hkeeps.mergeSort_eq_take (worseOn_of_ordersValues hordered order.order) hall
    (fun left hleft right hright hbefore hafter =>
      eq_of_index_eq _ hleft hright (index_eq_of_level hbefore hafter))
  have hrows : ((new report order limit).withHeap heap).toRows localeCompare =
      (heap.mergeSort (fun left right => !worse localeCompare order.order left right)).map (·.row) := by
    unfold toRows worse isWorseOrderedRow
    simp only [ne_eq, decide_not]
    rfl
  have hdocuments := @mergeSort_entriesFrom localeCompare (new report order limit) documents
  have hdirection : (new report order limit).direction = order.order := rfl
  rw [hname_eq, hdirection] at hdocuments
  have hsort : sortReportDocuments localeCompare documents report order =
      ((documents.mapIdx (fun index document => (index, document))).mergeSort (fun left right =>
        compareIndexedDocuments localeCompare report column.name order.order left right ≠ .gt)).map (·.2) := by
    unfold sortReportDocuments
    rw [horder]
    simp only [hfound, hfound_name, if_neg hname]
  rw [hrows, hsorted, hsort, List.map_take, hdocuments, List.map_take]
  rfl

end BoundedOrderedReportRows

/-! ### The three largest of four amounts, one missing -/

instance transCmp_compareCodeUnits : Std.TransCmp compareCodeUnits :=
  @transCmp_on _ _ (fun s t : List Nat => compare s t) _ (List.map UInt16.toNat)

theorem compareCodeUnits_numberToString (value : Rat) : compareCodeUnits [] (Json.numberToString value) = .lt := by
  cases h : Json.numberToString value with
  | nil => exact absurd h (Json.numberToString_ne_nil value)
  | cons u rest => rfl

def amountsReport : ReportDefinition where
  name := js "Amounts"
  doctype := js "Invoice"
  columns := [{ name := js "amount" }]

def amountDocument (name : JsString) (data : DocumentData) : DocumentSnapshot where
  tenantId := defaultTenantId
  doctype := js "Invoice"
  name
  version := 1
  docstatus := .draft
  data
  createdAt := js "2026"
  updatedAt := js "2026"

def amountDocuments : List DocumentSnapshot :=
  [amountDocument (js "A") [(js "amount", .num 2)], amountDocument (js "B") [],
    amountDocument (js "C") [(js "amount", .num 3)], amountDocument (js "D") [(js "amount", .num 2)]]

theorem toRows_addAll_amounts :
    ∃ rows, (BoundedOrderedReportRows.new amountsReport ⟨some (js "amount"), .desc⟩ 3).addAll compareCodeUnits 0
        amountDocuments = .ok rows ∧
      rows.toRows compareCodeUnits =
        ((sortReportDocuments compareCodeUnits amountDocuments amountsReport ⟨some (js "amount"), .desc⟩).take 3).map
          (fun document => projectReportDocumentRow document amountsReport.columns) := by
  refine BoundedOrderedReportRows.toRows_addAll compareCodeUnits_numberToString amountsReport _ (by decide)
    List.mem_cons_self (by decide) rfl amountDocuments (.inl ?_)
  intro document hdocument
  fin_cases hdocument <;> trivial
