import CfFrappe.Core.Types

set_option autoImplicit false

/-! # Comma-separated values

`csvLine` prints a line and `parseCsv` reads a text back. The parser walks over the code units with
one unit of look-ahead, so that a doubled quote and a CRLF are each read at once (`csvStep`).
-/

open Utf

namespace Csv

def quoteMark : UInt16 := 0x22
def comma : UInt16 := 0x2C
def lineFeed : UInt16 := 0xA
def carriageReturn : UInt16 := 0xD

/-- `/[\n\r]/`. -/
def isBreak (u : UInt16) : Bool := u = lineFeed || u = carriageReturn

/-- `/[",\n\r]/`. -/
def isSpecial (u : UInt16) : Bool := u = quoteMark || u = comma || isBreak u

/-! ## Printing -/

/-- `/[=+\-@]/`. -/
def isFormulaSign (u : UInt16) : Bool := u = 0x3D || u = 0x2B || u = 0x2D || u = 0x40

/-- `/^(?:[=+\-@\t\r]|\s+[=+\-@])/u.test(text)`. -/
def startsFormula : JsString → Bool
  | [] => false
  | u :: rest =>
    isFormulaSign u || u = 0x9 || u = carriageReturn ||
      (Json.isWhitespace u &&
        match rest.dropWhile Json.isWhitespace with
        | [] => false
        | v :: _ => isFormulaSign v)

def neutralizeSpreadsheetFormula (text : JsString) : JsString := if startsFormula text then js "'" ++ text else text

def csvValue : Option Json → JsString
  | none => []
  | some .null => []
  | some (.arr items) => Json.stringify (.arr items)
  | some (.obj members) => Json.stringify (.obj members)
  | some value => value.toText

/-- `text.replaceAll("\"", "\"\"")`. -/
def doubleQuotes (text : JsString) : JsString :=
  text.flatMap (fun u => if u = quoteMark then [quoteMark, quoteMark] else [u])

/-- A text as a cell, in quotes where it needs them. -/
def quoteCell (text : JsString) : JsString :=
  if text.any isSpecial then [quoteMark] ++ doubleQuotes text ++ [quoteMark] else text

def csvCell (value : Option Json) : JsString :=
  match value with
  | some (.str text) => quoteCell (neutralizeSpreadsheetFormula (csvValue (some (.str text))))
  | value => quoteCell (csvValue value)

def csvLine (values : List (Option Json)) : JsString := List.intercalate [comma] (values.map csvCell)

/-! ## Parsing -/

structure ParsedCsvRow where
  line : Nat
  cells : List JsString
  deriving DecidableEq

structure ParsedCsv where
  headers : List JsString
  rows : List ParsedCsvRow
  deriving DecidableEq

/-- The variables of the parser's loop. -/
structure CsvState where
  rows : List ParsedCsvRow := []
  row : List JsString := []
  cell : JsString := []
  inQuotes : Bool := false
  line : Nat := 1
  rowLine : Nat := 1
  deriving DecidableEq

/-- One turn of the loop at `char`, and whether it reads the next unit as well. -/
def csvStep (state : CsvState) (char : UInt16) (next : Option UInt16) : CsvState × Bool :=
  if char = quoteMark then
    if state.inQuotes ∧ next = some quoteMark then
      ({ state with cell := state.cell ++ [quoteMark] }, true)
    else ({ state with inQuotes := !state.inQuotes }, false)
  else if char = comma ∧ state.inQuotes = false then
    ({ state with row := state.row ++ [state.cell], cell := [] }, false)
  else if isBreak char ∧ state.inQuotes = false then
    ({ state with
        rows := state.rows ++ [{ line := state.rowLine, cells := state.row ++ [state.cell] }]
        row := []
        cell := []
        line := state.line + 1
        rowLine := state.line + 1 }, char = carriageReturn ∧ next = some lineFeed)
  else if state.inQuotes ∧ char = carriageReturn ∧ next = some lineFeed then
    ({ state with line := state.line + 1, cell := state.cell ++ [carriageReturn, lineFeed] }, true)
  else
    ({ state with
        line := if isBreak char then state.line + 1 else state.line
        cell := state.cell ++ [char] }, false)

/-- The parser's loop from a state on. -/
def scanCsv (state : CsvState) : JsString → CsvState
  | [] => state
  | [char] => (csvStep state char none).1
  | char :: next :: rest =>
    if (csvStep state char (some next)).2 then scanCsv (csvStep state char (some next)).1 rest
    else scanCsv (csvStep state char (some next)).1 (next :: rest)

def parseCsvCells (text : JsString) : Except FrameworkError (List ParsedCsvRow) :=
  let state := scanCsv {} text
  if state.inQuotes then .error (.ofBadRequest (js "CSV import has an unterminated quoted value"))
  else .ok (state.rows ++ [{ line := state.rowLine, cells := state.row ++ [state.cell] }])

def trimTrailingEmptyRows (rows : List ParsedCsvRow) : List ParsedCsvRow :=
  (rows.reverse.dropWhile (fun row => row.cells.all List.isEmpty)).reverse

def requireCsvHeaderRow : List ParsedCsvRow → Except FrameworkError ParsedCsvRow
  | [] => .error (.ofBadRequest (js "CSV import requires a header row"))
  | header :: _ => .ok header

/-- `validateHeaders` from the headers seen so far. -/
def validateHeadersFrom (seen : List JsString) : List JsString → Except FrameworkError Unit
  | [] => .ok ()
  | header :: headers =>
    if header = [] then .error (.ofBadRequest (js "CSV import headers cannot be empty"))
    else if header ∈ seen then
      .error (.ofBadRequest (js "CSV import header '" ++ header ++ js "' is duplicated"))
    else validateHeadersFrom (header :: seen) headers

def validateHeaders (headers : List JsString) : Except FrameworkError Unit := validateHeadersFrom [] headers

/-- The byte order mark. -/
def byteOrderMark : UInt16 := 0xFEFF

def normalizeHeader (header : JsString) (index : Nat) : JsString :=
  Json.trim (if index = 0 ∧ header.head? = some byteOrderMark then header.drop 1 else header)

def validateRowWidths (headers : List JsString) : List ParsedCsvRow → Except FrameworkError Unit
  | [] => .ok ()
  | row :: rows =>
    if row.cells.length ≠ headers.length then
      .error (.ofBadRequest
        (js "CSV row " ++ Json.natToString row.line ++ js " has " ++ Json.natToString row.cells.length ++
          js " columns but the header has " ++ Json.natToString headers.length))
    else validateRowWidths headers rows

def parseCsv (text : JsString) : Except FrameworkError ParsedCsv := do
  let parsedRows ← parseCsvCells text
  let nonEmptyRows := trimTrailingEmptyRows parsedRows
  let headerRow ← requireCsvHeaderRow nonEmptyRows
  let rows := nonEmptyRows.drop 1
  let headers := headerRow.cells.mapIdx (fun index header => normalizeHeader header index)
  validateHeaders headers
  let dataRows := rows.filter (fun row => row.cells.any (fun cell => !(Json.trim cell).isEmpty))
  validateRowWidths headers dataRows
  return { headers, rows := dataRows }

/-! ## Line breaks -/

def breakCount (u : UInt16) : Nat := if isBreak u then 1 else 0

/-- The line breaks of a text, a CRLF counted once. -/
def lineBreaks : JsString → Nat
  | [] => 0
  | [u] => breakCount u
  | u :: v :: rest =>
    if u = carriageReturn ∧ v = lineFeed then lineBreaks rest + 1
    else breakCount u + lineBreaks (v :: rest)

theorem lineBreaks_cons {u : UInt16} (h : isBreak u = false) (rest : JsString) :
    lineBreaks (u :: rest) = lineBreaks rest := by
  cases rest with
  | nil => simp [lineBreaks, breakCount, h]
  | cons v rest =>
    have hreturn : u ≠ carriageReturn := by
      rintro rfl
      simp [isBreak] at h
    simp [lineBreaks, breakCount, h, hreturn]

theorem isBreak_quoteMark : isBreak quoteMark = false := by decide

theorem isBreak_carriageReturn : isBreak carriageReturn = true := by decide

/-! ## One turn of the loop -/

/-- A turn of the loop, with what is left of the text after it. -/
theorem scanCsv_cons (state : CsvState) (char : UInt16) (rest : JsString) :
    scanCsv state (char :: rest) =
      scanCsv (csvStep state char rest.head?).1
        (if (csvStep state char rest.head?).2 then rest.drop 1 else rest) := by
  cases rest with
  | nil => simp [scanCsv]
  | cons next rest =>
    rw [scanCsv, List.head?_cons]
    split <;> rfl

theorem csvStep_line (state : CsvState) (char : UInt16) (next : Option UInt16) :
    (csvStep state char next).1.line = state.line + breakCount char := by
  unfold breakCount
  by_cases hquote : char = quoteMark
  · subst hquote
    rw [isBreak_quoteMark, csvStep, if_pos rfl]
    split <;> rfl
  · by_cases hcomma : char = comma
    · subst hcomma
      have hbreak : isBreak comma = false := by decide
      have hreturn : comma ≠ carriageReturn := by decide
      by_cases hquotes : state.inQuotes = true <;> simp [csvStep, hbreak, hquote, hquotes, hreturn]
    · rw [csvStep, if_neg hquote, if_neg (fun h => hcomma h.1)]
      split_ifs with h1 h2 h3 h4 h5
      all_goals first | rfl | exact absurd h1.1 ‹_› | skip
      all_goals simp_all [isBreak]

theorem csvStep_reads {state : CsvState} {char : UInt16} {next : Option UInt16}
    (h : (csvStep state char next).2 = true) :
    (char = quoteMark ∧ next = some quoteMark) ∨ (char = carriageReturn ∧ next = some lineFeed) := by
  unfold csvStep at h
  split_ifs at h with h1 h2 h3 h4 h5
  · exact .inl ⟨h1, h2.2⟩
  · exact .inr (of_decide_eq_true h)
  · exact .inr h5.2

/-- A CRLF is read at once. -/
theorem csvStep_crlf (state : CsvState) : (csvStep state carriageReturn (some lineFeed)).2 = true := by
  have hquote : carriageReturn ≠ quoteMark := by decide
  have hcomma : carriageReturn ≠ comma := by decide
  by_cases hquotes : state.inQuotes = true <;>
    simp [csvStep, hquote, hcomma, hquotes, isBreak_carriageReturn]

/-- **The parser counts the line breaks of what it reads, inside and outside quotes.** -/
theorem scanCsv_line (state : CsvState) (text : JsString) :
    (scanCsv state text).line = state.line + lineBreaks text := by
  induction state, text using scanCsv.induct with
  | case1 state => simp [scanCsv, lineBreaks]
  | case2 state char => simp [scanCsv, lineBreaks, csvStep_line]
  | case3 state char next rest hreads ih =>
    rw [scanCsv, if_pos hreads, ih, csvStep_line]
    rcases csvStep_reads hreads with ⟨rfl, hnext⟩ | ⟨rfl, hnext⟩
    · obtain rfl : next = quoteMark := Option.some.inj hnext
      rw [lineBreaks_cons isBreak_quoteMark, lineBreaks_cons isBreak_quoteMark]
      simp [breakCount, isBreak_quoteMark]
    · obtain rfl : next = lineFeed := Option.some.inj hnext
      simp only [breakCount, isBreak_carriageReturn, if_true, lineBreaks]
      simp
      omega
  | case4 state char next rest hreads ih =>
    have hcrlf : ¬ (char = carriageReturn ∧ next = lineFeed) := by
      rintro ⟨rfl, rfl⟩
      exact hreads (csvStep_crlf state)
    rw [scanCsv, if_neg hreads, ih, csvStep_line, lineBreaks, if_neg hcrlf]
    omega

/-! ## Reading a cell -/

/-- A unit that is not special is added to the cell. -/
theorem scanCsv_plain {u : UInt16} (h : isSpecial u = false) (state : CsvState) (rest : JsString) :
    scanCsv state (u :: rest) = scanCsv { state with cell := state.cell ++ [u] } rest := by
  have hquote : u ≠ quoteMark := by
    rintro rfl
    simp [isSpecial] at h
  have hcomma : u ≠ comma := by
    rintro rfl
    simp [isSpecial] at h
  have hbreak : isBreak u = false := by
    rw [isSpecial, Bool.or_eq_false_iff] at h
    exact h.2
  have hreturn : u ≠ carriageReturn := by
    rintro rfl
    simp [isBreak] at hbreak
  have hstep : csvStep state u rest.head? = ({ state with cell := state.cell ++ [u] }, false) := by
    simp [csvStep, hquote, hcomma, hbreak, hreturn]
  simp [scanCsv_cons, hstep]

theorem scanCsv_plainText {text : JsString} (h : text.any isSpecial = false) (state : CsvState)
    (rest : JsString) :
    scanCsv state (text ++ rest) = scanCsv { state with cell := state.cell ++ text } rest := by
  induction text generalizing state with
  | nil => simp
  | cons u text ih =>
    rw [List.any_cons, Bool.or_eq_false_iff] at h
    rw [List.cons_append, scanCsv_plain h.1, ih h.2]
    simp

/-- Inside quotes a unit is added to the cell, unless it is a quote or starts a CRLF. -/
theorem scanCsv_quotedUnit {u : UInt16} {rest : JsString} {state : CsvState} (hquotes : state.inQuotes = true)
    (hquote : u ≠ quoteMark) (hcrlf : ¬ (u = carriageReturn ∧ rest.head? = some lineFeed)) :
    scanCsv state (u :: rest) =
      scanCsv { state with
        line := state.line + breakCount u
        cell := state.cell ++ [u] } rest := by
  have hstep : csvStep state u rest.head? =
      ({ state with
        line := if isBreak u then state.line + 1 else state.line
        cell := state.cell ++ [u] }, false) := by
    simp [csvStep, hquote, hquotes, hcrlf]
  rw [scanCsv_cons, hstep]
  by_cases hbreak : isBreak u = true <;> simp [breakCount, hbreak]

theorem scanCsv_quotedCrlf {state : CsvState} (hquotes : state.inQuotes = true) (rest : JsString) :
    scanCsv state (carriageReturn :: lineFeed :: rest) =
      scanCsv { state with line := state.line + 1, cell := state.cell ++ [carriageReturn, lineFeed] } rest := by
  have hquote : carriageReturn ≠ quoteMark := by decide
  have hstep : csvStep state carriageReturn (some lineFeed) =
      ({ state with line := state.line + 1, cell := state.cell ++ [carriageReturn, lineFeed] }, true) := by
    simp [csvStep, hquote, hquotes]
  simp [scanCsv_cons, hstep]

theorem scanCsv_doubledQuote {state : CsvState} (hquotes : state.inQuotes = true) (rest : JsString) :
    scanCsv state (quoteMark :: quoteMark :: rest) =
      scanCsv { state with cell := state.cell ++ [quoteMark] } rest := by
  have hstep : csvStep state quoteMark (some quoteMark) =
      ({ state with cell := state.cell ++ [quoteMark] }, true) := by
    simp [csvStep, hquotes]
  simp [scanCsv_cons, hstep]

/-- A quote that is not doubled inside quotes turns them on or off. -/
theorem scanCsv_quote {state : CsvState} {rest : JsString}
    (h : state.inQuotes = true → rest.head? ≠ some quoteMark) :
    scanCsv state (quoteMark :: rest) = scanCsv { state with inQuotes := !state.inQuotes } rest := by
  have hstep : csvStep state quoteMark rest.head? = ({ state with inQuotes := !state.inQuotes }, false) := by
    rw [csvStep, if_pos rfl, if_neg (fun hboth => h hboth.1 hboth.2)]
  simp [scanCsv_cons, hstep]

theorem doubleQuotes_cons (u : UInt16) (text : JsString) :
    doubleQuotes (u :: text) = doubleQuotes [u] ++ doubleQuotes text := by
  simp [doubleQuotes]

theorem doubleQuotes_of_ne {u : UInt16} (h : u ≠ quoteMark) : doubleQuotes [u] = [u] := by
  simp [doubleQuotes, h]

theorem head?_doubleQuotes_cons (u : UInt16) (text rest : JsString) :
    (doubleQuotes (u :: text) ++ rest).head? = some u := by
  by_cases hquote : u = quoteMark
  · simp [doubleQuotes, hquote]
  · simp [doubleQuotes, hquote]

/-- Inside quotes a unit with its quote doubled goes into the cell as it was, unless it starts a CRLF. -/
theorem scanCsv_doubled {u : UInt16} {rest : JsString} {state : CsvState} (hquotes : state.inQuotes = true)
    (hcrlf : ¬ (u = carriageReturn ∧ rest.head? = some lineFeed)) :
    scanCsv state (doubleQuotes [u] ++ rest) =
      scanCsv { state with line := state.line + breakCount u, cell := state.cell ++ [u] } rest := by
  by_cases hquote : u = quoteMark
  · subst hquote
    have hbreaks : breakCount quoteMark = 0 := by decide
    rw [hbreaks]
    exact scanCsv_doubledQuote hquotes rest
  · rw [doubleQuotes_of_ne hquote]
    exact scanCsv_quotedUnit hquotes hquote hcrlf

/-- **A text between quotes goes into the cell as it was before its quotes were doubled.** -/
theorem scanCsv_doubleQuotes {rest : JsString} (hrest : rest.head? ≠ some quoteMark) (text : JsString)
    {state : CsvState} (hquotes : state.inQuotes = true) :
    scanCsv state (doubleQuotes text ++ quoteMark :: rest) =
      scanCsv { state with
        cell := state.cell ++ text
        line := state.line + lineBreaks text
        inQuotes := false } rest := by
  induction text using lineBreaks.induct generalizing state with
  | case1 =>
    have hclose := @scanCsv_quote state rest (fun _ => hrest)
    simpa [doubleQuotes, lineBreaks, hquotes] using hclose
  | case2 u =>
    have hcrlf : ¬ (u = carriageReturn ∧ (quoteMark :: rest).head? = some lineFeed) := by
      rintro ⟨-, h⟩
      exact absurd (Option.some.inj h) (by decide)
    rw [scanCsv_doubled hquotes hcrlf, scanCsv_quote (fun _ => hrest)]
    simp [lineBreaks, hquotes]
  | case3 u v text h ih =>
    -- a CRLF is read at once
    obtain ⟨rfl, rfl⟩ := h
    have hreturn : carriageReturn ≠ quoteMark := by decide
    have hfeed : lineFeed ≠ quoteMark := by decide
    rw [doubleQuotes_cons, doubleQuotes_cons lineFeed, doubleQuotes_of_ne hreturn, doubleQuotes_of_ne hfeed]
    simp only [List.cons_append, List.nil_append]
    rw [scanCsv_quotedCrlf hquotes, ih, lineBreaks, if_pos ⟨rfl, rfl⟩]
    · simp [Nat.add_assoc, Nat.add_comm 1]
    · exact hquotes
  | case4 u v text h ih =>
    have hcrlf : ¬ (u = carriageReturn ∧
        (doubleQuotes (v :: text) ++ quoteMark :: rest).head? = some lineFeed) := by
      rw [head?_doubleQuotes_cons]
      rintro ⟨hu, hv⟩
      exact h ⟨hu, Option.some.inj hv⟩
    rw [doubleQuotes_cons, List.append_assoc, scanCsv_doubled hquotes hcrlf, ih, lineBreaks, if_neg h]
    · simp [Nat.add_assoc]
    · exact hquotes

/-- **A printed cell is read back.** -/
theorem scanCsv_quoteCell (text : JsString) {state : CsvState} (hcell : state.cell = [])
    (hquotes : state.inQuotes = false) :
    ∃ line, ∀ rest : JsString, rest.head? ≠ some quoteMark →
      scanCsv state (quoteCell text ++ rest) = scanCsv { state with cell := text, line } rest := by
  unfold quoteCell
  by_cases hspecial : text.any isSpecial = true
  · refine ⟨state.line + lineBreaks text, fun rest hrest => ?_⟩
    have hopen : scanCsv state ([quoteMark] ++ doubleQuotes text ++ [quoteMark] ++ rest) =
        scanCsv { state with inQuotes := true } (doubleQuotes text ++ quoteMark :: rest) := by
      have hquote := @scanCsv_quote state (doubleQuotes text ++ quoteMark :: rest) (by simp [hquotes])
      simpa [hquotes] using hquote
    rw [if_pos hspecial, hopen, scanCsv_doubleQuotes hrest text rfl]
    simp [hcell, hquotes]
  · rw [Bool.not_eq_true] at hspecial
    refine ⟨state.line, fun rest _ => ?_⟩
    rw [if_neg (by simp [hspecial]), scanCsv_plainText hspecial]
    simp [hcell]

/-! ## Reading a row -/

/-- A line of strings. -/
def textLine (cells : List JsString) : JsString := csvLine (cells.map (fun text => some (.str text)))

theorem textLine_eq {cells : List JsString} (h : ∀ text ∈ cells, neutralizeSpreadsheetFormula text = text) :
    textLine cells = List.intercalate [comma] (cells.map quoteCell) := by
  rw [textLine, csvLine, List.map_map]
  congr 1
  apply List.map_congr_left
  intro text htext
  show quoteCell (neutralizeSpreadsheetFormula text) = quoteCell text
  rw [h text htext]

theorem scanCsv_comma {state : CsvState} (hquotes : state.inQuotes = false) (rest : JsString) :
    scanCsv state (comma :: rest) = scanCsv { state with row := state.row ++ [state.cell], cell := [] } rest := by
  have hquote : comma ≠ quoteMark := by decide
  have hstep : csvStep state comma rest.head? =
      ({ state with row := state.row ++ [state.cell], cell := [] }, false) := by
    simp [csvStep, hquote, hquotes]
  simp [scanCsv_cons, hstep]

theorem scanCsv_lineFeed {state : CsvState} (hquotes : state.inQuotes = false) (rest : JsString) :
    scanCsv state (lineFeed :: rest) =
      scanCsv { state with
        rows := state.rows ++ [{ line := state.rowLine, cells := state.row ++ [state.cell] }]
        row := []
        cell := []
        line := state.line + 1
        rowLine := state.line + 1 } rest := by
  have hquote : lineFeed ≠ quoteMark := by decide
  have hcomma : lineFeed ≠ comma := by decide
  have hreturn : lineFeed ≠ carriageReturn := by decide
  have hbreak : isBreak lineFeed = true := by decide
  rw [scanCsv_cons]
  simp [csvStep, hquote, hcomma, hquotes, hreturn, hbreak]

/-- The cells of a line are read into the row, the last one into the cell. -/
theorem scanCsv_cells (cells : List JsString) (hcells : cells ≠ []) {state : CsvState} (hcell : state.cell = [])
    (hquotes : state.inQuotes = false) :
    ∃ line row cell, row ++ [cell] = state.row ++ cells ∧
      ∀ rest : JsString, rest.head? ≠ some quoteMark →
        scanCsv state (List.intercalate [comma] (cells.map quoteCell) ++ rest) =
          scanCsv { state with line, row, cell } rest := by
  induction cells generalizing state with
  | nil => exact absurd rfl hcells
  | cons text cells ih =>
    obtain ⟨line, hread⟩ := scanCsv_quoteCell text hcell hquotes
    cases cells with
    | nil =>
      refine ⟨line, state.row, text, rfl, fun rest hrest => ?_⟩
      have honly : List.intercalate [comma] ([text].map quoteCell) = quoteCell text := by simp
      rw [honly, hread rest hrest]
    | cons other cells =>
      obtain ⟨line', row, cell, hrow, hrest⟩ :=
        @ih (List.cons_ne_nil _ _) { state with line, row := state.row ++ [text], cell := [] } rfl hquotes
      refine ⟨line', row, cell, ?_, fun rest hend => ?_⟩
      · rw [hrow]
        simp
      · have hcomma : (comma :: (List.intercalate [comma] ((other :: cells).map quoteCell) ++ rest)).head? ≠
            some quoteMark := by simp [comma, quoteMark]
        have hsplit : List.intercalate [comma] ((text :: other :: cells).map quoteCell) ++ rest =
            quoteCell text ++ comma :: (List.intercalate [comma] ((other :: cells).map quoteCell) ++ rest) := by
          simp [List.intercalate]
        rw [hsplit, hread _ hcomma, scanCsv_comma]
        · exact hrest rest hend
        · exact hquotes

/-! ## Reading a text -/

/-- What the parser has read when a row starts after `before`. -/
structure StartsRow (before : JsString) (state : CsvState) : Prop where
  scan : ∀ rest : JsString, scanCsv {} (before ++ rest) = scanCsv state rest
  row : state.row = []
  cell : state.cell = []
  inQuotes : state.inQuotes = false
  rowLine : state.rowLine = 1 + lineBreaks before

theorem startsRow_nil : StartsRow [] {} where
  scan := fun _ => rfl
  row := rfl
  cell := rfl
  inQuotes := rfl
  rowLine := rfl

variable {before : JsString} {state : CsvState} {cells : List JsString}

/-- A row that ends in a line feed is read, and the next one starts on the line after it. -/
theorem StartsRow.next (h : StartsRow before state) (hcells : cells ≠ [])
    (hplain : ∀ text ∈ cells, neutralizeSpreadsheetFormula text = text) :
    ∃ state', StartsRow (before ++ textLine cells ++ [lineFeed]) state' ∧
      state'.rows = state.rows ++ [{ line := 1 + lineBreaks before, cells }] := by
  obtain ⟨line, row, cell, hrow, hread⟩ := scanCsv_cells cells hcells h.cell h.inQuotes
  rw [h.row, List.nil_append] at hrow
  have hscan : ∀ rest : JsString, scanCsv {} (before ++ textLine cells ++ [lineFeed] ++ rest) =
      scanCsv { state with
        rows := state.rows ++ [{ line := 1 + lineBreaks before, cells }]
        row := []
        cell := []
        line := line + 1
        rowLine := line + 1 } rest := by
    intro rest
    have hend : (lineFeed :: rest).head? ≠ some quoteMark := by simp [lineFeed, quoteMark]
    rw [textLine_eq hplain, List.append_assoc, List.append_assoc, h.scan, List.singleton_append,
      hread _ hend, scanCsv_lineFeed, hrow, h.rowLine]
    exact h.inQuotes
  have hline : line + 1 = 1 + lineBreaks (before ++ textLine cells ++ [lineFeed]) := by
    have hread := scanCsv_line {} (before ++ textLine cells ++ [lineFeed])
    have hlast := hscan []
    rw [List.append_nil] at hlast
    rw [hlast] at hread
    exact hread
  exact ⟨_, ⟨hscan, rfl, rfl, h.inQuotes, hline⟩, rfl⟩

/-- A row that ends the text is the last one. -/
theorem StartsRow.last (h : StartsRow before state) (hcells : cells ≠ [])
    (hplain : ∀ text ∈ cells, neutralizeSpreadsheetFormula text = text) :
    parseCsvCells (before ++ textLine cells) = .ok (state.rows ++ [{ line := 1 + lineBreaks before, cells }]) := by
  obtain ⟨line, row, cell, hrow, hread⟩ := scanCsv_cells cells hcells h.cell h.inQuotes
  rw [h.row, List.nil_append] at hrow
  have hscan : scanCsv {} (before ++ textLine cells) = { state with line, row, cell } := by
    have hend := hread [] (by simp)
    rw [List.append_nil] at hend
    rw [textLine_eq hplain, h.scan, hend, scanCsv]
  unfold parseCsvCells
  rw [hscan]
  simp [h.inQuotes, hrow, h.rowLine]

/-- Rows with the lines they stand on, printed after `before`. -/
def placedRows (before : JsString) : List (List JsString) → List ParsedCsvRow
  | [] => []
  | cells :: rows =>
    { line := 1 + lineBreaks before, cells } :: placedRows (before ++ textLine cells ++ [lineFeed]) rows

/-- The lines of a text, joined by line feeds. -/
def csvText (rows : List (List JsString)) : JsString := List.intercalate [lineFeed] (rows.map textLine)

/-- **Printed rows are read back**, each with its line. -/
theorem parseCsvCells_csvText (rows : List (List JsString)) (hrows : rows ≠ []) (h : StartsRow before state)
    (hcells : ∀ cells ∈ rows, cells ≠ [])
    (hplain : ∀ cells ∈ rows, ∀ text ∈ cells, neutralizeSpreadsheetFormula text = text) :
    parseCsvCells (before ++ csvText rows) = .ok (state.rows ++ placedRows before rows) := by
  induction rows generalizing before state with
  | nil => exact absurd rfl hrows
  | cons cells rows ih =>
    have hcells' := hcells cells List.mem_cons_self
    have hplain' := hplain cells List.mem_cons_self
    cases rows with
    | nil =>
      have honly : csvText [cells] = textLine cells := by simp [csvText]
      rw [honly, h.last hcells' hplain']
      rfl
    | cons other rows =>
      obtain ⟨state', hnext, hstate⟩ := h.next hcells' hplain'
      have hsplit : before ++ csvText (cells :: other :: rows) =
          before ++ textLine cells ++ [lineFeed] ++ csvText (other :: rows) := by
        simp [csvText, List.intercalate]
      rw [hsplit, ih (List.cons_ne_nil _ _) hnext (fun c hc => hcells c (List.mem_cons_of_mem _ hc))
        (fun c hc => hplain c (List.mem_cons_of_mem _ hc)), hstate, List.append_assoc]
      rfl

/-! ## The parser's checks -/

theorem cells_mem_of_mem_placedRows {before : JsString} {rows : List (List JsString)} {row : ParsedCsvRow}
    (h : row ∈ placedRows before rows) : row.cells ∈ rows := by
  induction rows generalizing before with
  | nil => simp [placedRows] at h
  | cons cells rows ih =>
    rw [placedRows, List.mem_cons] at h
    rcases h with rfl | h
    · exact List.mem_cons_self
    · exact List.mem_cons_of_mem _ (ih h)

theorem trimTrailingEmptyRows_eq {rows : List ParsedCsvRow}
    (h : ∀ row ∈ rows, ∃ cell ∈ row.cells, cell ≠ []) :
    trimTrailingEmptyRows rows = rows := by
  unfold trimTrailingEmptyRows
  have hkeep : rows.reverse.dropWhile (fun row => row.cells.all List.isEmpty) = rows.reverse := by
    rw [List.dropWhile_eq_self_iff]
    intro hlength hempty
    have hmem : rows.reverse[0] ∈ rows := List.mem_reverse.mp (List.getElem_mem hlength)
    obtain ⟨cell, hcell, hne⟩ := h _ hmem
    have hnil := List.all_eq_true.mp hempty cell hcell
    exact hne (List.isEmpty_iff.mp hnil)
  rw [hkeep, List.reverse_reverse]

theorem validateHeadersFrom_ok {headers seen : List JsString} (hfilled : ∀ header ∈ headers, header ≠ [])
    (hdistinct : headers.Nodup) (hseen : ∀ header ∈ headers, header ∉ seen) :
    validateHeadersFrom seen headers = .ok () := by
  induction headers generalizing seen with
  | nil => rfl
  | cons header headers ih =>
    rw [List.nodup_cons] at hdistinct
    rw [validateHeadersFrom, if_neg (hfilled header List.mem_cons_self), if_neg (hseen header List.mem_cons_self)]
    refine ih (fun other hother => hfilled other (List.mem_cons_of_mem _ hother)) hdistinct.2 ?_
    intro other hother hmem
    rcases List.mem_cons.mp hmem with rfl | hmem
    · exact hdistinct.1 hother
    · exact hseen other (List.mem_cons_of_mem _ hother) hmem

theorem validateRowWidths_ok {headers : List JsString} {rows : List ParsedCsvRow}
    (h : ∀ row ∈ rows, row.cells.length = headers.length) : validateRowWidths headers rows = .ok () := by
  induction rows with
  | nil => rfl
  | cons row rows ih =>
    rw [validateRowWidths, if_neg (not_not_intro (h row List.mem_cons_self))]
    exact ih (fun other hother => h other (List.mem_cons_of_mem _ hother))

theorem mapIdx_normalizeHeader {headers : List JsString} (htrimmed : ∀ header ∈ headers, Json.trim header = header)
    (hmark : ∀ header, headers.head? = some header → header.head? ≠ some byteOrderMark) :
    headers.mapIdx (fun index header => normalizeHeader header index) = headers := by
  apply List.ext_getElem (by simp)
  intro index hleft hright
  rw [List.getElem_mapIdx, normalizeHeader]
  have hkept : ¬ (index = 0 ∧ headers[index].head? = some byteOrderMark) := by
    rintro ⟨rfl, hfirst⟩
    exact hmark _ (List.head?_eq_getElem? ▸ List.getElem?_eq_getElem hright) hfirst
  rw [if_neg hkept, htrimmed _ (List.getElem_mem hright)]

/-- A header that an import accepts as it stands. -/
structure ValidHeaders (headers : List JsString) : Prop where
  ne_nil : headers ≠ []
  distinct : headers.Nodup
  trimmed : ∀ header ∈ headers, Json.trim header = header
  filled : ∀ header ∈ headers, header ≠ []
  unmarked : ∀ header, headers.head? = some header → header.head? ≠ some byteOrderMark

/-- **Parsing inverts printing**: the headers, the cells and the line of each row. -/
theorem parseCsv_csvText {headers : List JsString} {rows : List (List JsString)} (hheaders : ValidHeaders headers)
    (hwidth : ∀ row ∈ rows, row.length = headers.length)
    (hfilled : ∀ row ∈ rows, ∃ cell ∈ row, Json.trim cell ≠ [])
    (hplain : ∀ row ∈ headers :: rows, ∀ text ∈ row, neutralizeSpreadsheetFormula text = text) :
    parseCsv (csvText (headers :: rows)) =
      .ok { headers, rows := placedRows (textLine headers ++ [lineFeed]) rows } := by
  have hne : ∀ row ∈ headers :: rows, row ≠ [] := by
    intro row hrow
    rcases List.mem_cons.mp hrow with rfl | hrow
    · exact hheaders.ne_nil
    · have hlength := hwidth row hrow
      have hpositive := List.length_pos_iff.mpr hheaders.ne_nil
      exact List.length_pos_iff.mp (by omega)
  have hcells := parseCsvCells_csvText (headers :: rows) (List.cons_ne_nil _ _) startsRow_nil hne hplain
  -- every row has a cell that is not blank, so no row is trimmed
  have hkept : trimTrailingEmptyRows (placedRows [] (headers :: rows)) = placedRows [] (headers :: rows) := by
    apply trimTrailingEmptyRows_eq
    intro row hrow
    rcases List.mem_cons.mp (cells_mem_of_mem_placedRows hrow) with hheader | hrow
    · rw [hheader]
      obtain ⟨header, hheader⟩ := List.exists_mem_of_ne_nil _ hheaders.ne_nil
      exact ⟨header, hheader, hheaders.filled header hheader⟩
    · obtain ⟨cell, hcell, hblank⟩ := hfilled _ hrow
      refine ⟨cell, hcell, ?_⟩
      rintro rfl
      exact hblank rfl
  have hdata : (placedRows (textLine headers ++ [lineFeed]) rows).filter
      (fun row => row.cells.any (fun cell => !(Json.trim cell).isEmpty)) =
        placedRows (textLine headers ++ [lineFeed]) rows := by
    rw [List.filter_eq_self]
    intro row hrow
    obtain ⟨cell, hcell, hblank⟩ := hfilled _ (cells_mem_of_mem_placedRows hrow)
    rw [List.any_eq_true]
    exact ⟨cell, hcell, by simpa using hblank⟩
  have hwidths : validateRowWidths headers (placedRows (textLine headers ++ [lineFeed]) rows) = .ok () :=
    validateRowWidths_ok (fun row hrow => hwidth _ (cells_mem_of_mem_placedRows hrow))
  have hvalid : validateHeaders headers = .ok () :=
    validateHeadersFrom_ok hheaders.filled hheaders.distinct (fun _ _ => List.not_mem_nil)
  have hplaced : placedRows [] (headers :: rows) =
      { line := 1, cells := headers } :: placedRows (textLine headers ++ [lineFeed]) rows := rfl
  rw [List.nil_append, List.nil_append, hplaced] at hcells
  rw [hplaced] at hkept
  unfold parseCsv
  rw [hcells]
  simp only [bind, Except.bind, hkept, requireCsvHeaderRow, List.drop_one, List.tail_cons,
    mapIdx_normalizeHeader hheaders.trimmed hheaders.unmarked, hvalid, hdata, hwidths]
  rfl

/-- Two columns, a cell with a CRLF and a quote in it, and one that ends in a carriage return. -/
theorem parseCsv_csvText_quoted :
    parseCsv (csvText [[js "a", js "b"], [js "1,\r\n\"2\"", []], [js "3", js "4\r"], [js "5", js " "]]) =
      .ok {
        headers := [js "a", js "b"]
        rows := [
          { line := 2, cells := [js "1,\r\n\"2\"", []] },
          { line := 4, cells := [js "3", js "4\r"] },
          { line := 6, cells := [js "5", js " "] }] } := by
  have hheaders : ValidHeaders [js "a", js "b"] := ⟨by decide, by decide, by decide, by decide, by simp; decide⟩
  exact parseCsv_csvText hheaders (by decide) (by decide) (by decide +kernel)

end Csv
