import ReconcileFlow.Ingestion.Loading
import ReconcileFlow.Support.Csv
import ReconcileFlow.Support.Utf8
import ReconcileFlow.Texts

/-!
# Ingestion — Files

The files of the loaders.  A CSV file is decoded and its records are the rows; of a workbook the rows
are those of a sheet.  How a workbook is opened is a parameter.  A file of texts that a CSV writer has
written is read as these texts (`readCsv_document`), and whatever the bytes of a CSV file, reading
them fails for one of two reasons alone (`readCsv_error`).
-/

namespace ReconcileFlow.Ingestion

open Support

/-- The rows of a sheet.  A chart has none, and neither has the active sheet of a workbook that has no
such sheet. -/
abbrev Sheet := Option (List (List Cell))

/-- An open workbook. -/
structure Workbook where
  sheets : List (String × Sheet)
  active : Sheet

/-- `load_workbook`, of the bytes of a file. -/
abbrev LoadWorkbook := List UInt8 → Except String Workbook

/-- What is raised over a file: by the loader, or before the loader has its cells. -/
inductive FileFailure
  | loader (failure : Failure)
  | unicodeDecodeError
  | csvError (error : Csv.Error)
  | attributeError
  | workbook (typeName : String)
deriving DecidableEq, Repr

/-- A path, and the bytes of the file if there is one. -/
structure SourceFile where
  path : String
  contents : Option (List UInt8)

/-- Per-source settings, with the sheet that is to be read. -/
structure SourceConfig extends IngestionConfig where
  sheetName : Option String := none

/-- An `IngestionError` without a place in the file. -/
def rejected (message : String) : FileFailure := .loader (.ingestion { message })

/-- `csv.field_size_limit()`. -/
def fieldSizeLimit : Nat := 131072

/-- A record of a CSV file, as cells. -/
def textCells (texts : List (List Char)) : List Cell :=
  texts.map fun text => .text (String.ofList text)

/-- The cells of a CSV file.  Of a file that is neither in the encoding nor without a long field, which
of the two is found first is not told: the decoder is ahead of the reader by a buffer. -/
def readCsv (contents : List UInt8) : Except FileFailure (List (List Cell)) :=
  match Utf8.decodeSig contents with
  | none => .error .unicodeDecodeError
  | some text => do
    let rows ← (Csv.read fieldSizeLimit text).mapError .csvError
    return rows.map textCells

section Read

variable (py : Runtime) (loadWorkbook : LoadWorkbook)

/-- The cells of a workbook. -/
def readWorkbook (workbook : Workbook) (sheetName : Option String) :
    Except FileFailure (List (List Cell)) := do
  let sheet ← match sheetName with
    | none => .ok workbook.active
    | some name =>
      match workbook.sheets.lookup name with
      | none => .error (rejected ("worksheet " ++ py.repr name ++ " does not exist"))
      | some sheet => .ok sheet
  match sheet with
  | none => .error .attributeError
  | some data => return data

/-- `Path(path).suffix.casefold()`. -/
def sourceSuffix (path : String) : String :=
  py.casefold (String.ofList (splitSuffix (pathName path.toList)).2)

/-- `data` of `_read`. -/
def cellsOf (config : SourceConfig) (file : SourceFile) :
    Except FileFailure (List (List Cell)) :=
  match file.contents with
  | none => .error (rejected "file does not exist")
  | some contents =>
    let suffix := sourceSuffix py file.path
    if suffix = ".csv" then readCsv contents
    else if suffix = ".xlsx" then do
      let workbook ← (loadWorkbook contents).mapError .workbook
      readWorkbook py workbook config.sheetName
    else .error (rejected "supported formats are .csv and .xlsx")

/-- `_read`, of a file. -/
def readFile (config : SourceConfig) (file : SourceFile) :
    Except FileFailure (List String × List Row) := do
  let data ← cellsOf py loadWorkbook config file
  (read py data).mapError fun error => .loader (.ingestion error)

/-- A loader, of a file. -/
def loadFile {α : Type} (load : IngestionConfig → List (List Cell) → Except Failure α)
    (config : SourceConfig) (file : SourceFile) : Except FileFailure α := do
  let data ← cellsOf py loadWorkbook config file
  (load config.toIngestionConfig data).mapError .loader

end Read

/-! ### CSV files -/

/-- The bytes decode to the text that a CSV writer makes of the rows. -/
def Holds (contents : List UInt8) (rows : List (List String)) : Prop :=
  Utf8.decodeSig contents = some (Csv.document (rows.map fun row => row.map String.toList))

/-- Written with a byte order mark. -/
theorem holds_mark (rows : List (List String)) :
    Holds (Utf8.mark ++ Utf8.encode (Csv.document (rows.map fun row => row.map String.toList)))
      rows :=
  Utf8.decodeSig_mark _

theorem textCells_toList (row : List String) : textCells (row.map String.toList) = row.map .text := by
  rw [textCells, List.map_map]
  exact List.map_congr_left fun text _ => congrArg Cell.text String.ofList_toList

/-- **A written table is read.** -/
theorem readCsv_document {contents : List UInt8} {rows : List (List String)}
    (h : Holds contents rows)
    (hlimit : ∀ row ∈ rows, ∀ text ∈ row, text.length ≤ fieldSizeLimit) :
    readCsv contents = .ok (rows.map fun row => row.map .text) := by
  have hread : Csv.read fieldSizeLimit (Csv.document (rows.map fun row => row.map String.toList)) =
      .ok (rows.map fun row => row.map String.toList) := by
    refine Csv.read_document fun row hrow text htext => ?_
    obtain ⟨texts, htexts, rfl⟩ := List.mem_map.mp hrow
    obtain ⟨value, hvalue, rfl⟩ := List.mem_map.mp htext
    exact hlimit texts htexts value hvalue
  rw [readCsv, h]
  simp only [hread]
  refine congrArg Except.ok ?_
  rw [List.map_map]
  exact List.map_congr_left fun row _ => textCells_toList row

theorem readCsv_error {contents : List UInt8} {e : FileFailure} (h : readCsv contents = .error e) :
    e = .unicodeDecodeError ∧ Utf8.decodeSig contents = none ∨ e = .csvError .fieldTooLong := by
  unfold readCsv at h
  split at h
  · next hnone =>
    cases h
    exact .inl ⟨rfl, hnone⟩
  · next text _ =>
    cases hread : Csv.read fieldSizeLimit text with
    | ok rows =>
      rw [hread] at h
      cases h
    | error error =>
      rw [hread] at h
      cases h
      exact .inr (congrArg _ (Csv.fieldTooLong_of_read hread))

end ReconcileFlow.Ingestion
