import ReconcileFlow.Models
import ReconcileFlow.Support.DecimalRange
import ReconcileFlow.Support.DecimalText
import ReconcileFlow.Support.Exceptions

/-!
# Ingestion — Cells

The cells of a table and what the loaders read from them.  A cell of a CSV file is a text; one of a
workbook may also be absent, a number, a truth value, a date or a datetime.  A float is told by its
`repr` and by the whole number that it is, if any.  Values from a JSON object are of the same kinds,
or arrays and objects.

What the run time of the language does is a parameter (`Runtime`): case mappings, the quoting of
texts, the ISO formats of dates, which datetimes are one time, the parsing of JSON, the decimal
digits beyond ASCII, and the order in which a set of names is gone through.
-/

namespace ReconcileFlow.Ingestion

open Support

/-- A `tzinfo`, by its name. -/
structure Zone where
  name : String
deriving DecidableEq, Repr

/-- A `datetime`: its date, the microsecond of the day, and its zone if it is aware. -/
structure Datetime where
  date : Date
  microsecond : Nat
  zone : Option Zone := none
deriving DecidableEq, Repr

/-- A value of a cell. -/
inductive Cell
  | absent
  | text (value : String)
  | bool (value : Bool)
  | int (value : Int)
  | float (repr : String) (whole : Option Int)
  | date (value : Date)
  | datetime (value : Datetime)
deriving DecidableEq, Repr

/-- A value of `extra_data`: that of a cell or a JSON scalar, or a JSON array or object. -/
inductive Datum
  | cell (value : Cell)
  | array (items : List Datum)
  | object (members : List (String × Datum))

/-- The run time.  A parser returns what it parses, or the text of its `ValueError`. -/
structure Runtime where
  casefold : String → String
  upper : String → String
  repr : String → String
  dateText : Date → String
  datetimeText : Datetime → String
  dateFromIso : String → Except String Date
  datetimeFromIso : String → Except String Datetime
  sameTime : Datetime → Datetime → Bool
  sameTime_equivalence : Equivalence fun a b => sameTime a b = true
  loads : String → Except String Datum
  digit : Char → Option (Fin 10)
  isdigit : String → Bool
  limits : Decimal.Limits := .default
  order : List String → List String := id
  order_perm : ∀ names, (order names).Perm names := by exact fun _ => .refl _

/-- An `IngestionError`: its message, and where in the file it arose. -/
structure IngestionError where
  message : String
  row : Option Nat := none
  column : Option String := none
  value : Option Cell := none
deriving DecidableEq, Repr

/-- What a loader may raise: its own error, a `KeyError` of a row without the key, the
`OverflowError` of `int` of an infinity, or the `Overflow` of the decimal arithmetic. -/
inductive Failure
  | ingestion (error : IngestionError)
  | keyError (key : String)
  | overflowError
  | decimalOverflow
deriving DecidableEq, Repr

/-- The exception is an `IngestionError`. -/
def Failure.isIngestion : Failure → Bool
  | .ingestion _ => true
  | _ => false

namespace Cell

/-- `str(value)`. -/
def str (py : Runtime) : Cell → String
  | absent => "None"
  | text value => value
  | bool value => if value then "True" else "False"
  | int value => toString value
  | float repr _ => repr
  | date value => py.dateText value
  | datetime value => py.datetimeText value

/-- `value not in (None, "")`. -/
def isPresent (cell : Cell) : Bool := decide (cell ≠ absent) && decide (cell ≠ text "")

/-- `_blank`. -/
def isBlank : Cell → Bool
  | absent => true
  | text value => ReconcileFlow.isBlank value
  | _ => false

end Cell

/-- `_text`, of a cell that is not blank. -/
def textOf (py : Runtime) : Cell → String
  | .float _ (some whole) => toString whole
  | cell => strip (cell.str py)

/-- `_text`. -/
def text (py : Runtime) (cell : Cell) : Option String :=
  if cell.isBlank then none else some (textOf py cell)

/-- `value.split()`. -/
def split (value : String) : List String :=
  ((value.toList.splitOnP isSpace).filter (· ≠ [])).map String.ofList

/-- `value.replace(a, b)`, for single characters. -/
def replaceChar (value : String) (a b : Char) : String :=
  String.ofList (value.toList.map fun c => if c = a then b else c)

/-- `_key`. -/
def key (py : Runtime) (value : String) : String :=
  py.casefold (" ".intercalate (split (replaceChar (replaceChar (strip value) '_' ' ') '-' ' ')))

end ReconcileFlow.Ingestion
