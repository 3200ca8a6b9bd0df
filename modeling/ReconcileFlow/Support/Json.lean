import ReconcileFlow.Support.Decimal
import ReconcileFlow.Support.Exceptions

/-!
# Support — Json

The values that a JSON text is read as, and what the operations of a dynamically typed program do
on them: each answers on some kinds of values and raises on the others (`raisesOnly_subscript` and
the like).
-/

namespace Support

/-- What an operation raises on a value that it is not for. -/
inductive PyError
  | keyError
  | typeError
  | valueError
  | attributeError
  | overflowError
  | stopIteration
  | recursionError
deriving DecidableEq, Repr

/-- A floating-point number, a finite one told by its `repr`. -/
inductive FloatValue
  | finite (value : Decimal)
  | infinity (negative : Bool)
  | nan

inductive Json
  | null
  | bool (value : Bool)
  | int (value : Int)
  | float (value : FloatValue)
  | str (value : String)
  | arr (items : List Json)
  | obj (fields : List (String × Json))

/-- An integer that converts to a floating-point number: it rounds to less than `2 ^ 1024`. -/
def fitsFloat (n : Int) : Bool := decide (n.natAbs < 2 ^ 1024 - 2 ^ 970)

namespace Json

def isObject : Json → Bool
  | obj _ => true
  | _ => false

def isStr : Json → Bool
  | str _ => true
  | _ => false

theorem isStr_iff {value : Json} : value.isStr = true ↔ ∃ s, value = str s := by
  cases value <;> simp [isStr]

theorem isObject_iff {value : Json} : value.isObject = true ↔ ∃ fields, value = obj fields := by
  cases value <;> simp [isObject]

/-- The value is the text. -/
def equals (value : Json) (text : String) : Bool :=
  match value with
  | str s => decide (s = text)
  | _ => false

def field (fields : List (String × Json)) (key : String) : Option Json :=
  (fields.find? fun entry => decide (entry.1 = key)).map Prod.snd

/-- `value[key]`. -/
def subscript (value : Json) (key : String) : Except PyError Json :=
  match value with
  | obj fields => (field fields key).elim (.error .keyError) .ok
  | _ => .error .typeError

/-- `value.get(key, default)`. -/
def get (value : Json) (key : String) (default : Json) : Except PyError Json :=
  match value with
  | obj fields => .ok ((field fields key).getD default)
  | _ => .error .attributeError

/-- `iter(value)`: the items, the characters or the keys. -/
def iter : Json → Except PyError (List Json)
  | arr items => .ok items
  | str s => .ok (s.toList.map fun c => str (String.singleton c))
  | obj fields => .ok (fields.map fun entry => str entry.1)
  | _ => .error .typeError

/-- The receiver of a method of texts. -/
def text : Json → Except PyError String
  | str s => .ok s
  | _ => .error .attributeError

def isBool : Json → Bool
  | bool _ => true
  | _ => false

/-- `isfinite(value)`, answered with the number. -/
def finite : Json → Except PyError (Option Decimal)
  | bool b => .ok (some (.ofInt b.toInt))
  | int n => if fitsFloat n then .ok (some (.ofInt n)) else .error .overflowError
  | float (.finite value) => .ok (some value)
  | float _ => .ok none
  | _ => .error .typeError

variable {P : PyError → Prop} {value : Json} {key : String}

theorem raisesOnly_subscript (hkey : P .keyError) (htype : P .typeError) :
    RaisesOnly P (value.subscript key) := by
  unfold subscript
  split
  · cases field _ key with
    | none => exact raisesOnly_error.mpr hkey
    | some found => exact raisesOnly_ok found
  · exact raisesOnly_error.mpr htype

theorem raisesOnly_iter (htype : P .typeError) : RaisesOnly P value.iter := by
  unfold iter
  split
  · exact raisesOnly_ok _
  · exact raisesOnly_ok _
  · exact raisesOnly_ok _
  · exact raisesOnly_error.mpr htype

/-- Only an object has the method. -/
theorem raisesOnly_get {default : Json} (hattribute : ¬ P .attributeError) :
    RaisesOnly P (value.get key default) ↔ value.isObject = true := by
  cases value with
  | obj fields => exact iff_of_true (raisesOnly_ok _) rfl
  | _ => exact iff_of_false (fun h => hattribute (raisesOnly_error.mp h)) (by simp [isObject])

theorem raisesOnly_text (hattribute : ¬ P .attributeError) :
    RaisesOnly P value.text ↔ value.isStr = true := by
  cases value with
  | str s => exact iff_of_true (raisesOnly_ok _) rfl
  | _ => exact iff_of_false (fun h => hattribute (raisesOnly_error.mp h)) (by simp [isStr])

/-- Only an integer may be too large. -/
theorem raisesOnly_finite (htype : P .typeError) (hoverflow : ¬ P .overflowError) :
    RaisesOnly P value.finite ↔ ∀ n, value = int n → fitsFloat n = true := by
  cases value with
  | int n =>
    simp only [finite]
    by_cases hn : fitsFloat n = true
    · rw [if_pos hn]
      exact iff_of_true (raisesOnly_ok _) fun m hm => Json.int.inj hm ▸ hn
    · rw [if_neg hn]
      exact iff_of_false (fun h => hoverflow (raisesOnly_error.mp h)) fun h => hn (h n rfl)
  | bool b => exact iff_of_true (raisesOnly_ok _) nofun
  | float f => cases f <;> exact iff_of_true (raisesOnly_ok _) nofun
  | null | str | arr | obj => exact iff_of_true (raisesOnly_error.mpr htype) nofun

end Json

end Support
