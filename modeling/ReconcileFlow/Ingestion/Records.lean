import ReconcileFlow.Ingestion.Conversion

/-!
# Ingestion — Records

The models that the loaders build, and their validation.  A record is its attributes by name and its
extra data.  `__post_init__` of a model is a list of checks, run in order; a check looks at the
attributes and may store one of them stripped.  A check raises a `TypeError` or a `ValueError`,
except that the sums of the last checks are made in the decimal arithmetic and may overflow.
-/

namespace ReconcileFlow.Ingestion

open Support

/-- The attributes of a record; one that is `None` is nothing. -/
abbrev Attributes := String → Option Value

/-- What the construction of a model raises. -/
inductive ModelError
  | typeError (message : String)
  | valueError (message : String)
  | overflow
deriving DecidableEq, Repr

/-- A step of `__post_init__`. -/
abbrev Check := Attributes → Except ModelError Attributes

/-- The decimal of an attribute that is one and is finite. -/
def decimalAt (attributes : Attributes) (name : String) : Option Decimal :=
  match attributes name with
  | some (.decimal (.finite value)) => some value
  | _ => none

/-- The decimal of an attribute that has passed `require_decimal`. -/
def amountAt (attributes : Attributes) (name : String) : Decimal :=
  (decimalAt attributes name).getD (.ofInt 0)

/-! ### The validation helpers -/

/-- `require_text`, of a value. -/
def requireTextOf (name : String) : Option Value → Except ModelError String
  | some (.text value) =>
    if ReconcileFlow.isBlank value then
      .error (.valueError (name ++ " must be a non-empty string"))
    else .ok (strip value)
  | _ => .error (.valueError (name ++ " must be a non-empty string"))

/-- `object.__setattr__(self, name, value)`. -/
def Attributes.store (attributes : Attributes) (name : String) (value : String) : Attributes :=
  Function.update attributes name (some (.text value))

def requireText (name : String) : Check := fun attributes => do
  let value ← requireTextOf name (attributes name)
  return attributes.store name value

def requireCurrency (name : String) : Check := fun attributes => do
  let currency ← requireTextOf name (attributes name)
  must (isCurrencyCode currency = true)
    (.valueError (name ++ " must be a three-letter uppercase ISO 4217 code"))
  return attributes.store name currency

/-- `require_decimal`, without storing what it returns, which is the value itself. -/
def requireDecimal (name : String) (allowNegative : Bool := false) (allowZero : Bool := true) :
    Check := fun attributes =>
  match attributes name with
  | some (.decimal (.finite value)) => do
    must (allowNegative = true ∨ value.lt (.ofInt 0) = false)
      (.valueError (name ++ " cannot be negative"))
    must (allowZero = true ∨ value.numEq (.ofInt 0) = false)
      (.valueError (name ++ " must be greater than zero"))
    return attributes
  | some (.decimal _) => .error (.valueError (name ++ " must be finite"))
  | _ => .error (.typeError (name ++ " must be Decimal"))

def requireAwareDatetime (name : String) : Check := fun attributes =>
  match attributes name with
  | some (.datetime value) =>
    if value.zone = none then
      .error (.valueError (name ++ " must include timezone information"))
    else .ok attributes
  | _ => .error (.typeError (name ++ " must be datetime"))

def requireDate (name : String) : Check := fun attributes =>
  match attributes name with
  | some (.date _) => .ok attributes
  | _ => .error (.typeError (name ++ " must be date"))

/-- `isinstance(self.name, Enumeration)`. -/
def requireMember (name : String) (enumeration : Enumeration) : Check := fun attributes =>
  match attributes name with
  | some (.member value) =>
    if value ∈ enumeration.members.map Prod.snd then .ok attributes
    else .error (.typeError (name ++ " must be " ++ enumeration.className))
  | _ => .error (.typeError (name ++ " must be " ++ enumeration.className))

/-- A condition on the attributes, or a `ValueError` or a `TypeError`. -/
def requireThat (condition : Attributes → Bool) (error : ModelError) : Check := fun attributes =>
  if condition attributes then .ok attributes else .error error

/-- `if self.name is not None`. -/
def ifGiven (name : String) (check : Check) : Check := fun attributes =>
  if attributes name = none then .ok attributes else check attributes

/-- `if self.name != value: raise ValueError(message)`, where the value is made in the decimal
arithmetic and is nothing if it overflows. -/
structure Total where
  name : String
  value : Attributes → Option Decimal
  message : String

def Total.check (total : Total) : Check := fun attributes =>
  match total.value attributes with
  | none => .error .overflow
  | some value =>
    if (amountAt attributes total.name).numEq value then .ok attributes
    else .error (.valueError total.message)

/-- Checks one after another. -/
def runChecks (checks : List Check) (attributes : Attributes) : Except ModelError Attributes :=
  checks.foldlM (fun attributes check => check attributes) attributes

/-! ### Construction -/

/-- A model: its class, its fields without `extra_data` and, for an invoice, `lines`, those of them
without a default, and the defaults that are not `None`. -/
structure Model where
  className : String
  fields : List String
  required : List String
  defaults : List (String × Value) := []

/-- The names in the message of a missing argument. -/
def quotedNames : List String → String
  | [] => ""
  | [a] => "'" ++ a ++ "'"
  | [a, b] => "'" ++ a ++ "' and '" ++ b ++ "'"
  | names =>
    ", ".intercalate (names.dropLast.map fun name => "'" ++ name ++ "'") ++ ", and '" ++
      names.getLast?.getD "" ++ "'"

/-- The `TypeError` of a call without arguments that are required. -/
def missingArguments (className : String) (missing : List String) : ModelError :=
  .typeError (className ++ ".__init__() missing " ++ toString missing.length ++
    " required keyword-only argument" ++ (if missing.length = 1 then "" else "s") ++ ": " ++
      quotedNames missing)

/-- The attributes before `__post_init__`: the arguments, and the defaults of the others. -/
def Model.initial (model : Model) (arguments : List (String × Option Value)) : Attributes :=
  fun name =>
    match arguments.lookup name with
    | some value => value
    | none => model.defaults.lookup name

/-- The call of the class, with the checks of its `__post_init__`. -/
def Model.construct (model : Model) (checks : List Check)
    (arguments : List (String × Option Value)) : Except ModelError Attributes :=
  let missing := model.required.filter fun name => (arguments.lookup name).isNone
  if missing = [] then runChecks checks (model.initial arguments)
  else .error (missingArguments model.className missing)

/-- A loaded record. -/
structure Record where
  attributes : Attributes
  extraData : String → Option Datum

/-- An `ERPInvoice`, with its lines. -/
structure Invoice extends Record where
  lines : List Record

end ReconcileFlow.Ingestion
