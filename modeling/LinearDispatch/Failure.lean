import LinearDispatch.Value
import LinearDispatch.Number.Reading

/-!
# Failures

Why a call failed. The library's own failures are named by their cause; what a native service,
a scripted adapter or an environment reports on its own account is `foreign`. Each failure
belongs to one class, and the class is what callers and handlers tell apart: a backend that
cannot be reached is handled differently from everything else.
-/

namespace LinearDispatch

/-- The classes that handlers and reports tell apart. -/
inductive FailureClass where
  | misuse
  | unavailable
  | value
  | overflow
  | type
  | part
  | index
  | key
  | runtime
  | missingModule
  | gurobi
deriving DecidableEq

def FailureClass.label : FailureClass → String
  | misuse => "LpBridgeError"
  | unavailable => "BackendUnavailableError"
  | value => "ValueError"
  | overflow => "OverflowError"
  | type => "TypeError"
  | part => "AttributeError"
  | index => "IndexError"
  | key => "KeyError"
  | runtime => "RuntimeError"
  | missingModule => "ImportError"
  | gurobi => "GurobiError"

inductive Failure where
  | unknownVariableKind (shown : String)
  /-- something of type `type` where a program expects a variable -/
  | notAVariable (type : String)
  /-- something of type `type` where a program expects a constraint -/
  | notAConstraint (type : String)
  /-- something else where a program expects an objective -/
  | notAnExpression
  | factoryNotCallable (name : String)
  /-- a model part for an adapter that was never opened -/
  | notOpened
  | overReleased (name : String)
  | notRegistered (name : String)
  | noSolverInstance (solverId : String)
  | moduleMissing
  | environmentNotStarted (reason : String)
  | negativeTimeLimit
  | threadsNotPositive
  | notNumeric (literal : String)
  | notConvertible (type : String)
  | integerTooLarge
  | undefinedToInteger
  | infiniteToInteger
  | tooFewItems (count : Nat)
  | tooManyItems
  | notIterable (type : String)
  | notUnpackable (type : String)
  | notComparable (sign left right : String)
  /-- a type without a negative -/
  | noNegative (type : String)
  /-- no number where a real one is needed -/
  | notReal (type : String)
  | notHashable (type : String)
  /-- a write through a read-only view -/
  | readOnly
  | reservedOption (name : String)
  | missingPart (type part : String)
  | indexOutOfRange
  | notAnIndex (type : String)
  /-- something that is no index of a vector of numbers -/
  | notAnAxisIndex
  /-- a column past the end of the coefficient matrix -/
  | columnBeyondMatrix (column : Int) (columns : Nat)
  /-- a column before the start of the coefficient matrix -/
  | columnNegative (column : Int)
  | notAnInteger (literal : String)
  | integerTooLong (digits limit : Nat)
  /-- an integer of too many digits where a value is to be written -/
  | notWritable
  /-- an index of more than 64 bits -/
  | indexTooWide
  | listForNumber
  /-- lists of unequal lengths on a level, after levels of the given lengths -/
  | unevenLists (lengths : List Nat)
  | tooManyAxes (limit : Nat)
  | cellNotNumeric (literal : String)
  /-- a grid of values for selected costs of other extents -/
  | unfitForSelection (values selection : List Nat)
  /-- a grid of values for all costs, with extents that cannot be stretched -/
  | unfitForCosts (values costs : List Nat)
  /-- sides of columns that are lists nested too deep -/
  | tooManySideAxes (axes limit : Nat)
  /-- sides of columns that are grids without common extents -/
  | columnSidesUnfit
  | rowSidesUnfit
  | entriesNotFlat
  /-- matrix entries of a type that a sparse matrix does not hold -/
  | entriesNotNumeric (type : String)
  | entryNotAPair (place length : Nat)
  | entryNotASequence (place : Nat)
  | foreign (reported : FailureClass) (message : String)
deriving DecidableEq

namespace Failure

def extentsText (separator : String) : List Nat → String
  | [n] => "(" ++ toString n ++ ",)"
  | ns => "(" ++ separator.intercalate (ns.map toString) ++ ")"

def failureClass : Failure → FailureClass
  | unknownVariableKind _ | notAVariable _ | notAConstraint _ | notAnExpression
  | factoryNotCallable _ | notOpened | overReleased _ => .misuse
  | notRegistered _ | noSolverInstance _ | moduleMissing | environmentNotStarted _ =>
    .unavailable
  | negativeTimeLimit | threadsNotPositive | notNumeric _ | undefinedToInteger | tooFewItems _
  | tooManyItems | columnBeyondMatrix .. | columnNegative _ | notAnInteger _ | listForNumber
  | integerTooLong .. | notWritable | unevenLists _ | tooManyAxes _ | cellNotNumeric _
  | unfitForSelection .. | unfitForCosts .. | columnSidesUnfit | rowSidesUnfit | entriesNotFlat
  | entriesNotNumeric _ | entryNotAPair .. => .value
  | integerTooLarge | infiniteToInteger | indexTooWide => .overflow
  | notConvertible _ | notIterable _ | notUnpackable _ | notComparable .. | noNegative _
  | notReal _ | notHashable _ | notAnIndex _ | entryNotASequence _ | readOnly
  | reservedOption _ => .type
  | missingPart .. => .part
  | indexOutOfRange | notAnAxisIndex => .index
  | tooManySideAxes .. => .runtime
  | foreign reported _ => reported

/-- The backend behind the call cannot be reached. -/
def isUnavailable (f : Failure) : Bool :=
  f.failureClass = .unavailable

/-- The wording of a failure. A foreign failure keeps its own, between quotes if it names a
key. -/
def message : Failure → String
  | unknownVariableKind shown => "Unknown variable type " ++ shown
  | notAVariable type => "Cannot add type " ++ type ++ " as a variable"
  | notAConstraint type => "Cannot add type " ++ type ++ " as a constraint"
  | notAnExpression => "Objective must be a LinearExpression"
  | factoryNotCallable name => "Backend factory for '" ++ name ++ "' is not callable"
  | notOpened => "ScipyBackend used before open()"
  | overReleased name => name ++ " environment released more often than acquired"
  | notRegistered name => "No backend adapter registered as '" ++ name ++ "'"
  | noSolverInstance solverId => "Could not create " ++ solverId ++ " solver instance"
  | moduleMissing => "gurobipy is not installed"
  | environmentNotStarted reason => "Could not start Gurobi environment: " ++ reason
  | negativeTimeLimit => "time_limit must be non-negative"
  | threadsNotPositive => "threads must be a positive integer"
  | notNumeric literal => "could not convert string to float: " ++ literal
  | notConvertible type =>
    "float() argument must be a string or a real number, not '" ++ type ++ "'"
  | integerTooLarge => "int too large to convert to float"
  | undefinedToInteger => "cannot convert float NaN to integer"
  | infiniteToInteger => "cannot convert float infinity to integer"
  | tooFewItems count => "not enough values to unpack (expected 2, got " ++ toString count ++ ")"
  | tooManyItems => "too many values to unpack (expected 2)"
  | notIterable type => "'" ++ type ++ "' object is not iterable"
  | notUnpackable type => "cannot unpack non-iterable " ++ type ++ " object"
  | notComparable sign left right =>
    "'" ++ sign ++ "' not supported between instances of '" ++ left ++ "' and '" ++ right ++ "'"
  | noNegative type => "bad operand type for unary -: '" ++ type ++ "'"
  | notReal type => "must be real number, not " ++ type
  | notHashable type => "unhashable type: '" ++ type ++ "'"
  | readOnly => "'mappingproxy' object does not support item assignment"
  | reservedOption name => "got multiple values for argument '" ++ name ++ "'"
  | missingPart type part => "'" ++ type ++ "' object has no attribute '" ++ part ++ "'"
  | indexOutOfRange => "list index out of range"
  | notAnIndex type => "list indices must be integers or slices, not " ++ type
  | notAnAxisIndex => "only integers and truth values are valid indices"
  | notAnInteger literal =>
    "invalid literal for int() with base 10: " ++ String.ofList (literal.toList.take 200)
  | integerTooLong digits limit =>
    "Exceeds the limit (" ++ toString limit ++ " digits) for integer string conversion: value has "
      ++ toString digits ++ " digits; use sys.set_int_max_str_digits() to increase the limit"
  | notWritable =>
    "Exceeds the limit (" ++ toString Number.maxDigits ++ " digits) for integer string conversion; "
      ++ "use sys.set_int_max_str_digits() to increase the limit"
  | indexTooWide => "Python int too large to convert to C long"
  | listForNumber => "setting an array element with a sequence."
  | unevenLists lengths =>
    "setting an array element with a sequence. The requested array has an inhomogeneous shape "
      ++ "after " ++ toString lengths.length ++ " dimensions. The detected shape was "
      ++ extentsText ", " lengths ++ " + inhomogeneous part."
  | tooManyAxes limit =>
    "setting an array element with a sequence. The requested array would exceed the maximum "
      ++ "number of dimension of " ++ toString limit ++ "."
  | cellNotNumeric literal => "could not convert string to float: np.str_(" ++ literal ++ ")"
  | unfitForSelection values selection =>
    "shape mismatch: value array of shape " ++ extentsText "," values
      ++ " could not be broadcast to indexing result of shape " ++ extentsText "," selection
  | unfitForCosts values costs =>
    "could not broadcast input array from shape " ++ extentsText "," values ++ " into shape "
      ++ extentsText "," costs
  | tooManySideAxes axes limit =>
    "this function only supports up to " ++ toString limit ++ " dimensions but the array has "
      ++ toString axes ++ "."
  | columnSidesUnfit => "`lb`, `ub`, and `keep_feasible` must be broadcastable."
  | rowSidesUnfit =>
    "`lb`, `ub`, and `keep_feasible` must be broadcastable to shape `A.shape[0:1]`"
  | entriesNotFlat => "coordinates and data arrays must be 1-D"
  | entriesNotNumeric type =>
    "scipy.sparse does not support dtype " ++ type ++ ". The only supported types are: bool, int8, "
      ++ "uint8, int16, uint16, int32, uint32, int64, uint64, longlong, ulonglong, float32, "
      ++ "float64, longdouble, complex64, complex128, clongdouble."
  | entryNotAPair place length =>
    "dictionary update sequence element #" ++ toString place ++ " has length " ++ toString length
      ++ "; 2 is required"
  | entryNotASequence place =>
    "cannot convert dictionary update sequence element #" ++ toString place ++ " to a sequence"
  | columnBeyondMatrix column columns =>
    "axis 1 index " ++ toString column ++ " exceeds matrix dimension " ++ toString columns
  | columnNegative column => "negative axis 1 index: " ++ toString column
  | foreign .key text => Text.quoted text
  | foreign _ text => text

/-- A failure in a report: its class and its wording. -/
def report (f : Failure) : String :=
  f.failureClass.label ++ ": " ++ f.message

/-- A failure whose wording names a value. If the value cannot be written, that is the failure. -/
def naming (v : Value) (f : Failure) : Failure :=
  if v.isWritable then f else notWritable

end Failure

instance instDecidableEqExcept {ε α : Type} [DecidableEq ε] [DecidableEq α] :
    DecidableEq (Except ε α)
  | .error a, .error b => decidable_of_iff (a = b) ⟨congrArg _, Except.error.inj⟩
  | .ok a, .ok b => decidable_of_iff (a = b) ⟨congrArg _, Except.ok.inj⟩
  | .error _, .ok _ | .ok _, .error _ => isFalse nofun

/-! ## Writing values -/

/-- What is wrong with a value that is to be written. -/
def Value.unwritable? (v : Value) : Option Failure :=
  if v.isWritable then Option.none else some .notWritable

/-- An answer that a value is written for. -/
def Value.whenWritable {α : Type} (v : Value) (answer : α) : Except Failure α :=
  if v.isWritable then .ok answer else .error .notWritable

theorem Value.whenWritable_eq_ok {α : Type} {v : Value} {answer a : α} :
    v.whenWritable answer = .ok a ↔ v.isWritable = true ∧ answer = a := by
  unfold whenWritable
  split
  · next written => simp [written]
  · next unwritten => simp [unwritten]

theorem Value.whenWritable_eq_error {α : Type} {v : Value} {answer : α} {e : Failure} :
    v.whenWritable answer = .error e ↔ v.isWritable = false ∧ e = .notWritable := by
  unfold whenWritable
  split
  · next written => simp [written]
  · next unwritten => simp [unwritten, eq_comm]

/-! ## Conversions that can fail -/

/-- The binary64 number that a scalar is rounded to. -/
def Scalar.toFloat (s : Scalar) : Except Failure Float :=
  match s.toFloat? with
  | some x => .ok x
  | none => .error .integerTooLarge

def Scalar.truncate : Scalar → Except Failure Int
  | .real x =>
    match Number.truncate? x with
    | some n => .ok n
    | none => .error (if x.isNaN then .undefinedToInteger else .infiniteToInteger)
  | .bool b => .ok (if b then 1 else 0)
  | .int n => .ok n

/-- The binary64 number that a value stands for: a scalar by rounding, a text by reading. -/
def Value.toFloat : Value → Except Failure Float
  | .scalar s => s.toFloat
  | .text s =>
    match Number.read? s with
    | some x => .ok x
    | .none => .error (.notNumeric (Text.quoted s))
  | v => .error (.notConvertible v.typeName)

/-- The items of a value, in order: those of a list, the characters of a text. -/
def Value.items : Value → Except Failure (List Value)
  | .list items => .ok items
  | .text s => .ok (s.toList.map fun c => .text (String.singleton c))
  | v => .error (.notIterable v.typeName)

/-- A value as a pair: a list of two items or a text of two characters. -/
def Value.pair (v : Value) : Except Failure (Value × Value) :=
  match v.items with
  | .ok [a, b] => .ok (a, b)
  | .ok (_ :: _ :: _ :: _) => .error .tooManyItems
  | .ok few => .error (.tooFewItems few.length)
  | .error _ => .error (.notUnpackable v.typeName)

end LinearDispatch
