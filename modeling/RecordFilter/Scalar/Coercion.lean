import RecordFilter.Calendar.Reader
import RecordFilter.Number.FloatText
import RecordFilter.Number.Precision
import RecordFilter.Query.Operator
import RecordFilter.Query.Raw
import RecordFilter.Diagnostic.Error
import RecordFilter.Scalar.Value

/-!
# Coercion

Coercion turns the raw value of a condition into the datum that its property is
compared with. Shape and operator decide whether one value is wanted or a list;
the kind decides how each value is read.
-/

namespace RecordFilter

open Diagnostic (Code)
open Number (DecimalError)
open Calendar (CalendarError)

/-- Why a raw value does not convert. -/
inductive Misfit where
  | null
  | list
  | emptyList
  | severalValues
  | nullInList
  | booleanAs (k : Kind)
  | notBoolean
  | notInteger
  | outsideBounds (low high : Int)
  | notNumber
  | beyondFloat (k : Kind)
  | notDecimal (e : DecimalError)
  | notCharacter
  | notDate (e : CalendarError)
  | notDateTime
  | notTimestamp (e : CalendarError)
  | notVariant (e : Enumeration)
deriving DecidableEq, Repr

namespace Misfit

def code : Misfit → Code
  | null | nullInList => .nullNotAllowed
  | list | emptyList | severalValues => .multipleValues
  | outsideBounds .. | beyondFloat _ => .outOfRange
  | notVariant _ => .unknownVariant
  | _ => .invalidValue

def message : Misfit → String
  | null => "null is only allowed for nullable properties"
  | list => "expected a single value"
  | emptyList => "an empty list is not a single value"
  | severalValues => "multiple values are not allowed with this operator"
  | nullInList => "null is not allowed inside a value list"
  | booleanAs k => "a boolean is not a " ++ k.name
  | notBoolean => "expected true or false"
  | notInteger => "expected an integer"
  | outsideBounds low high =>
    "value must be between " ++ toString low ++ " and " ++ toString high
  | notNumber => "expected a number"
  | beyondFloat k => "value exceeds the " ++ k.name ++ " range"
  | notDecimal e => "expected a decimal number (" ++ e.message ++ ")"
  | notCharacter => "expected exactly one character"
  | notDate e => "expected a date as YYYY-MM-DD (" ++ e.message ++ ")"
  | notDateTime => "expected an ISO 8601 date-time"
  | notTimestamp e => "expected an RFC 3339 timestamp (" ++ e.message ++ ")"
  | notVariant e => "expected one of: " ++ ", ".intercalate e.variants

/-- The error of a raw value at a path. -/
def toError (m : Misfit) (path : String) (raw : Raw) (k : Kind) : FilterError :=
  .coercion m.code path k.name raw.render m.message none

end Misfit

namespace Coercion

/-- The integers that are read before their bounds are checked have 128 bits. Digits beyond that
are out of bounds, whatever follows them. -/
def wideBound : Nat := 170141183460469231731687303715884105728

def readBoolean (s : List Char) : Except Misfit Scalar :=
  let word := String.ofList s
  if Text.sameFolded word "true" then .ok (.bool true)
  else if Text.sameFolded word "false" then .ok (.bool false)
  else .error .notBoolean

/-- Reads an integer between bounds. -/
def readInteger (low high : Int) (s : List Char) : Except Misfit Int :=
  let (negative, body) := Number.takeSign s
  let (digits, rest) := Number.takeDigits body
  let n := Number.ofDigits digits
  if (if negative then wideBound < n else wideBound ≤ n) then .error (.outsideBounds low high)
  else if digits.isEmpty || !rest.isEmpty then .error .notInteger
  else
    let value := Number.withSign negative n
    if value < low ∨ high < value then .error (.outsideBounds low high) else .ok value

/-- The signed scalar of an integer that has 64 bits at most. -/
def signed? (n : Int) : Option Scalar :=
  if -9223372036854775808 ≤ n ∧ n ≤ 9223372036854775807 then some (.int (Int64.ofInt n)) else none

/-- The unsigned scalar of an integer that has 64 bits at most and is not negative. -/
def unsigned? (n : Int) : Option Scalar :=
  if 0 ≤ n ∧ n ≤ 18446744073709551615 then some (.uint (UInt64.ofNat n.toNat)) else none

/-- The scalar of an integer: signed for kinds with negative values, unsigned for all others. -/
def narrow? (low n : Int) : Option Scalar := if low = 0 then unsigned? n else signed? n

/-- Reads an integer between bounds as a scalar. An integer that has none is out of bounds as
well. -/
def readIntegerScalar (low high : Int) (s : List Char) : Except Misfit Scalar := do
  let n ← readInteger low high s
  match narrow? low n with
  | some v => return v
  | none => throw (.outsideBounds low high)

/-- Whether a lexeme says infinity by name. -/
def namesInfinity : List Char → Bool
  | [] => false
  | c :: s => "inf".toList.isPrefixOf ((c :: s).map Char.toLower) || namesInfinity s

def readFloat32 (s : List Char) : Except Misfit Scalar :=
  match Number.readSingle? s with
  | none => .error .notNumber
  | some x =>
    if x.isInf && !namesInfinity s then .error (.beyondFloat .float32)
    else .ok (.float (Number.widen x))

def readFloat64 (s : List Char) : Except Misfit Scalar :=
  match Number.readDouble? s with
  | none => .error .notNumber
  | some x => if x.isInf && !namesInfinity s then .error (.beyondFloat .float64) else .ok (.float x)

/-- Reads a variant by name or by ordinal. -/
def readVariant (e : Enumeration) (s : List Char) : Except Misfit Scalar :=
  match (e.variant? (String.ofList s)).or ((Number.readNat? s).bind e.at?) with
  | some (ordinal, name) => .ok (.variant e.name name ordinal)
  | none => .error (.notVariant e)

/-- Reads a lexeme as a kind. Blanks around it count only in characters and texts. -/
def readLexeme (lexeme : String) (k : Kind) : Except Misfit Scalar :=
  let s := Text.trim lexeme.toList
  match k with
  | .boolean => readBoolean s
  | .float32 => readFloat32 s
  | .float64 => readFloat64 s
  | .decimal =>
    match Number.Decimal.read s with
    | .ok d => .ok (.decimal d)
    | .error e => .error (.notDecimal e)
  | .char =>
    match lexeme.toList with
    | [c] => .ok (.char c)
    | _ => .error .notCharacter
  | .text => .ok (.text lexeme)
  | .date =>
    match Calendar.Date.read s with
    | .ok d => .ok (.date d)
    | .error e => .error (.notDate e)
  | .dateTime =>
    match Calendar.DateTime.read? s with
    | some t => .ok (.dateTime t)
    | none => .error .notDateTime
  | .timestamp =>
    match Calendar.Timestamp.read s with
    | .ok t => .ok (.timestamp t)
    | .error e => .error (.notTimestamp e)
  | .enumeration e => readVariant e s
  | k =>
    match k.bounds? with
    | some (low, high) => readIntegerScalar low high s
    | none => .error .notInteger

/-- Converts a raw value to a kind. -/
def convert (raw : Raw) (k : Kind) : Except Misfit Scalar :=
  match raw with
  | .null => .error .null
  | .list _ => .error .list
  | .boolean b =>
    match k with
    | .boolean => .ok (.bool b)
    | .text => .ok (.text (if b then "true" else "false"))
    | k => .error (.booleanAs k)
  | .number lexeme | .text lexeme => readLexeme lexeme k

/-- Converts a raw value to a kind, for the property at a path. -/
def coerceScalar (path : String) (raw : Raw) (k : Kind) : Except FilterError Scalar :=
  (convert raw k).mapError (·.toError path raw k)

/-- Coerces a raw value that has to be a single one. -/
def coerceSingle (path : String) (raw : Raw) (k : Kind) (nullable : Bool) :
    Except FilterError Datum :=
  match raw.single? with
  | none =>
    .error ((if raw.elements.isEmpty then Misfit.emptyList else .severalValues).toError path raw k)
  | some v =>
    if v.isNull && nullable then .ok .null else (coerceScalar path v k).map .single

/-- Coerces an element of a list. -/
def coerceElement (path : String) (raw : Raw) (k : Kind) (nullable : Bool) (element : Raw) :
    Except FilterError (Option Scalar) :=
  if element.isNull then
    if nullable then .ok none else .error (Misfit.nullInList.toError path raw k)
  else (coerceScalar path element k).map some

/-- Coerces all elements of a raw value. -/
def coerceMany (path : String) (raw : Raw) (k : Kind) (nullable : Bool) :
    Except FilterError Datum :=
  (raw.elements.mapM (coerceElement path raw k nullable)).map .ofOptions

/-- Coerces a raw value for an operator on a property of a shape. A value for an operator that the
shape does not support is coerced as it stands, so that the operator is what gets reported. -/
def coerce (path : String) (raw : Raw) (shape : Shape) (operator : Operator) :
    Except FilterError Datum :=
  let k := shape.element
  let nullable := shape.admitsNull
  if shape.isSequence then
    match operator with
    | .contains => coerceSingle path raw k nullable
    | .equal | .notEqual => coerceMany path raw k nullable
    | _ => if raw.isList then coerceMany path raw k nullable else coerceSingle path raw k true
  else if operator = .containsOnValue then coerceMany path raw k nullable
  else coerceSingle path raw k nullable

end Coercion

end RecordFilter
