import RecordFilter.Calendar.Date
import RecordFilter.Json.Value
import RecordFilter.Number.Decimal
import RecordFilter.Scalar.Kind
import RecordFilter.Text.Quoted

/-!
# Scalars and data

A scalar is one typed value. All signed kinds share one width, so do the
unsigned kinds and the kinds of floating-point numbers. A datum is what a
property holds or is compared with: null, a scalar, or a list of scalars and
nulls.

Equality asks for the same type on both sides; the order also compares signed
with unsigned integers. Both see numbers of a kind as numbers: NaN differs from
itself, `1.0` equals `1.00`.
-/

namespace RecordFilter

open Number (Decimal FloatStyle)
open Calendar (Date DateTime Timestamp)

inductive Scalar where
  | bool (b : Bool)
  | int (n : Int64)
  | uint (n : UInt64)
  | float (x : Float)
  | decimal (d : Decimal)
  | char (c : Char)
  | text (s : String)
  | date (d : Date)
  | dateTime (t : DateTime)
  | timestamp (t : Timestamp)
  | variant (typeName name : String) (ordinal : Nat)
deriving Repr, Inhabited

/-- The order of floating-point numbers, in which NaN has no place. -/
def compareFloats (x y : Float) : Option Ordering :=
  if x < y then some .lt
  else if x == y then some .eq
  else if y < x then some .gt
  else none

namespace Scalar

/-- Equality of two scalars of one type. -/
def same : Scalar → Scalar → Bool
  | bool a, bool b => a == b
  | int a, int b => a == b
  | uint a, uint b => a == b
  | float a, float b => a == b
  | decimal a, decimal b => a.compare b == .eq
  | char a, char b => a == b
  | text a, text b => a == b
  | date a, date b => a == b
  | dateTime a, dateTime b => a == b
  | timestamp a, timestamp b => a == b
  | variant t a i, variant u b j => t == u && a == b && i == j
  | _, _ => false

instance : BEq Scalar := ⟨same⟩

/-- The order of scalars, as far as they can be compared. -/
def compare? : Scalar → Scalar → Option Ordering
  | bool a, bool b => some (compare a b)
  | int a, int b => some (compare a.toInt b.toInt)
  | uint a, uint b => some (compare a.toNat b.toNat)
  | int a, uint b => some (compare a.toInt (b.toNat : Int))
  | uint a, int b => some (compare (a.toNat : Int) b.toInt)
  | float a, float b => compareFloats a b
  | decimal a, decimal b => some (a.compare b)
  | char a, char b => some (compare a.toNat b.toNat)
  | text a, text b => some (compare a b)
  | date a, date b => some (a.compare b)
  | dateTime a, dateTime b => some (a.compare b)
  | timestamp a, timestamp b => some (a.compare b)
  | variant t _ a, variant u _ b => if t = u then some (compare a b) else none
  | _, _ => none

/-- The text of a text or of a variant. -/
def text? : Scalar → Option String
  | text s => some s
  | variant _ name _ => some name
  | _ => none

/-- A text between quotes, as an operand is written. -/
def quote (s : String) : String :=
  String.ofList (Text.Quoted.encode Text.Quoted.escapeQuotes s.toList)

/-- The scalar as a literal of the query language. -/
def render : Scalar → String
  | bool b => if b then "true" else "false"
  | int n => toString n.toInt
  | uint n => toString n.toNat
  | float x => FloatStyle.operand.double x
  | decimal d => d.toText
  | char c => quote (String.singleton c)
  | text s => quote s
  | date d => d.toText
  | dateTime t => t.toText
  | timestamp t => t.toText
  | variant _ name _ => name

def toJson : Scalar → Json
  | bool b => .bool b
  | int n => .int n.toInt
  | uint n => .int n.toNat
  | float x => if x.isFinite then .number (.float x) else .null
  | decimal d => .string d.toText
  | char c => .string (String.singleton c)
  | text s => .string s
  | date d => .string d.toText
  | dateTime t => .string t.toText
  | timestamp t => .string t.toText
  | variant _ name _ => .string name

end Scalar

inductive Datum where
  | null
  | single (v : Scalar)
  /-- A list without nulls. -/
  | many (vs : List Scalar)
  /-- A list that has a null in it. -/
  | optional (vs : List (Option Scalar))
deriving Repr, Inhabited

namespace Datum

def isNull : Datum → Bool
  | null => true
  | _ => false

def single? : Datum → Option Scalar
  | single v => some v
  | _ => none

/-- The list with these elements. -/
def ofOptions (vs : List (Option Scalar)) : Datum :=
  if vs.any Option.isNone then optional vs else many (vs.filterMap id)

/-- The elements of a list; a single value is its own only element, null has none. -/
def elements : Datum → List (Option Scalar)
  | null => []
  | single v => [some v]
  | many vs => vs.map some
  | optional vs => vs

def size (d : Datum) : Nat := d.elements.length

def isEmpty (d : Datum) : Bool := d.size == 0

def renderElement : Option Scalar → String
  | some v => v.render
  | none => "null"

/-- The datum as it is written in a query. -/
def render : Datum → String
  | null => "null"
  | single v => v.render
  | d => "[" ++ ", ".intercalate (d.elements.map renderElement) ++ "]"

def elementJson : Option Scalar → Json
  | some v => v.toJson
  | none => .null

def toJson : Datum → Json
  | null => .null
  | single v => v.toJson
  | d => .array (d.elements.map elementJson)

@[simp] theorem elements_null : null.elements = [] := rfl

@[simp] theorem elements_single (v : Scalar) : (single v).elements = [some v] := rfl

@[simp] theorem elements_many (vs : List Scalar) : (many vs).elements = vs.map some := rfl

@[simp] theorem elements_optional (vs : List (Option Scalar)) : (optional vs).elements = vs := rfl

@[simp] theorem elements_ofOptions (vs : List (Option Scalar)) : (ofOptions vs).elements = vs := by
  unfold ofOptions
  split
  · rfl
  · next h =>
    simp only [elements_many]
    induction vs with
    | nil => rfl
    | cons v vs ih =>
      cases v with
      | none => simp at h
      | some v => simpa using ih (by simpa using h)

end Datum

end RecordFilter
