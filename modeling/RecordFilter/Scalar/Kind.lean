import RecordFilter.Text.Case

/-!
# Kinds and shapes

The kind of a property is the type of a single value in it, its shape is how it
holds such values: one of them, one or null, or a sequence, whose elements may
be null or not.
-/

namespace RecordFilter

/-- A closed list of named variants. The place of a variant is its ordinal. -/
structure Enumeration where
  name : String
  variants : List String
deriving DecidableEq, Repr, Inhabited

namespace Enumeration

/-- The variant at a place. -/
def at? (e : Enumeration) (ordinal : Nat) : Option (Nat × String) :=
  e.variants[ordinal]?.map (ordinal, ·)

/-- The variant of a name: spelled exactly so, or else in any case. -/
def variant? (e : Enumeration) (name : String) : Option (Nat × String) :=
  ((e.variants.findIdx? (· == name)).or
    (e.variants.findIdx? (Text.sameFolded · name))).bind e.at?

end Enumeration

inductive Kind where
  | boolean
  | int8
  | int16
  | int32
  | int64
  | uint8
  | uint16
  | uint32
  | uint64
  | float32
  | float64
  | decimal
  | char
  | text
  /-- A day without a time zone. -/
  | date
  /-- A day and time without a time zone. -/
  | dateTime
  /-- An instant. -/
  | timestamp
  | enumeration (e : Enumeration)
deriving DecidableEq, Repr, Inhabited

namespace Kind

/-- The kinds that have a name of their own. -/
def named : List Kind :=
  [boolean, int8, int16, int32, int64, uint8, uint16, uint32, uint64, float32, float64, decimal,
    char, text, date, dateTime, timestamp]

def name : Kind → String
  | boolean => "Boolean"
  | int8 => "Int8"
  | int16 => "Int16"
  | int32 => "Int32"
  | int64 => "Int64"
  | uint8 => "UInt8"
  | uint16 => "UInt16"
  | uint32 => "UInt32"
  | uint64 => "UInt64"
  | float32 => "Float32"
  | float64 => "Float64"
  | decimal => "Decimal"
  | char => "Char"
  | text => "Text"
  | date => "Date"
  | dateTime => "DateTime"
  | timestamp => "Timestamp"
  | enumeration e => e.name

/-- Other names for some kinds. -/
def alias? : String → Option Kind
  | "bool" => some boolean
  | "int" | "integer" => some int32
  | "long" => some int64
  | "float" => some float32
  | "double" | "number" => some float64
  | "string" => some text
  | _ => none

/-- The kind of a name or alias, in any case. -/
def ofName? (name : String) : Option Kind :=
  (alias? (Text.foldCase name)).or (named.find? (Text.sameFolded ·.name name))

/-- The least and the greatest value of an integer kind. -/
def bounds? : Kind → Option (Int × Int)
  | int8 => some (-128, 127)
  | int16 => some (-32768, 32767)
  | int32 => some (-2147483648, 2147483647)
  | int64 => some (-9223372036854775808, 9223372036854775807)
  | uint8 => some (0, 255)
  | uint16 => some (0, 65535)
  | uint32 => some (0, 4294967295)
  | uint64 => some (0, 18446744073709551615)
  | _ => none

def isInteger (k : Kind) : Bool := k.bounds?.isSome

def isNumeric : Kind → Bool
  | float32 | float64 | decimal => true
  | k => k.isInteger

end Kind

/-- The two kinds of sequences. -/
inductive SequenceKind where
  /-- Of fixed size. -/
  | array
  /-- Of any size. -/
  | collection
deriving DecidableEq, Repr, Inhabited

inductive Shape where
  | scalar (k : Kind)
  | nullable (k : Kind)
  | array (k : Kind)
  | collection (k : Kind)
  /-- An array whose elements may be null. -/
  | nullableArray (k : Kind)
  /-- A collection whose elements may be null. -/
  | nullableCollection (k : Kind)
deriving DecidableEq, Repr, Inhabited

namespace Shape

def sequence : SequenceKind → Kind → Shape
  | .array => array
  | .collection => collection

def nullableSequence : SequenceKind → Kind → Shape
  | .array => nullableArray
  | .collection => nullableCollection

/-- The kind of a single value. -/
def element : Shape → Kind
  | scalar k | nullable k | array k | collection k | nullableArray k | nullableCollection k => k

def isSequence : Shape → Bool
  | scalar _ | nullable _ => false
  | _ => true

def isNullable : Shape → Bool
  | nullable _ => true
  | _ => false

/-- Whether a single value, of a sequence an element, may be null. -/
def admitsNull : Shape → Bool
  | nullable _ | nullableArray _ | nullableCollection _ => true
  | _ => false

def render : Shape → String
  | scalar k => k.name
  | nullable k => k.name ++ "?"
  | array k => k.name ++ "[]"
  | collection k => "Collection<" ++ k.name ++ ">"
  | nullableArray k => k.name ++ "?[]"
  | nullableCollection k => "Collection<" ++ k.name ++ "?>"

end Shape

end RecordFilter
