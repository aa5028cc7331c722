/-!
# Error codes

Every problem has a number, and the hundred it lies in says which stage found
it. Numbers without an entry are unknown errors; nothing is said about them but
that.
-/

namespace RecordFilter.Diagnostic

structure Code where
  number : Nat
deriving DecidableEq, Repr, Inhabited

/-- The stage a code belongs to. -/
inductive Stage where
  | parsing
  | resolution
  | coercion
  | operator
  | input
deriving DecidableEq, Repr

namespace Code

def malformedClause : Code := ⟨1⟩
def unknownOperator : Code := ⟨2⟩
def invalidPath : Code := ⟨3⟩
def invalidLiteral : Code := ⟨4⟩
def unterminatedText : Code := ⟨5⟩
def missingBracket : Code := ⟨6⟩
def trailingInput : Code := ⟨7⟩
def propertyNotFound : Code := ⟨100⟩
def invalidValue : Code := ⟨200⟩
def nullNotAllowed : Code := ⟨201⟩
def outOfRange : Code := ⟨202⟩
def multipleValues : Code := ⟨203⟩
def unknownVariant : Code := ⟨204⟩
def unsupportedOperator : Code := ⟨300⟩
def invalidDescriptor : Code := ⟨400⟩

/-- The stage of a code, if its number lies in a hundred that has one. -/
def stage? (c : Code) : Option Stage :=
  if c.number = 0 then none
  else match c.number / 100 with
    | 0 => some .parsing
    | 1 => some .resolution
    | 2 => some .coercion
    | 3 => some .operator
    | 4 => some .input
    | _ => none

/-- What the code stands for. -/
def description (c : Code) : String :=
  match c.number with
  | 1 => "Malformed clause"
  | 2 => "Unknown operator"
  | 3 => "Invalid property path"
  | 4 => "Invalid value literal"
  | 5 => "Unterminated string literal"
  | 6 => "Missing closing bracket"
  | 7 => "Unexpected trailing input"
  | 100 => "Property not found"
  | 200 => "Invalid value for property type"
  | 201 => "Null not allowed"
  | 202 => "Numeric value out of range"
  | 203 => "Multiple values not allowed"
  | 204 => "Unknown enumeration variant"
  | 300 => "Operator not supported for property shape"
  | 400 => "Invalid query descriptor"
  | _ => "Unknown error"

/-- Advice that goes with the code. -/
def help? (c : Code) : Option String :=
  match c.number with
  | 1 => some "Clauses have the form [And|Or:]path:Operator:value"
  | 2 => some ("Expected one of Equal, NotEqual, LessThan, LessThanOrEqual, GreaterThan, " ++
      "GreaterThanOrEqual, Contains, ContainsOnValue")
  | 100 => some "Property paths are matched against the registered schema of the record type"
  | 201 => some "Only nullable properties accept null"
  | 203 => some "Use ContainsOnValue to match a property against several values"
  | _ => none

/-- The code as printed, with at least four digits. -/
def render (c : Code) : String :=
  let ds := toString c.number
  "SFT" ++ String.ofList (List.replicate (4 - ds.length) '0') ++ ds

end Code

end RecordFilter.Diagnostic
