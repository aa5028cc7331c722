import RecordFilter.Json.Skip
import RecordFilter.Json.Tree
import RecordFilter.Text.Visible

/-!
# Reading into known structures

Building blocks for readers of structures: strings, booleans, names out of a
fixed list, and the fields of a structure, which is given as an object or as the
list of its fields. A structure passes over the members it does not know and
refuses a member it has already seen. A value that does not fit is reported when
it has been read, a list or object already at its start.
-/

namespace RecordFilter.Json

/-- What a value is called in a message. -/
def describe : Json → String
  | null => "null"
  | bool b => "boolean `" ++ (if b then "true" else "false") ++ "`"
  | number (.int n) => "integer `" ++ toString n ++ "`"
  | number n => "floating point `" ++ n.text ++ "`"
  | string s => "string " ++ Text.showText s
  | array _ => "sequence"
  | object _ => "map"

namespace Reader

/-- Fails at a value that does not fit. -/
def failFit {α : Type} (message : String) : Reader α := failHere (.mismatch message)

/-- Fails behind a value that is not what is expected. -/
def failUnexpected {α : Type} (found : Json) (expected : String) : Reader α :=
  failFit ("invalid type: " ++ found.describe ++ ", expected " ++ expected)

/-- Fails at a value that is not what is expected, unless it has a fault of its own. -/
def misfit {α : Type} (expected : String) : Reader α := do
  failUnexpected (← valueBy (pure (.array [])) (pure (.object []))) expected

/-! ## Simple values -/

/-- Reads a string. -/
def text (expected : String := "a string") : Reader String := do
  match ← peek with
  | some '"' =>
    advance
    string
  | _ => misfit expected

/-- Reads a boolean. -/
def boolean : Reader Bool := do
  match ← peek with
  | some 't' =>
    advance
    wordRest "rue".toList
    return true
  | some 'f' =>
    advance
    wordRest "alse".toList
    return false
  | _ => misfit "a boolean"

/-- Reads null, or what the reader reads. -/
def optional {α : Type} (reader : Reader α) : Reader (Option α) := do
  match ← peek with
  | some 'n' =>
    advance
    wordRest "ull".toList
    return none
  | _ => return some (← reader)

/-- Reads null. -/
def unit : Reader Unit := discard (optional (misfit "unit" : Reader Unit))

/-! ## Names -/

/-- The item of this name. -/
def named {α : Type} (all : List α) (name : α → String) (word : String) : Reader α :=
  match all.find? (name · == word) with
  | some a => pure a
  | none =>
    failFit ("unknown variant `" ++ word ++ "`, expected one of " ++
      ", ".intercalate (all.map fun a => "`" ++ name a ++ "`"))

/-- Reads the item of some name: a string, or an object whose one member has the name as its key
and is null. -/
def oneOf {α : Type} (all : List α) (name : α → String) (depth : Nat) : Reader α := do
  match ← peek with
  | some '"' => named all name (← text)
  | some '\x7b' =>
    if depth = 0 then failNext .recursionLimit
    else
      advance
      let a ← named all name (← text "variant identifier")
      colon
      unit
      match ← peek with
      | some '\x7d' =>
        advance
        return a
      | some _ => failHere .expectedValue
      | none => failHere .endInObject
  | some _ => failNext .expectedValue
  | none => failNext .endInValue

/-! ## Structures -/

/-- Reads a structure by the reader of its list or of its object, which are called at the opening
bracket. -/
def structureBy {α : Type} (expected : String) (list object : Reader α) : Reader α := do
  match ← peek with
  | some '[' => list
  | some '\x7b' => object
  | _ => misfit expected

/-- Fails at the key of a member that was there before. The place is behind the object, if it ends
there. -/
def duplicate {α : Type} (key : String) : Reader α := do
  if (← peek) = some '\x7d' then advance
  failFit ("duplicate field `" ++ key ++ "`")

/-- Fails behind an object without a member that has to be there. -/
def missing {α : Type} (key : String) : Reader α := failFit ("missing field `" ++ key ++ "`")

/-- Reads the value of a member that has not been there before. -/
def field {α : Type} (key : String) (before : Option α) (reader : Reader α) :
    Reader (Option α) := do
  if before.isSome then duplicate key
  else
    colon
    return some (← reader)

/-- Passes over a member that is not known. -/
def skipField : Reader Unit := do
  colon
  skip

/-- Reads the next item of a list that stands for a structure, if there is one. -/
def nextField {α : Type} (first : Bool) (reader : Reader α) : Reader (Option α) := do
  if ← anotherItem first then return some (← reader) else return none

/-- Fails behind a list that ends before an item that has to be there. -/
def tooShort {α : Type} (length : Nat) (expected : String) : Reader α := do
  advance
  failFit ("invalid length " ++ toString length ++ ", expected " ++ expected)

/-- Reads the next item of a list that stands for a structure. -/
def requiredField {α : Type} (length : Nat) (expected : String) (reader : Reader α) :
    Reader α := do
  match ← nextField (length == 0) reader with
  | some a => return a
  | none => tooShort length expected

end Reader

end RecordFilter.Json
