import RecordFilter.Json.Decode
import RecordFilter.Model.Error
import RecordFilter.Scalar.Kind
import RecordFilter.Table

/-!
# Record models

A model describes the properties of JSON documents: their paths, the names of
their kinds, and how a document holds their values. It is itself written in
JSON. A model is valid if its paths are paths and its kinds have known names.
-/

namespace RecordFilter

open Json (Reader)

/-- How a property holds values of its kind. -/
inductive Form where
  | scalar
  | nullable
  | array
  | collection
  | nullableArray
  | nullableCollection
deriving DecidableEq, Repr, Inhabited

namespace Form

def all : List Form := [scalar, nullable, array, collection, nullableArray, nullableCollection]

/-- The name used in models. -/
def name : Form → String
  | scalar => "scalar"
  | nullable => "nullable"
  | array => "array"
  | collection => "collection"
  | nullableArray => "nullable_array"
  | nullableCollection => "nullable_collection"

def ofName? (name : String) : Option Form := all.find? (·.name == name)

/-- The shape of a property that holds a kind in this form. -/
def shape (k : Kind) : Form → Shape
  | scalar => .scalar k
  | nullable => .nullable k
  | array => .array k
  | collection => .collection k
  | nullableArray => .nullableArray k
  | nullableCollection => .nullableCollection k

theorem ofName?_name (f : Form) : ofName? f.name = some f := by cases f <;> decide

end Form

structure PropertySpec where
  typeName : String
  form : Form := .scalar
deriving DecidableEq, Repr, Inhabited

namespace PropertySpec

/-- The shape that is meant, if the kind is known. -/
def shape? (p : PropertySpec) : Option Shape := (Kind.ofName? p.typeName).map (p.form.shape ·)

def toJson (p : PropertySpec) : Json :=
  .object [("type", .string p.typeName), ("shape", .string p.form.name)]

/-- The fields of a property read so far. -/
structure Parts where
  typeName : Option String := none
  form : Option Form := none

/-- What a property is called in a message. -/
def expectation : String := "struct PropertySpec"

def readForm : Reader Form := Reader.oneOf Form.all Form.name Json.maxDepth

def readMember (parts : Parts) (key : String) : Reader Parts := do
  match key with
  | "type" => return { parts with typeName := ← Reader.field key parts.typeName Reader.text }
  | "shape" => return { parts with form := ← Reader.field key parts.form readForm }
  | _ =>
    Reader.skipField
    return parts

/-- Reads a property: an object, or a list of its fields. -/
def reader : Reader PropertySpec :=
  Reader.structureBy expectation
    (do
      Reader.advance
      let typeName ← Reader.requiredField 0 (expectation ++ " with 2 elements") Reader.text
      let form ← Reader.nextField false readForm
      Reader.endList
      return ⟨typeName, form.getD .scalar⟩)
    (do
      Reader.advance
      let parts ← Reader.members readMember {}
      match parts.typeName with
      | some typeName => return ⟨typeName, parts.form.getD .scalar⟩
      | none => Reader.missing "type")

end PropertySpec

structure RecordModel where
  name : String
  description : Option String := none
  properties : Table PropertySpec
deriving DecidableEq

namespace RecordModel

def toJson (m : RecordModel) : Json :=
  .object <|
    ("name", .string m.name) ::
    (match m.description with
      | some text => [("description", .string text)]
      | none => []) ++
    [("properties", .object (m.properties.entries.map fun (path, p) => (path, p.toJson)))]

/-! ## Reading -/

/-- The fields of a model read so far. -/
structure Parts where
  name : Option String := none
  description : Option (Option String) := none
  properties : Option (Table PropertySpec) := none

/-- What a model is called in a message. -/
def expectation : String := "struct RecordModel"

/-- Reads the table of properties. -/
def readProperties : Reader (Table PropertySpec) := do
  match ← Reader.peek with
  | some '\x7b' =>
    Reader.advance
    Reader.members
      (fun table path => do
        Reader.colon
        return table.put path (← PropertySpec.reader)) Table.empty
  | _ => Reader.misfit "a map"

def readMember (parts : Parts) (key : String) : Reader Parts := do
  match key with
  | "name" => return { parts with name := ← Reader.field key parts.name Reader.text }
  | "description" =>
    return { parts with
      description := ← Reader.field key parts.description (Reader.optional Reader.text) }
  | "properties" =>
    return { parts with properties := ← Reader.field key parts.properties readProperties }
  | _ =>
    Reader.skipField
    return parts

/-- Reads a model: an object, or a list of its fields. -/
def reader : Reader RecordModel :=
  Reader.structureBy expectation
    (do
      Reader.advance
      let expected := expectation ++ " with 3 elements"
      let name ← Reader.requiredField 0 expected Reader.text
      let description ← Reader.nextField false (Reader.optional Reader.text)
      let properties ← Reader.requiredField 2 expected readProperties
      Reader.endList
      return ⟨name, description.getD none, properties⟩)
    (do
      Reader.advance
      let parts ← Reader.members readMember {}
      match parts.name, parts.properties with
      | none, _ => Reader.missing "name"
      | _, none => Reader.missing "properties"
      | some name, some properties => return ⟨name, parts.description.getD none, properties⟩)

/-! ## Validity -/

/-- Checks the path and the kind of a property. -/
def checkProperty (path : String) (p : PropertySpec) : Except ModelError Unit :=
  match Path.ofText path with
  | .error e => .error (.invalidPath path e)
  | .ok _ => if p.shape?.isSome then .ok () else .error (.unknownType path p.typeName)

/-- Checks all properties in order. -/
def validate (m : RecordModel) : Except ModelError Unit :=
  m.properties.entries.forM fun (path, p) => checkProperty path p

/-- Reads a valid model from a text. -/
def ofText (text : String) : Except ModelError RecordModel := do
  let m ← (Json.readWith reader text).mapError .json
  m.validate
  return m

end RecordModel

end RecordFilter
