import RecordFilter.Model.Basic
import RecordFilter.Scalar.Coercion
import RecordFilter.Schema.Basic

/-!
# Documents as records

The schema of a model reads its properties from JSON documents: it follows the
segments of a path through objects, and converts what it finds there. What is
missing or does not convert reads as null; one bad item spoils its whole list.
-/

namespace RecordFilter

namespace Json

/-- The value reached by following some keys through objects. -/
def follow? : List String → Json → Option Json
  | [], node => some node
  | key :: keys, node => (node.get? key).bind (follow? keys)

/-- A boolean, number or string as it would be written in a query. -/
def toRaw? : Json → Option Raw
  | bool b => some (.boolean b)
  | number n => some (.number n.text)
  | string s => some (.text s)
  | _ => none

/-- The scalar of a kind that a value stands for. -/
def readScalar? (k : Kind) (node : Json) : Option Scalar :=
  node.toRaw?.bind fun raw => (Coercion.convert raw k).toOption

/-- An item of a list, which may be null if the shape says so. -/
def readItem? (k : Kind) (nullable : Bool) : Json → Option (Option Scalar)
  | null => if nullable then some none else none
  | node => (readScalar? k node).map some

/-- The datum of a shape that a value stands for, or null. -/
def readDatum (shape : Shape) (node : Json) : Datum :=
  if shape.isSequence then
    match node with
    | array items =>
      ((items.mapM (readItem? shape.element shape.admitsNull)).map .ofOptions).getD .null
    | _ => .null
  else ((readScalar? shape.element node).map .single).getD .null

end Json

namespace RecordModel

/-- The segments of a path in a model. -/
def segments (path : String) : List String := Path.trimmedPieces path.toList

/-- What a property of a shape reads from a document. -/
def read (path : String) (shape : Shape) (document : Json) : Datum :=
  ((document.follow? (segments path)).map (Json.readDatum shape)).getD .null

/-- The registration of a property. -/
def register (path : String) (p : PropertySpec) : Except ModelError (Registration Json) :=
  match p.shape? with
  | some shape => .ok (.computed path shape (read path shape))
  | none => .error (.unknownType path p.typeName)

/-- The schema of the documents. -/
def schema (m : RecordModel) : Except ModelError (Schema Json) := do
  let registrations ← m.properties.entries.mapM fun (path, p) => register path p
  return .ofRegistrations m.name registrations

end RecordModel

/-! ## Collections of documents -/

/-- Reads a list of documents. -/
def readList : Json.Reader (List Json) := do
  match ← Json.Reader.peek with
  | some '[' =>
    Json.Reader.advance
    let documents ← Json.Reader.items (Json.Reader.value (Json.maxDepth - 1))
    return documents.map Json.sortKeys
  | _ => Json.Reader.misfit "a sequence"

/-- Reads documents from lines, which are numbered from the given number on. Blank lines count, but
hold no document. -/
def readLines (number : Nat) : List (List Char) → Except ModelError (List Json)
  | [] => .ok []
  | line :: lines =>
    if (Text.trim line).isEmpty then readLines (number + 1) lines
    else do
      let v ← (Json.read (String.ofList line)).mapError (.invalidRecord number)
      let vs ← readLines (number + 1) lines
      return v :: vs

/-- Reads documents from a text: a list, if it starts with a bracket, or else one a line. -/
def readDocuments (text : String) : Except ModelError (List Json) :=
  if (Text.trimLeft text.toList).head? = some '[' then
    (Json.readWith readList text).mapError .json
  else readLines 1 (Text.lines text.toList)

end RecordFilter
