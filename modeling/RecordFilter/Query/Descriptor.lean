import RecordFilter.Json.Decode
import RecordFilter.Query.Operator
import RecordFilter.Query.Path
import RecordFilter.Query.Raw

/-!
# Descriptors

A descriptor is one condition of a query: a path, an operator, a raw value, and
how the condition combines with the one before it. It has a text, which is a
clause of the query language, and a JSON form.
-/

namespace RecordFilter

open Json (Reader)

structure Descriptor where
  connective : Option Connective
  operator : Operator
  path : Path
  value : Raw
deriving DecidableEq, Repr, Inhabited

namespace Descriptor

/-- A descriptor of a path that is still to be read. -/
def ofParts {α : Type} [ToRaw α] (connective : Option Connective) (operator : Operator)
    (path : String) (value : α) : Except FilterError Descriptor :=
  match Path.ofText path with
  | .ok p => .ok ⟨connective, operator, p, toRaw value⟩
  | .error e => .error e.toError

/-- The descriptor as a clause. -/
def render (d : Descriptor) : String :=
  (match d.connective with
    | some c => c.keyword ++ ":"
    | none => "") ++
    d.path.text ++ ":" ++ d.operator.keyword ++ ":" ++ d.value.render

def toJson (d : Descriptor) : Json :=
  .object <|
    (match d.connective with
      | some c => [("aggregate", .string c.keyword)]
      | none => []) ++
    [("operator", .string d.operator.keyword), ("property_path", .string d.path.text),
      ("value", d.value.toJson)]

end Descriptor

/-! ## Reading raw values -/

namespace Raw

/-- The kinds of raw values as JSON names them. -/
inductive Tag where
  | null
  | boolean
  | number
  | text
  | sequence
deriving DecidableEq, Repr

namespace Tag

def all : List Tag := [null, boolean, number, text, sequence]

def name : Tag → String
  | null => "null"
  | boolean => "boolean"
  | number => "number"
  | text => "text"
  | sequence => "sequence"

/-- The kind that a tree names. In a list the number of the kind will do, in an object a member
with the name as its key. -/
def ofJson? (inList : Bool) : Json → Option Tag
  | .string word => ofName? word
  | .number (.int n) => if inList && 0 ≤ n then all[n.toNat]? else none
  | .object [(word, content)] =>
    match inList, content with
    | false, .null | false, .object [] => ofName? word
    | _, _ => none
  | _ => none
where
  ofName? (word : String) : Option Tag := all.find? (·.name == word)

end Tag

/-- The raw value of a kind whose content is this tree. -/
def ofContent? (item : Json → Option Raw) : Tag → Json → Option Raw
  | .null, .null => some null
  | .boolean, .bool b => some (boolean b)
  | .number, .string s => some (number s)
  | .text, .string s => some (text s)
  | .sequence, .array items => (items.mapM item).map list
  | _, _ => none

/-- The raw value of a tree nested at most so deep: an object with a kind and a content, or a list
of the two. -/
def ofJson? : Nat → Json → Option Raw
  | depth + 1, .array [kind, content] => do
    ofContent? (ofJson? depth) (← Tag.ofJson? true kind) content
  | depth + 1, .object members => do
    let named (key : String) : List Json :=
      members.filterMap fun (k, v) => if k = key then some v else none
    match named "kind", named "value" with
    | [kind], [content] => ofContent? (ofJson? depth) (← Tag.ofJson? false kind) content
    | [kind], [] => if (← Tag.ofJson? false kind) = .null then some null else none
    | _, _ => none
  | _, _ => none

/-- Reads the content of a value of this kind. -/
def readContent (item : Reader Raw) (depth : Nat) : Tag → Reader Raw
  | .null => do
    let refused : Reader Json :=
      if depth = 0 then Reader.failNext .recursionLimit else Reader.misfit "unit variant"
    match ← Reader.valueBy refused refused with
    | .null => return null
    | v => Reader.failUnexpected v "unit variant"
  | .boolean => do return boolean (← Reader.boolean)
  | .number => do return number (← Reader.text)
  | .text => do return text (← Reader.text)
  | .sequence => do
    match ← Reader.peek with
    | some '[' =>
      if depth = 0 then Reader.failNext .recursionLimit
      else
        Reader.advance
        return list (← Reader.items item)
    | _ => Reader.misfit "a sequence"

/-- How far an object with a kind and a content has been read. -/
inductive Partial where
  | start
  | kind (tag : Tag)
  | content (tree : Json)
  | whole (value : Raw)

/-- Reads on in an object with a kind and a content. The content may come first; then it is read
as a tree of its own. -/
def readMember (item : Reader Raw) (depth : Nat) (state : Partial) (key : String) :
    Reader Partial := do
  match key, state with
  | "kind", .start =>
    Reader.colon
    return .kind (← Reader.oneOf Tag.all Tag.name depth)
  | "kind", .content tree =>
    Reader.colon
    let tag ← Reader.oneOf Tag.all Tag.name depth
    match ofContent? (ofJson? Json.maxDepth) tag tree with
    | some value => return .whole value
    | none => Reader.failFit "the content does not fit its kind"
  | "value", .start =>
    Reader.colon
    return .content (← Reader.value depth)
  | "value", .kind tag =>
    Reader.colon
    return .whole (← readContent item depth tag)
  | "kind", _ | "value", _ => Reader.duplicate key
  | _, _ =>
    Reader.skipField
    return state

/-- The value of an object that has been read to its end. -/
def finish : Partial → Reader Raw
  | .whole value => pure value
  | .kind .null => pure null
  | .kind _ => Reader.missing "value"
  | _ => Reader.missing "kind"

/-- What a raw value is called in a message. -/
def expectation : String := "a kind and a content"

/-- Reads a raw value nested at most so deep: an object with a kind and a content, or a list of the
two. -/
def reader : Nat → Reader Raw
  | 0 =>
    Reader.structureBy expectation (Reader.failNext .recursionLimit)
      (Reader.failNext .recursionLimit)
  | depth + 1 =>
    let item : Reader Raw :=
      match depth with
      | 0 => Reader.failNext .recursionLimit
      | d + 1 => reader d
    Reader.structureBy expectation
      (do
        Reader.advance
        let tag ← Reader.requiredField 0 expectation do
          Reader.named Tag.all Tag.name (← Reader.text "variant identifier")
        let value ← Reader.requiredField 1 expectation (readContent item depth tag)
        Reader.endList
        return value)
      (do
        Reader.advance
        finish (← Reader.members (readMember item depth) .start))

end Raw

/-! ## Reading descriptors -/

namespace Descriptor

/-- The fields of a descriptor read so far. -/
structure Parts where
  connective : Option (Option Connective) := none
  operator : Option Operator := none
  path : Option Path := none
  value : Option Raw := none

/-- How deep the fields of a descriptor may be nested. -/
def depth : Nat := Json.maxDepth - 1

def readConnective : Reader (Option Connective) :=
  Reader.optional (Reader.oneOf [Connective.and, .or] Connective.keyword depth)

def readOperator : Reader Operator := Reader.oneOf Operator.all Operator.keyword depth

def readPath : Reader Path := do
  match Path.ofText (← Reader.text) with
  | .ok p => return p
  | .error e => Reader.failFit e.toError.message

def readMember (parts : Parts) (key : String) : Reader Parts := do
  match key with
  | "aggregate" =>
    return { parts with connective := ← Reader.field key parts.connective readConnective }
  | "operator" => return { parts with operator := ← Reader.field key parts.operator readOperator }
  | "property_path" => return { parts with path := ← Reader.field key parts.path readPath }
  | "value" => return { parts with value := ← Reader.field key parts.value (Raw.reader depth) }
  | _ =>
    Reader.skipField
    return parts

/-- The descriptor of an object that has been read to its end. -/
def Parts.finish (parts : Parts) : Reader Descriptor :=
  match parts.operator, parts.path, parts.value with
  | none, _, _ => Reader.missing "operator"
  | _, none, _ => Reader.missing "property_path"
  | _, _, none => Reader.missing "value"
  | some operator, some path, some value =>
    pure ⟨parts.connective.getD none, operator, path, value⟩

/-- What a descriptor is called in a message. -/
def expectation : String := "a descriptor"

/-- Reads a descriptor: an object, or a list of its four fields in the order of their names. -/
def reader : Reader Descriptor :=
  Reader.structureBy expectation
    (do
      Reader.advance
      let connective ← Reader.nextField true readConnective
      let operator ← Reader.requiredField 1 expectation readOperator
      let path ← Reader.requiredField 2 expectation readPath
      let value ← Reader.requiredField 3 expectation (Raw.reader depth)
      Reader.endList
      return ⟨connective.getD none, operator, path, value⟩)
    (do
      Reader.advance
      let parts ← Reader.members readMember {}
      parts.finish)

/-- Reads the JSON form of a descriptor. -/
def ofJsonText (text : String) : Except Json.ReadError Descriptor := Json.readWith reader text

end Descriptor

end RecordFilter
