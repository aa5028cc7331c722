import RecordFilter.Json.Value
import RecordFilter.Number.Shortest
import RecordFilter.Text.Quoted

/-!
# Raw values

The value of a condition as it was written. Nothing is known yet about the
property it will be compared with, so a number is kept as its lexeme.
-/

namespace RecordFilter

inductive Raw where
  | null
  | boolean (b : Bool)
  | number (lexeme : String)
  | text (s : String)
  | list (items : List Raw)
deriving Repr, Inhabited

namespace Raw

mutual

/-- Equality of raw values is equality of what was written. -/
def decEq : (a b : Raw) → Decidable (a = b)
  | null, null => isTrue rfl
  | boolean a, boolean b => decidable_of_iff (a = b) (by simp)
  | number a, number b => decidable_of_iff (a = b) (by simp)
  | text a, text b => decidable_of_iff (a = b) (by simp)
  | list a, list b =>
    match decEqList a b with
    | isTrue h => isTrue (by rw [h])
    | isFalse h => isFalse (by simpa using h)
  | null, boolean _ | null, number _ | null, text _ | null, list _ => isFalse (by simp)
  | boolean _, null | boolean _, number _ | boolean _, text _ | boolean _, list _ =>
    isFalse (by simp)
  | number _, null | number _, boolean _ | number _, text _ | number _, list _ => isFalse (by simp)
  | text _, null | text _, boolean _ | text _, number _ | text _, list _ => isFalse (by simp)
  | list _, null | list _, boolean _ | list _, number _ | list _, text _ => isFalse (by simp)

def decEqList : (a b : List Raw) → Decidable (a = b)
  | [], [] => isTrue rfl
  | x :: a, y :: b =>
    match decEq x y, decEqList a b with
    | isTrue h, isTrue k => isTrue (by rw [h, k])
    | isFalse h, _ => isFalse (by simp [h])
    | _, isFalse k => isFalse (by simp [k])
  | [], _ :: _ | _ :: _, [] => isFalse (by simp)

end

instance : DecidableEq Raw := decEq

def isList : Raw → Bool
  | list _ => true
  | _ => false

def isNull : Raw → Bool
  | null => true
  | _ => false

/-- The items of a list; any other value is its own only item. -/
def elements : Raw → List Raw
  | list items => items
  | v => [v]

/-- The value, out of its list if it stands there alone; `none` for any other list. -/
def single? : Raw → Option Raw
  | list [v] => some v
  | list _ => none
  | v => some v

def kindName : Raw → String
  | null => "null"
  | boolean _ => "boolean"
  | number _ => "number"
  | text _ => "text"
  | list _ => "list"

mutual

/-- The value as it is written in a query. -/
def render : Raw → String
  | null => "null"
  | boolean b => if b then "true" else "false"
  | number lexeme => lexeme
  | text s => String.ofList (Text.Quoted.encode Text.Quoted.escapeControls s.toList)
  | list items => "[" ++ ", ".intercalate (renderAll items) ++ "]"

def renderAll : List Raw → List String
  | [] => []
  | v :: vs => render v :: renderAll vs

end

mutual

/-- The JSON form: the kind of the value, and its content unless it is null. -/
def toJson : Raw → Json
  | null => .object [("kind", .string "null")]
  | boolean b => .object [("kind", .string "boolean"), ("value", .bool b)]
  | number lexeme => .object [("kind", .string "number"), ("value", .string lexeme)]
  | text s => .object [("kind", .string "text"), ("value", .string s)]
  | list items => .object [("kind", .string "sequence"), ("value", .array (toJsonAll items))]

def toJsonAll : List Raw → List Json
  | [] => []
  | v :: vs => toJson v :: toJsonAll vs

end

end Raw

/-- Types whose values can be put into a descriptor as they are. -/
class ToRaw (α : Type) where
  toRaw : α → Raw

export ToRaw (toRaw)

instance : ToRaw Raw := ⟨id⟩
instance : ToRaw Bool := ⟨.boolean⟩
instance : ToRaw String := ⟨.text⟩
instance : ToRaw Int8 := ⟨fun n => .number (toString n.toInt)⟩
instance : ToRaw Int16 := ⟨fun n => .number (toString n.toInt)⟩
instance : ToRaw Int32 := ⟨fun n => .number (toString n.toInt)⟩
instance : ToRaw Int64 := ⟨fun n => .number (toString n.toInt)⟩
instance : ToRaw UInt8 := ⟨fun n => .number (toString n.toNat)⟩
instance : ToRaw UInt16 := ⟨fun n => .number (toString n.toNat)⟩
instance : ToRaw UInt32 := ⟨fun n => .number (toString n.toNat)⟩
instance : ToRaw UInt64 := ⟨fun n => .number (toString n.toNat)⟩
instance : ToRaw Float32 := ⟨fun x => .number (Number.FloatStyle.lexeme.single x)⟩
instance : ToRaw Float := ⟨fun x => .number (Number.FloatStyle.lexeme.double x)⟩

instance {α : Type} [ToRaw α] : ToRaw (List α) := ⟨fun xs => .list (xs.map toRaw)⟩

instance {α : Type} [ToRaw α] : ToRaw (Option α) := ⟨fun x => (x.map toRaw).getD .null⟩

end RecordFilter
