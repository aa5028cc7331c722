import RecordFilter.Json.Number

/-!
# Reading values

Lists and objects are read item by item with the reader of an item, so the same
rules serve trees of any values and structures of known fields. Trees keep the
members of an object as they stand in the text; `read` sorts them by key, and a
later member replaces an earlier one of the same key.
-/

namespace RecordFilter.Json

namespace Reader

/-! ## Lists -/

/-- Goes to the next item of a list, if there is one. -/
def anotherItem (first : Bool) : Reader Bool := do
  match ← peek with
  | some ']' => return false
  | some ',' =>
    if first then return true
    else
      advance
      match ← peek with
      | some ']' => failNext .trailingComma
      | some _ => return true
      | none => failNext .endInValue
  | some _ => if first then return true else failNext .expectedListEnd
  | none => failNext .endInList

/-- Reads the closing bracket of a list whose items have been read. -/
def endList : Reader Unit := do
  match ← peek with
  | some ']' => advance
  | some ',' =>
    advance
    match ← peek with
    | some ']' => failNext .trailingComma
    | _ => failNext .trailingCharacters
  | some _ => failNext .trailingCharacters
  | none => failNext .endInList

/-- Reads on in a list, of which some items have been read, the last one first. -/
def itemsFrom {α : Type} (item : Reader α) : List Char → List α → Reader (List α)
  | [], _ => failNext .endInList
  | _ :: bound, found => do
    if ← anotherItem found.isEmpty then itemsFrom item bound ((← item) :: found)
    else return found.reverse

/-- Reads the items of a list behind its opening bracket. -/
def items {α : Type} (item : Reader α) : Reader (List α) := do
  let found ← itemsFrom item (← get) []
  endList
  return found

/-! ## Objects -/

/-- Goes to the key of the next member of an object, if there is one. -/
def anotherKey (first : Bool) : Reader Bool := do
  match ← peek with
  | some '\x7d' => return false
  | some ',' =>
    if first then failNext .keyMustBeString
    else
      advance
      match ← peek with
      | some '"' => return true
      | some '\x7d' => failNext .trailingComma
      | some _ => failNext .keyMustBeString
      | none => failNext .endInValue
  | some c =>
    if !first then failNext .expectedObjectEnd
    else if c = '"' then return true
    else failNext .keyMustBeString
  | none => failNext .endInObject

/-- Reads on in an object. The reader of a member is given what the members before it came to, and
the key; it reads the colon and the value. -/
def membersFrom {σ : Type} (member : σ → String → Reader σ) :
    List Char → Bool → σ → Reader σ
  | [], _, _ => failNext .endInObject
  | _ :: bound, first, state => do
    if ← anotherKey first then
      advance
      let key ← string
      membersFrom member bound false (← member state key)
    else return state

/-- Reads the members of an object behind its opening brace. -/
def members {σ : Type} (member : σ → String → Reader σ) (state : σ) : Reader σ := do
  let state ← membersFrom member (← get) true state
  advance
  return state

/-! ## Values -/

/-- Reads a value. Lists and objects are left to their readers, which are called at the opening
bracket. -/
def valueBy (list object : Reader Json) : Reader Json := do
  match ← peek with
  | some '[' => list
  | some '\x7b' => object
  | some '"' =>
    advance
    return .string (← string)
  | some 'n' =>
    advance
    wordRest "ull".toList
    return .null
  | some 't' =>
    advance
    wordRest "rue".toList
    return .bool true
  | some 'f' =>
    advance
    wordRest "alse".toList
    return .bool false
  | some '-' =>
    advance
    return .number (← number true)
  | some c => if c.isDigit then return .number (← number false) else failNext .expectedValue
  | none => failNext .endInValue

/-- Reads a value that is nested at most so deep. -/
def value : Nat → Reader Json
  | 0 => valueBy (failNext .recursionLimit) (failNext .recursionLimit)
  | depth + 1 =>
    valueBy
      (do
        advance
        return .array (← items (value depth)))
      (do
        advance
        let found ← members
          (fun found key => do
            colon
            return (key, ← value depth) :: found) []
        return .object found.reverse)

/-- Reads the end of a text. -/
def endText : Reader Unit := do
  match ← peek with
  | some _ => failNext .trailingCharacters
  | none => pure ()

end Reader

/-- How deep the values of a text may be nested. -/
def maxDepth : Nat := 127

/-- Reads a text that holds one value and nothing behind it. -/
def readWith {α : Type} (reader : Reader α) (text : String) : Except ReadError α :=
  let s := text.toList
  let whole : Reader α := do
    let a ← reader
    Reader.endText
    return a
  match whole s with
  | .ok (a, _) => .ok a
  | .error f => .error (.ofFault s f)

/-- Reads a text that holds one value of any form. -/
def read (text : String) : Except ReadError Json :=
  readWith (sortKeys <$> Reader.value maxDepth) text

end RecordFilter.Json
