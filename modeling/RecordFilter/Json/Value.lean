import RecordFilter.Number.Shortest

/-!
# JSON values and their text

Objects keep their members in the order in which they are to be written. A
value built from a structure has the order of its fields; a value read from a
text has its members sorted by key, see `sortKeys`.
-/

namespace RecordFilter

/-- A JSON number: whole numbers of 64 bits are exact, all others are floating point. -/
inductive JsonNumber where
  | int (n : Int)
  | float (x : Float)
deriving Repr, Inhabited

/-- The number as it is written. -/
def JsonNumber.text : JsonNumber → String
  | int n => toString n
  | float x => Number.FloatStyle.json.double x

inductive Json where
  | null
  | bool (b : Bool)
  | number (n : JsonNumber)
  | string (s : String)
  | array (items : List Json)
  | object (members : List (String × Json))
deriving Repr, Inhabited

namespace Json

def int (n : Int) : Json := number (.int n)

/-- A string or null. -/
def ofString? : Option String → Json
  | some s => string s
  | none => null

def nat (n : Nat) : Json := int n

/-- A value or null. -/
def ofOption {α : Type} (write : α → Json) : Option α → Json
  | some a => write a
  | none => null

def ofTexts (ss : List String) : Json := array (ss.map string)

def isNull : Json → Bool
  | null => true
  | _ => false

def text? : Json → Option String
  | string s => some s
  | _ => none

def int? : Json → Option Int
  | number (.int n) => some n
  | _ => none

def nat? (v : Json) : Option Nat := v.int?.bind fun n => if n < 0 then none else some n.toNat

/-- The items of a list; any other value has none. -/
def items : Json → List Json
  | array items => items
  | _ => []

/-- The value of a member. -/
def get? (key : String) : Json → Option Json
  | object members => members.lookup key
  | _ => none

/-- Sets a member in a list sorted by key. -/
def insert (key : String) (value : Json) : List (String × Json) → List (String × Json)
  | [] => [(key, value)]
  | (k, v) :: rest =>
    if key = k then (key, value) :: rest
    else if key < k then (key, value) :: (k, v) :: rest
    else (k, v) :: insert key value rest

mutual

/-- Sorts the members of every object by key. -/
def sortKeys : Json → Json
  | array items => array (sortKeysList items)
  | object members => object (sortMembers members)
  | v => v

def sortKeysList : List Json → List Json
  | [] => []
  | v :: vs => sortKeys v :: sortKeysList vs

/-- A later member replaces an earlier one of the same key. -/
def sortMembers : List (String × Json) → List (String × Json)
  | [] => []
  | (k, v) :: rest =>
    let sorted := sortMembers rest
    if (sorted.lookup k).isSome then sorted else insert k (sortKeys v) sorted

end

/-! ## Writing -/

def hexDigits (n : Nat) : List Char :=
  let ds := Nat.toDigits 16 n
  List.replicate (4 - ds.length) '0' ++ ds

/-- One character inside a string. -/
def escapeChar : Char → List Char
  | '"' => ['\\', '"']
  | '\\' => ['\\', '\\']
  | '\n' => ['\\', 'n']
  | '\r' => ['\\', 'r']
  | '\t' => ['\\', 't']
  | '\x08' => ['\\', 'b']
  | '\x0c' => ['\\', 'f']
  | c => if c.toNat < 0x20 then '\\' :: 'u' :: hexDigits c.toNat else [c]

def quote (s : String) : String :=
  "\"" ++ String.ofList (s.toList.flatMap escapeChar) ++ "\""

mutual

/-- Writes a value without any blanks. -/
def compact : Json → String
  | null => "null"
  | bool b => if b then "true" else "false"
  | number n => n.text
  | string s => quote s
  | array items => "[" ++ ",".intercalate (compactItems items) ++ "]"
  | object members => "\x7b" ++ ",".intercalate (compactMembers members) ++ "\x7d"

def compactItems : List Json → List String
  | [] => []
  | v :: vs => compact v :: compactItems vs

def compactMembers : List (String × Json) → List String
  | [] => []
  | (k, v) :: rest => (quote k ++ ":" ++ compact v) :: compactMembers rest

end

/-- Puts items on lines of their own, one level deeper than the brackets. -/
def block (opening closing : String) (level : Nat) (items : List String) : String :=
  let margin (n : Nat) : String := String.ofList (List.replicate (2 * n) ' ')
  if items.isEmpty then opening ++ closing
  else
    opening ++ "\n" ++ margin (level + 1) ++
      (",\n" ++ margin (level + 1)).intercalate items ++ "\n" ++ margin level ++ closing

mutual

/-- Writes a value over several lines, indented by two blanks a level. -/
def prettyAt (level : Nat) : Json → String
  | array items => block "[" "]" level (prettyItems (level + 1) items)
  | object members => block "\x7b" "\x7d" level (prettyMembers (level + 1) members)
  | null => "null"
  | bool b => if b then "true" else "false"
  | number n => n.text
  | string s => quote s

def prettyItems (level : Nat) : List Json → List String
  | [] => []
  | v :: vs => prettyAt level v :: prettyItems level vs

def prettyMembers (level : Nat) : List (String × Json) → List String
  | [] => []
  | (k, v) :: rest => (quote k ++ ": " ++ prettyAt level v) :: prettyMembers level rest

end

def pretty (v : Json) : String := prettyAt 0 v

end Json

end RecordFilter
