import RecordFilter.Json.Value
import RecordFilter.Text.Lower
import RecordFilter.Text.Pieces
import RecordFilter.Text.Width

/-!
# Output formats

What commands print: JSON on one line or several, text, or a table drawn with
lines, whose columns are as wide as their widest cell.
-/

namespace RecordFilter.Command

inductive Format where
  | json
  | pretty
  | table
  | text
deriving DecidableEq, Repr

namespace Format

/-- The format of a word in lower case. -/
def ofWord? : String → Option Format
  | "json" => some json
  | "pretty" | "json-pretty" => some pretty
  | "table" => some table
  | "text" => some text
  | _ => none

end Format

/-- Writes a value with sorted keys, on several lines if it is to be pretty. -/
def writeJson (isPretty : Bool) (v : Json) : String :=
  if isPretty then v.sortKeys.pretty else v.sortKeys.compact

/-! ## Tables -/

/-- The lines of a cell. -/
def cellLines (cell : String) : List (List Char) := Text.pieces '\n' cell.toList

/-- Columns that a cell takes on a terminal. -/
def cellWidth (cell : String) : Nat := ((cellLines cell).map Text.width).foldl max 0

/-- The widths of the columns of some rows. -/
def columnWidths (rows : List (List String)) : List Nat :=
  rows.foldl (fun widths row => widths.zipWith max (row.map cellWidth))
    (((rows.head?).getD []).map fun _ => 0)

/-- A horizontal line with these joints. -/
def rule (left joint right : String) (widths : List Nat) : String :=
  let lines := widths.map fun w => String.ofList (List.replicate (w + 2) '─')
  left ++ joint.intercalate lines ++ right

/-- A line of a cell, filled up to a width. -/
def fill (width : Nat) (line : List Char) : String :=
  String.ofList (line ++ List.replicate (width - Text.width line) ' ')

/-- One row, as many lines as its highest cell has. -/
def drawRow (widths : List Nat) (row : List String) : List String :=
  let cells := row.map cellLines
  let height := (cells.map List.length).foldl max 1
  (List.range height).map fun i =>
    "│ " ++ " │ ".intercalate (widths.zipWith (fun w cell => fill w ((cell[i]?).getD [])) cells) ++
      " │"

/-- A table of a heading and rows. -/
def drawTable (heading : List String) (rows : List (List String)) : String :=
  let widths := columnWidths (heading :: rows)
  let drawn := (heading :: rows).map fun row => "\n".intercalate (drawRow widths row)
  "\n".intercalate
    [rule "┌" "┬" "┐" widths,
      ("\n" ++ rule "├" "┼" "┤" widths ++ "\n").intercalate drawn,
      rule "└" "┴" "┘" widths]

mutual

/-- A value in a cell. An object is only counted. -/
def cellText : Json → String
  | .string s => s
  | .number n => n.text
  | .bool b => if b then "true" else "false"
  | .null => "null"
  | .array items => "[" ++ ", ".intercalate (cellTexts items) ++ "]"
  | .object members => "\x7b\x7d with " ++ toString members.length ++ " fields"

def cellTexts : List Json → List String
  | [] => []
  | v :: vs => cellText v :: cellTexts vs

end

/-- The rows of a document: one for each of its members, or one in all if it is no object. -/
def documentRows (number : Nat) : Json → List (List String)
  | .object members => members.map fun (key, v) => [toString number, key, cellText v]
  | v => [[toString number, "", cellText v]]

/-- A table of documents, numbered from 1. -/
def drawDocuments (documents : List Json) : String :=
  if documents.isEmpty then "(no records)"
  else
    drawTable ["#", "Field", "Value"]
      (documents.mapIdx fun i v => documentRows (i + 1) v).flatten

end RecordFilter.Command
