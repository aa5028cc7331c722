import RecordFilter.Command.Disk
import RecordFilter.Command.Failure
import RecordFilter.Command.Format
import RecordFilter.Model.Document
import RecordFilter.Schema.Selection

/-!
# Commands

`parse` shows the descriptors of a query, `check` looks for all its errors,
`explain` shows the predicate it compiles to for a model, and `filter` selects
documents. Each yields a text in the wanted format.
-/

namespace RecordFilter.Command

/-- What to select from which documents. -/
structure FilterRequest where
  query : String
  model : String
  data : String
  orderBy : Option String := none
  descending : Bool := false
  skip : Option Nat := none
  take : Option Nat := none
deriving Repr

/-! ## Texts of results -/

/-- The descriptors of a query in a format. -/
def showDescriptors (ds : List (Spanned Descriptor)) : Format → String
  | .text => "\n".intercalate (ds.map fun d => d.value.render)
  | .table =>
    drawTable ["Clause", "Aggregate", "Path", "Operator", "Value"] <|
      ds.mapIdx fun i d =>
        [toString i, (d.value.connective.map Connective.keyword).getD "", d.value.path.text,
          d.value.operator.keyword, d.value.value.render]
  | format =>
    writeJson (format = .pretty) <| .array <| ds.mapIdx fun (i : Nat) d =>
      .object [("clause", .int i),
        ("span", .object [("start", .int d.span.start), ("end", .int d.span.stop)]),
        ("descriptor", d.value.toJson)]

/-- A predicate in a format. -/
def showPredicate (p : Predicate) : Format → String
  | .text => p.render
  | .table =>
    drawTable ["Path", "Operator", "Shape", "Operand"] <|
      p.comparisons.map fun c => [c.path, c.operator.keyword, c.shape.render, c.operand.render]
  | format => writeJson (format = .pretty) p.toJson

/-- A page of documents in a format. -/
def showPage (page : Page Json) : Format → String
  | .text => "\n".intercalate (page.items.map Json.compact)
  | .table => drawDocuments page.items
  | format =>
    writeJson (format = .pretty)
      (.object [("total", .int page.total), ("items", .array page.items)])

/-! ## Commands -/

/-- The format of a flag, or a default where there is no flag. -/
def readFormat (flag : Option String) (default : Format) : Except Failure Format :=
  match flag with
  | none => .ok default
  | some word =>
    let lowered := Text.lower word
    match Format.ofWord? lowered with
    | some format => .ok format
    | none => .error (.unknownFormat lowered)

/-- Parses a query and shows its descriptors. -/
def parse (query : String) (format : Format) : Except Failure String :=
  match parseQuery query with
  | .ok ds => .ok (showDescriptors ds format)
  | .error e => .error (.query e)

/-- Compiles a query for documents. -/
def buildQuery (schema : Schema Json) (query : String) : Except Failure (Compiled Json) :=
  (schema.build {} query).mapError .query

/-- The schema of the model in a text. -/
def readSchema (text : String) : Except ModelError (Schema Json) := do
  (← RecordModel.ofText text).schema

/-- Selects documents as requested. -/
def select (request : FilterRequest) (schema : Schema Json) (documents : List Json) :
    Except Failure (Page Json) := do
  let compiled ← buildQuery schema request.query
  let direction : Direction := if request.descending then .descending else .ascending
  let criteria ← match request.orderBy with
    | some path =>
      match Criterion.byPath schema path direction with
      | .ok c => pure [c]
      | .error e => throw (.ordering path e)
    | none => pure []
  let selection : Selection Json :=
    { filter := some compiled, criteria, skip := request.skip.getD 0, take := request.take }
  return selection.run documents

section

variable {m : Type → Type} [Monad m]

/-- The schema of the model in a file. -/
def loadSchema (disk : Disk m) (path : String) : ExceptT Failure m (Schema Json) := do
  match extension? path with
  | some "json" =>
    match ← disk.read path with
    | .error e => throw (.model path (.file e))
    | .ok text =>
      match readSchema text with
      | .ok schema => return schema
      | .error e => throw (.model path e)
  | other => throw (.model path (.modelFormat other))

/-- The documents in a file. -/
def loadDocuments (disk : Disk m) (path : String) : ExceptT Failure m (List Json) := do
  match extension? path with
  | some "json" | some "ndjson" | some "jsonl" =>
    match ← disk.read path with
    | .error e => throw (.records path (.file e))
    | .ok text =>
      match readDocuments text with
      | .ok documents => return documents
      | .error e => throw (.records path e)
  | other => throw (.records path (.dataFormat other))

/-- All errors of a query. Where there is a model the query is compiled for it, once every clause
parses. -/
def check (disk : Disk m) (query : String) (model : Option String) :
    ExceptT Failure m (List FilterError) := do
  let parsed := parseWith .analysis query
  if parsed.isSuccess then
    match model with
    | none => return []
    | some path =>
      let schema ← loadSchema disk path
      match schema.build { mode := .analysis } query with
      | .ok _ => return []
      | .error e => return e.flatten
  else return parsed.errors

/-- Compiles a query for a model and shows its predicate. -/
def explain (disk : Disk m) (query model : String) (format : Format) :
    ExceptT Failure m String := do
  let schema ← loadSchema disk model
  match buildQuery schema query with
  | .ok compiled => return showPredicate compiled.expression format
  | .error e => throw e

/-- Selects documents and shows the page, which is returned too. -/
def filter (disk : Disk m) (request : FilterRequest) (format : Format) :
    ExceptT Failure m (String × Page Json) := do
  let schema ← loadSchema disk request.model
  let documents ← loadDocuments disk request.data
  match select request schema documents with
  | .ok page => return (showPage page format, page)
  | .error e => throw e

/-- Puts a result into a file, with a line feed at its end. -/
def save (disk : Disk m) (path content : String) : ExceptT Failure m Unit := do
  match ← disk.write path (content ++ "\n") with
  | .ok () => return ()
  | .error e => throw (.output path e)

end

end RecordFilter.Command
