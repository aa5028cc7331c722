import RecordFilter.Outcome
import RecordFilter.Query.Clause
import RecordFilter.Query.Split

/-!
# Parsing queries

Every clause of a query is either a descriptor or an error. Fast parsing stops
at the first error; analysis goes through all clauses.
-/

namespace RecordFilter

open Text (Span Location)

/-- Something read from a query, with its span. -/
structure Spanned (α : Type) where
  value : α
  span : Span
deriving DecidableEq, Repr

namespace Clause

/-- The error of a clause, placed in the query. -/
def Fault.toError (f : Fault) (query : List Char) (index : Nat) (clause : ClauseText) :
    FilterError :=
  .malformed f.cause.code index (String.ofList clause.text) f.cause.message
    (some (.ofSpan ((f.span clause.text).shift clause.span.start) query))

/-- The outcome of a clause of a query. -/
def outcome (query : List Char) (index : Nat) (clause : ClauseText) :
    Except FilterError (Spanned Descriptor) :=
  match read clause.text with
  | .ok d => .ok ⟨d, clause.span⟩
  | .error f => .error (f.toError query index clause)

end Clause

/-- The outcomes of all clauses of a query, in order. -/
def clauseOutcomes (query : String) : List (Except FilterError (Spanned Descriptor)) :=
  (splitClauses query.toList).mapIdx (Clause.outcome query.toList)

/-- What a query was found to contain. -/
structure Parsed where
  descriptors : List (Spanned Descriptor)
  errors : List FilterError

namespace Parsed

def isSuccess (p : Parsed) : Bool := p.errors.isEmpty

/-- The descriptors, or else the errors. -/
def result (p : Parsed) : Except FilterError (List (Spanned Descriptor)) :=
  FilterError.unless p.errors p.descriptors

end Parsed

/-- Parses a query and keeps both descriptors and errors. -/
def parseWith (mode : Mode) (query : String) : Parsed :=
  let outcomes := mode.select (clauseOutcomes query)
  ⟨resultsOf outcomes, errorsOf outcomes⟩

/-- Parses a query; the first malformed clause is an error. -/
def parseQuery (query : String) : Except FilterError (List (Spanned Descriptor)) :=
  (parseWith .fast query).result

/-- The descriptors of a query. -/
def parseDescriptors (query : String) : Except FilterError (List Descriptor) := do
  let found ← parseQuery query
  return found.map (·.value)

end RecordFilter
