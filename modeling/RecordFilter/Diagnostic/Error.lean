import RecordFilter.Diagnostic.Basic

/-!
# Errors

One type for everything that can go wrong between a query text and a predicate.
Errors that are found for one clause carry its index; several errors are held
together by `multiple`, at any depth. `flatten` lists the single errors, and the
code, clause and diagnostic of a list are those of its first.
-/

namespace RecordFilter

open Diagnostic (Code)
open Text (Location)

/-- Why no descriptor can be made of some parts. -/
structure InvalidDescriptor where
  message : String
  code : Code := .invalidDescriptor
deriving Repr, Inhabited

/-- A message alone goes with the code that it has by default. -/
instance : Coe String InvalidDescriptor := ⟨fun message => { message }⟩

inductive FilterError where
  /-- A clause does not follow the grammar. -/
  | malformed (code : Code) (clause : Nat) (text message : String) (location : Option Location)
  /-- A segment of a path names no property. -/
  | propertyNotFound (typeName path segment : String) (clause : Option Nat)
      (code : Code := .propertyNotFound)
  /-- A value does not fit the type of its property. -/
  | coercion (code : Code) (path expected raw reason : String) (clause : Option Nat)
  /-- The operator means nothing for the shape of its property. -/
  | unsupported (operator shape path : String) (clause : Option Nat)
      (code : Code := .unsupportedOperator)
  /-- A descriptor cannot be made of these parts. -/
  | invalidDescriptor (reason : InvalidDescriptor)
  | multiple (errors : List FilterError)
deriving Repr, Inhabited

namespace FilterError

/-- Says which clause an error belongs to, where it does not know. -/
def atClause (index : Nat) : FilterError → FilterError
  | propertyNotFound t p s _ c => propertyNotFound t p s (some index) c
  | coercion c p e r w _ => coercion c p e r w (some index)
  | unsupported o s p _ c => unsupported o s p (some index) c
  | e => e

def code : FilterError → Code
  | malformed code .. => code
  | propertyNotFound _ _ _ _ code => code
  | coercion code .. => code
  | unsupported _ _ _ _ code => code
  | invalidDescriptor reason => reason.code
  | multiple [] => .malformedClause
  | multiple (e :: _) => e.code

def clause? : FilterError → Option Nat
  | malformed _ clause .. => some clause
  | propertyNotFound _ _ _ clause _ => clause
  | coercion _ _ _ _ _ clause => clause
  | unsupported _ _ _ clause _ => clause
  | invalidDescriptor _ => none
  | multiple [] => none
  | multiple (e :: _) => e.clause?

def location? : FilterError → Option Location
  | malformed _ _ _ _ location => location
  | _ => none

mutual

/-- The single errors, in order. -/
def flatten : FilterError → List FilterError
  | multiple errors => flattenAll errors
  | e => [e]

def flattenAll : List FilterError → List FilterError
  | [] => []
  | e :: es => flatten e ++ flattenAll es

end

/-- Says the clause at the end of a message. -/
def clauseTag : Option Nat → String
  | some n => " (clause " ++ toString n ++ ")"
  | none => ""

/-- The error on one line, with its code. -/
def message : FilterError → String
  | malformed code clause text message _ =>
    code.render ++ ": malformed clause " ++ toString clause ++ " '" ++ text ++ "': " ++ message
  | propertyNotFound typeName path segment clause code =>
    code.render ++ ": property '" ++ segment ++ "' not found on " ++ typeName ++
      " while resolving '" ++ path ++ "'" ++ clauseTag clause
  | coercion code path expected raw reason clause =>
    code.render ++ ": cannot use " ++ raw ++ " as " ++ expected ++ " for '" ++ path ++ "': " ++
      reason ++ clauseTag clause
  | unsupported operator shape path clause code =>
    code.render ++ ": operator " ++ operator ++ " is not supported for " ++ shape ++
      " property '" ++ path ++ "'" ++ clauseTag clause
  | invalidDescriptor reason => reason.code.render ++ ": " ++ reason.message
  | multiple errors => "Multiple errors: " ++ toString errors.length

/-- What a diagnostic says of a single error. -/
def explanation : FilterError → String
  | malformed _ _ text message _ => message ++ " in '" ++ text ++ "'"
  | propertyNotFound typeName path segment _ _ =>
    "no property '" ++ segment ++ "' on " ++ typeName ++ " (path '" ++ path ++ "')"
  | coercion _ path expected raw reason _ =>
    "cannot use " ++ raw ++ " as " ++ expected ++ " for '" ++ path ++ "': " ++ reason
  | unsupported operator shape path _ _ =>
    operator ++ " is not supported for " ++ shape ++ " property '" ++ path ++ "'"
  | invalidDescriptor reason => reason.message
  | multiple _ => "Unknown error"

/-- The diagnostic of an error, of several the first. -/
def toDiagnostic : FilterError → Diagnostic
  | multiple (e :: _) => e.toDiagnostic
  | e => { Diagnostic.error e.code e.explanation with clause := e.clause?, location := e.location? }

end FilterError

end RecordFilter
