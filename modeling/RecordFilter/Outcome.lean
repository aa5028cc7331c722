import RecordFilter.Diagnostic.Error

/-!
# Outcomes of many steps

Parsing and compiling both take a list of steps that each succeed or fail. The
mode says how many of them are looked at; if any of those failed there is no
result, and a single failure is reported as itself.
-/

namespace RecordFilter

/-- Whether to stop at the first error or to collect them all. -/
inductive Mode where
  | fast
  | analysis
deriving DecidableEq, Repr, Inhabited

/-- The outcomes up to the first error, which is the last of them. -/
def upToError {ε α : Type} : List (Except ε α) → List (Except ε α)
  | [] => []
  | .ok a :: rest => .ok a :: upToError rest
  | .error e :: _ => [.error e]

/-- The errors among some outcomes. -/
def errorsOf {ε α : Type} : List (Except ε α) → List ε
  | [] => []
  | .ok _ :: rest => errorsOf rest
  | .error e :: rest => e :: errorsOf rest

/-- The results among some outcomes. -/
def resultsOf {ε α : Type} : List (Except ε α) → List α
  | [] => []
  | .ok a :: rest => a :: resultsOf rest
  | .error _ :: rest => resultsOf rest

/-- The outcomes that a mode looks at. -/
def Mode.select {ε α : Type} : Mode → List (Except ε α) → List (Except ε α)
  | fast, outcomes => upToError outcomes
  | analysis, outcomes => outcomes

/-- A result, unless there are errors; then the only one of them, or all together. -/
def FilterError.unless {α : Type} (errors : List FilterError) (a : α) : Except FilterError α :=
  match errors with
  | [] => .ok a
  | [e] => .error e
  | es => .error (.multiple es)

/-- All results, unless one of the outcomes that the mode looks at is an error. -/
def Mode.collect {α : Type} (mode : Mode) (outcomes : List (Except FilterError α)) :
    Except FilterError (List α) :=
  let seen := mode.select outcomes
  FilterError.unless (errorsOf seen) (resultsOf seen)

end RecordFilter
