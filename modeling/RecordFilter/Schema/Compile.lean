import RecordFilter.Predicate.Grouping
import RecordFilter.Query.Parse
import RecordFilter.Scalar.Coercion
import RecordFilter.Schema.Resolver

/-!
# Compiling filters

A descriptor becomes a comparison in three steps: its path is resolved, its value
is coerced, and its operator has to be supported. The comparisons combine into
one predicate, which is then lowered to a test of records. Lowering works on any
predicate: every comparison becomes the test of its property.
-/

namespace RecordFilter

/-- A predicate that is ready to run on records. -/
structure Compiled (ρ : Type) where
  expression : Predicate
  accepts : ρ → Bool

/-- How descriptors are compiled. -/
structure CompileOptions where
  mode : Mode := .fast
  caseSensitive : Bool := false
deriving DecidableEq, Repr

namespace Compiled

variable {ρ : Type}

/-- Accepts every record. -/
def always : Compiled ρ := ⟨.always, fun _ => true⟩

/-- The records that are accepted, in order. -/
def filter (c : Compiled ρ) (records : List ρ) : List ρ := records.filter c.accepts

end Compiled

namespace Schema

variable {ρ : Type}

/-! ## Lowering -/

/-- The test of records that an atom stands for. -/
def atomTest (s : Schema ρ) : Atom → Except FilterError (ρ → Bool)
  | .literal value => .ok fun _ => value
  | .compare c => do
    let found ← s.resolve true c.path
    found.property.test found.path c.operator c.operand

/-- Compiles a predicate as it stands. -/
def lower (s : Schema ρ) (p : Predicate) : Except FilterError (Compiled ρ) := do
  let tests ← p.traverse s.atomTest
  return ⟨p, fun r => tests.eval fun test => test r⟩

/-! ## Descriptors -/

/-- The condition of a descriptor whose path has been resolved. -/
def condition (d : Descriptor) (found : Resolved ρ) : Except FilterError Condition := do
  let shape := found.property.shape
  let operand ← Coercion.coerce found.path d.value shape d.operator
  Property.ensureSupported shape d.operator found.path
  return ⟨found.path, d.connective, .compare ⟨found.path, d.operator, shape, operand⟩⟩

/-- The condition that a descriptor becomes. -/
def conditionOf (s : Schema ρ) (options : CompileOptions) (d : Descriptor) :
    Except FilterError Condition :=
  (s.resolve options.caseSensitive d.path.text).bind (condition d)

/-- Says in an outcome which clause it belongs to. -/
def tagClause {α : Type} (index : Nat) (outcome : Except FilterError α) : Except FilterError α :=
  outcome.mapError (FilterError.atClause index)

/-- The conditions of descriptors, or their errors with their places. -/
def outcomes (s : Schema ρ) (options : CompileOptions) (ds : List Descriptor) :
    List (Except FilterError Condition) :=
  (ds.map (s.conditionOf options)).mapIdx tagClause

/-- Compiles descriptors. -/
def compile (s : Schema ρ) (options : CompileOptions) (ds : List Descriptor) :
    Except FilterError (Compiled ρ) := do
  let conditions ← options.mode.collect (s.outcomes options ds)
  s.lower (aggregate conditions)

/-- Compiles a query text. -/
def build (s : Schema ρ) (options : CompileOptions) (query : String) :
    Except FilterError (Compiled ρ) := do
  let found ← (parseWith options.mode query).result
  s.compile options (found.map (·.value))

end Schema

namespace Resolver

variable {ρ : Type}

/-- The condition that a descriptor becomes. Its path is looked up. -/
def conditionOf (r : Resolver ρ) (options : CompileOptions) (d : Descriptor) :
    Except FilterError Condition × Resolver ρ :=
  let (found, r) := r.resolve options.caseSensitive d.path.text
  (found.bind (Schema.condition d), r)

/-- The conditions of descriptors, or their errors with their places, which are counted from an
index on. In fast mode nothing is looked up behind the first error. -/
def outcomesFrom (r : Resolver ρ) (options : CompileOptions) (index : Nat) :
    List Descriptor → List (Except FilterError Condition) × Resolver ρ
  | [] => ([], r)
  | d :: ds =>
    match r.conditionOf options d with
    | (.ok condition, r) =>
      let (later, r) := r.outcomesFrom options (index + 1) ds
      (.ok condition :: later, r)
    | (.error e, r) =>
      let (later, r) :=
        if options.mode = .fast then ([], r) else r.outcomesFrom options (index + 1) ds
      (.error (e.atClause index) :: later, r)

/-- Compiles descriptors and remembers the paths that were looked up. -/
def compile (r : Resolver ρ) (options : CompileOptions) (ds : List Descriptor) :
    Except FilterError (Compiled ρ) × Resolver ρ :=
  let (outcomes, r) := r.outcomesFrom options 0 ds
  ((FilterError.unless (errorsOf outcomes) (resultsOf outcomes)).bind fun conditions =>
    r.schema.lower (aggregate conditions), r)

/-- Compiles a query text and remembers the paths that were looked up. -/
def build (r : Resolver ρ) (options : CompileOptions) (query : String) :
    Except FilterError (Compiled ρ) × Resolver ρ :=
  match (parseWith options.mode query).result with
  | .ok found => r.compile options (found.map (·.value))
  | .error e => (.error e, r)

end Resolver

end RecordFilter
