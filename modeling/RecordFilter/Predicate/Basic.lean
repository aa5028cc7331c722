import RecordFilter.Formula.Tokens
import RecordFilter.Query.Operator
import RecordFilter.Scalar.Value

/-!
# Predicates

A predicate is a formula over truth values and comparisons of properties with
data. It has a text and a JSON form.
-/

namespace RecordFilter

/-- A property compared with a datum. -/
structure Comparison where
  path : String
  operator : Operator
  shape : Shape
  operand : Datum
deriving Repr, Inhabited

namespace Comparison

def render (c : Comparison) : String :=
  c.path ++ " " ++ c.operator.symbol ++ " " ++ c.operand.render

end Comparison

inductive Atom where
  | literal (value : Bool)
  | compare (c : Comparison)
deriving Repr, Inhabited

namespace Atom

def comparison? : Atom → Option Comparison
  | compare c => some c
  | literal _ => none

def render : Atom → String
  | literal value => if value then "true" else "false"
  | compare c => c.render

def toJson : Atom → Json
  | literal value => .object [("type", .string "Literal"), ("value", .bool value)]
  | compare c =>
    .object [("type", .string "Compare"), ("path", .string c.path),
      ("operator", .string c.operator.keyword), ("shape", .string c.shape.render),
      ("operand", c.operand.toJson)]

end Atom

abbrev Predicate := Formula Atom

namespace Predicate

def literal (value : Bool) : Predicate := .atom (.literal value)

def compare (c : Comparison) : Predicate := .atom (.compare c)

/-- The predicate that every record satisfies. -/
def always : Predicate := literal true

/-- All of some predicates; of none, what always holds. -/
def all (ps : List Predicate) : Predicate := Formula.all (.literal true) ps

/-- The comparisons from left to right. -/
def comparisons (p : Predicate) : List Comparison := p.atoms.filterMap Atom.comparison?

def comparisonCount (p : Predicate) : Nat := p.comparisons.length

/-- The predicate between its operators. -/
def render (p : Predicate) : String := Formula.render Atom.render p

def toJson : Predicate → Json
  | .atom a => a.toJson
  | .and l r => .object [("type", .string "And"), ("left", toJson l), ("right", toJson r)]
  | .or l r => .object [("type", .string "Or"), ("left", toJson l), ("right", toJson r)]

/-! ## The text -/

theorem render_literal (value : Bool) :
    (literal value).render = if value then "true" else "false" :=
  Formula.render_atom _ _

theorem render_compare (c : Comparison) :
    (compare c).render = c.path ++ " " ++ c.operator.symbol ++ " " ++ c.operand.render :=
  Formula.render_atom _ _

theorem render_and (l r : Predicate) : render (.and l r)
    = Formula.parenthesize l.isOr l.render ++ " AND "
      ++ Formula.parenthesize (!r.isAtom) r.render :=
  Formula.render_and _ l r

theorem render_or (l r : Predicate) :
    render (.or l r) = l.render ++ " OR " ++ Formula.parenthesize r.isOr r.render :=
  Formula.render_or _ l r

/-! ## The comparisons -/

@[simp] theorem comparisons_compare (c : Comparison) : (compare c).comparisons = [c] := rfl

@[simp] theorem comparisons_literal (value : Bool) : (literal value).comparisons = [] := rfl

@[simp] theorem comparisons_and (l r : Predicate) :
    comparisons (.and l r) = comparisons l ++ comparisons r := by simp [comparisons]

@[simp] theorem comparisons_or (l r : Predicate) :
    comparisons (.or l r) = comparisons l ++ comparisons r := by simp [comparisons]

end Predicate

end RecordFilter
