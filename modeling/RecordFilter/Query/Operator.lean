import RecordFilter.Text.Case

/-!
# Operators and connectives

The words of the query language: how a property is compared with a value, and
how a condition combines with the one before it on the same property. Keywords
are recognised in any case.
-/

namespace RecordFilter

inductive Operator where
  | equal
  | notEqual
  | lessThan
  | lessThanOrEqual
  | greaterThan
  | greaterThanOrEqual
  /-- A sequence contains the given element. -/
  | contains
  /-- A single value is one of the given values. -/
  | containsOnValue
deriving DecidableEq, Repr, Inhabited

namespace Operator

def all : List Operator :=
  [equal, notEqual, lessThan, lessThanOrEqual, greaterThan, greaterThanOrEqual, contains,
    containsOnValue]

theorem mem_all (o : Operator) : o ∈ all := by cases o <;> decide

def keyword : Operator → String
  | equal => "Equal"
  | notEqual => "NotEqual"
  | lessThan => "LessThan"
  | lessThanOrEqual => "LessThanOrEqual"
  | greaterThan => "GreaterThan"
  | greaterThanOrEqual => "GreaterThanOrEqual"
  | contains => "Contains"
  | containsOnValue => "ContainsOnValue"

/-- The sign between path and operand in a rendered predicate. -/
def symbol : Operator → String
  | equal => "=="
  | notEqual => "!="
  | lessThan => "<"
  | lessThanOrEqual => "<="
  | greaterThan => ">"
  | greaterThanOrEqual => ">="
  | contains => "contains"
  | containsOnValue => "in"

def ofKeyword? (word : String) : Option Operator := all.find? (Text.sameFolded ·.keyword word)

/-- The operator whose keyword is spelled exactly so. -/
def ofName? (word : String) : Option Operator := all.find? (·.keyword == word)

def isOrdering : Operator → Bool
  | lessThan | lessThanOrEqual | greaterThan | greaterThanOrEqual => true
  | _ => false

def isMembership : Operator → Bool
  | contains | containsOnValue => true
  | _ => false

/-- The operator that says the opposite about values that are there. -/
def complement? : Operator → Option Operator
  | equal => some notEqual
  | notEqual => some equal
  | lessThan => some greaterThanOrEqual
  | greaterThanOrEqual => some lessThan
  | lessThanOrEqual => some greaterThan
  | greaterThan => some lessThanOrEqual
  | contains | containsOnValue => none

/-- The outcomes of a comparison that an ordering operator accepts. -/
def accepts : Operator → Ordering → Bool
  | lessThan, o => o == .lt
  | lessThanOrEqual, o => o == .lt || o == .eq
  | greaterThan, o => o == .gt
  | greaterThanOrEqual, o => o == .gt || o == .eq
  | _, _ => false

end Operator

/-- How a condition combines with the one before it. -/
inductive Connective where
  | and
  | or
deriving DecidableEq, Repr, Inhabited

namespace Connective

def keyword : Connective → String
  | and => "And"
  | or => "Or"

def ofKeyword? (word : String) : Option Connective :=
  [and, or].find? (Text.sameFolded ·.keyword word)

/-- The connective whose keyword is spelled exactly so. -/
def ofName? (word : String) : Option Connective := [and, or].find? (·.keyword == word)

/-- The truth of two conditions combined. -/
def apply : Connective → Bool → Bool → Bool
  | and, a, b => a && b
  | or, a, b => a || b

end Connective

end RecordFilter
