import RecordFilter.Predicate.Basic

/-!
# Combining conditions

Conditions on one property that follow each other fold into a group by their
connectives, strictly from the left. A condition without a connective, or on
another property than the one before it, opens a new group. A record has to
satisfy all groups.
-/

namespace RecordFilter

structure Condition where
  path : String
  connective : Option Connective
  predicate : Predicate
deriving Repr, Inhabited

/-- Two predicates combined. -/
def Connective.join : Connective → Predicate → Predicate → Predicate
  | and => .and
  | or => .or

/-- The groups that begin with a group on a path, as far as it is known. -/
def groupsFrom (path : String) (current : Predicate) : List Condition → List Predicate
  | [] => [current]
  | c :: cs =>
    match c.connective with
    | some connective =>
      if c.path = path then groupsFrom path (connective.join current c.predicate) cs
      else current :: groupsFrom c.path c.predicate cs
    | none => current :: groupsFrom c.path c.predicate cs

/-- The groups of some conditions, in order. -/
def groups : List Condition → List Predicate
  | [] => []
  | c :: cs => groupsFrom c.path c.predicate cs

/-- One predicate for all conditions. -/
def aggregate (conditions : List Condition) : Predicate := .all (groups conditions)

end RecordFilter
