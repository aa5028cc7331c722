/-!
# Formulas

A formula combines atoms by "and" and "or". It is polymorphic in its atoms: a
predicate has comparisons for atoms, a compiled predicate has tests of a record,
and a rendered one has texts. Replacing atoms and evaluating commute.
-/

namespace RecordFilter

universe u v

inductive Formula (α : Type u) where
  | atom (a : α)
  | and (left right : Formula α)
  | or (left right : Formula α)
deriving DecidableEq, Repr

namespace Formula

variable {α : Type u} {β : Type v}

instance [Inhabited α] : Inhabited (Formula α) := ⟨atom default⟩

/-- The atoms from left to right. -/
def atoms : Formula α → List α
  | atom a => [a]
  | and l r | or l r => l.atoms ++ r.atoms

/-- Replaces every atom. -/
def map (f : α → β) : Formula α → Formula β
  | atom a => atom (f a)
  | and l r => and (l.map f) (r.map f)
  | or l r => or (l.map f) (r.map f)

/-- The truth of the formula, given that of its atoms. -/
def eval (v : α → Bool) : Formula α → Bool
  | atom a => v a
  | and l r => l.eval v && r.eval v
  | or l r => l.eval v || r.eval v

/-- Replaces every atom by a result, unless there is an error; then the leftmost one counts. -/
def traverse {ε : Type} (f : α → Except ε β) : Formula α → Except ε (Formula β)
  | atom a => (f a).map atom
  | and l r => do return and (← l.traverse f) (← r.traverse f)
  | or l r => do return or (← l.traverse f) (← r.traverse f)

/-- All of some formulas, nested to the left, or the given atom if there are none. -/
def all (unit : α) : List (Formula α) → Formula α
  | [] => atom unit
  | p :: ps => ps.foldl and p

@[simp] theorem atoms_atom (a : α) : (atom a).atoms = [a] := rfl

@[simp] theorem atoms_and (l r : Formula α) : (and l r).atoms = l.atoms ++ r.atoms := rfl

@[simp] theorem atoms_or (l r : Formula α) : (or l r).atoms = l.atoms ++ r.atoms := rfl

@[simp] theorem eval_atom (v : α → Bool) (a : α) : (atom a).eval v = v a := rfl

@[simp] theorem eval_and (v : α → Bool) (l r : Formula α) :
    (and l r).eval v = (l.eval v && r.eval v) := rfl

@[simp] theorem eval_or (v : α → Bool) (l r : Formula α) :
    (or l r).eval v = (l.eval v || r.eval v) := rfl

@[simp] theorem atoms_map (f : α → β) (p : Formula α) : (p.map f).atoms = p.atoms.map f := by
  induction p <;> simp_all [map, atoms]

@[simp] theorem eval_map (f : α → β) (v : β → Bool) (p : Formula α) :
    (p.map f).eval v = p.eval (v ∘ f) := by
  induction p <;> simp_all [map, eval]

end Formula

end RecordFilter
