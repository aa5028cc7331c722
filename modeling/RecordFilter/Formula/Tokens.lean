import RecordFilter.Formula.Basic

/-!
# Formulas as tokens

A formula written between its operators: "and" binds tighter than "or", both
associate to the left, and parentheses stand exactly where that would nest
differently. `ofTokens?` reads such a sequence back.
-/

namespace RecordFilter

universe u v

inductive Token (α : Type u) where
  | atom (a : α)
  | and
  | or
  | opening
  | closing
deriving DecidableEq, Repr

namespace Token

def text : Token String → String
  | atom s => s
  | and => " AND "
  | or => " OR "
  | opening => "("
  | closing => ")"

end Token

namespace Formula

variable {α : Type u}

/-- Parentheses around tokens, where they are needed. -/
def enclose (needed : Bool) (tokens : List (Token α)) : List (Token α) :=
  if needed then .opening :: (tokens ++ [.closing]) else tokens

def isOr : Formula α → Bool
  | or _ _ => true
  | _ => false

def isAtom : Formula α → Bool
  | atom _ => true
  | _ => false

/-- The formula between its operators. -/
def tokens : Formula α → List (Token α)
  | atom a => [.atom a]
  | and l r => enclose l.isOr l.tokens ++ .and :: enclose (!r.isAtom) r.tokens
  | or l r => l.tokens ++ .or :: enclose r.isOr r.tokens

/-- The formula as a text, given the texts of its atoms. -/
def render (text : α → String) (p : Formula α) : String :=
  String.join ((p.map text).tokens.map Token.text)

/-- Parentheses around a text, where they are needed. -/
def parenthesize (needed : Bool) (s : String) : String :=
  if needed then "(" ++ s ++ ")" else s

theorem join_text_enclose (needed : Bool) (ts : List (Token String)) :
    String.join ((enclose needed ts).map Token.text)
      = parenthesize needed (String.join (ts.map Token.text)) := by
  cases needed with
  | false => rfl
  | true => simp [enclose, parenthesize, Token.text, String.join_append, String.append_assoc]

@[simp] theorem isOr_map {β : Type v} (f : α → β) (p : Formula α) : (p.map f).isOr = p.isOr := by
  cases p <;> rfl

@[simp] theorem isAtom_map {β : Type v} (f : α → β) (p : Formula α) :
    (p.map f).isAtom = p.isAtom := by
  cases p <;> rfl

section Render

variable (text : α → String)

@[simp] theorem render_atom (a : α) : (atom a).render text = text a := by
  simp [render, map, tokens, Token.text]

/-- In an "and", an "or" has parentheses on either side, and an "and" on the right. -/
theorem render_and (l r : Formula α) : (and l r).render text
    = parenthesize l.isOr (l.render text) ++ " AND "
      ++ parenthesize (!r.isAtom) (r.render text) := by
  simp [render, map, tokens, join_text_enclose, String.join_append, Token.text,
    String.append_assoc]

/-- In an "or", only an "or" on the right has parentheses. -/
theorem render_or (l r : Formula α) : (or l r).render text
    = l.render text ++ " OR " ++ parenthesize r.isOr (r.render text) := by
  simp [render, map, tokens, join_text_enclose, String.join_append, Token.text,
    String.append_assoc]

end Render

/-! ## Reading -/

/-- What is still waiting for its right operand, inside one pair of parentheses. -/
structure Pending (α : Type u) where
  /-- The left side of an "or". -/
  disjunct : Option (Formula α) := none
  /-- The left side of an "and", which binds first. -/
  conjunct : Option (Formula α) := none

namespace Pending

/-- The conjunction that ends with this operand. -/
def conjoin (p : Pending α) (operand : Formula α) : Formula α :=
  match p.conjunct with
  | some left => .and left operand
  | none => operand

/-- The whole formula that ends with this operand. -/
def finish (p : Pending α) (operand : Formula α) : Formula α :=
  match p.disjunct with
  | some left => .or left (p.conjoin operand)
  | none => p.conjoin operand

end Pending

mutual

/-- Reads on where an operand has to come, inside parentheses with what is pending in each. -/
def readOperand (outer : List (Pending α)) (p : Pending α) : List (Token α) → Option (Formula α)
  | .atom a :: rest => readOperator outer p (atom a) rest
  | .opening :: rest => readOperand (p :: outer) {} rest
  | _ => none

/-- Reads on after an operand. -/
def readOperator (outer : List (Pending α)) (p : Pending α) (operand : Formula α) :
    List (Token α) → Option (Formula α)
  | .and :: rest => readOperand outer { p with conjunct := some (p.conjoin operand) } rest
  | .or :: rest => readOperand outer { disjunct := some (p.finish operand) } rest
  | .closing :: rest =>
    match outer with
    | q :: outer => readOperator outer q (p.finish operand) rest
    | [] => none
  | [] => if outer.isEmpty then some (p.finish operand) else none
  | _ => none

end

/-- The formula that a sequence of tokens stands for. -/
def ofTokens? (tokens : List (Token α)) : Option (Formula α) := readOperand [] {} tokens

end Formula

end RecordFilter
