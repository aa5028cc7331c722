/-!
# Coloured text

Terminal colours, where they are wanted.
-/

namespace RecordFilter.Text

inductive Ink where
  | red
  | green
  | yellow
deriving DecidableEq, Repr

def Ink.number : Ink → Nat
  | red => 31
  | green => 32
  | yellow => 33

/-- Paints a word, if there are to be colours. -/
def paint (colors bold : Bool) (ink : Ink) (word : String) : String :=
  if colors then
    "\x1b[" ++ (if bold then "1;" else "") ++ toString ink.number ++ "m" ++ word ++ "\x1b[0m"
  else word

end RecordFilter.Text
