/-!
# Quoted text

A quoted literal stands between two equal quotes, double or single. A backslash
takes the character after it out of the syntax: `\n`, `\t` and `\r` are control
characters, anything else stands for itself. Writing uses double quotes and is
free in what it escapes beyond the quote and the backslash, so `encode` is given
the escape of a single character; `EscapesQuotes` is what it has to respect.
-/

namespace RecordFilter.Text.Quoted

/-- The character that a backslash and this character stand for. -/
def unescape : Char → Char
  | 'n' => '\n'
  | 't' => '\t'
  | 'r' => '\r'
  | c => c

/-- Whether the character opens a quoted literal. -/
def isQuote (c : Char) : Bool := c == '"' || c == '\''

/-- Reads up to the closing quote; the text and what follows it. -/
def decode (quote : Char) : List Char → Option (List Char × List Char)
  | [] => none
  | '\\' :: e :: s => (decode quote s).map fun p => (unescape e :: p.1, p.2)
  | c :: s =>
    if c = '\\' then none
    else if c = quote then some ([], s)
    else (decode quote s).map fun p => (c :: p.1, p.2)

/-- Escapes the quote, the backslash, line feeds and tabs. -/
def escapeControls : Char → List Char
  | '"' => ['\\', '"']
  | '\\' => ['\\', '\\']
  | '\n' => ['\\', 'n']
  | '\t' => ['\\', 't']
  | c => [c]

/-- Escapes the quote and the backslash only. -/
def escapeQuotes : Char → List Char
  | '"' => ['\\', '"']
  | '\\' => ['\\', '\\']
  | c => [c]

/-- Writes a text between double quotes. -/
def encode (escape : Char → List Char) (s : List Char) : List Char :=
  '"' :: (s.flatMap escape ++ ['"'])

/-- An escape that reads back: either the character itself, then it is neither the double quote
nor a backslash, or a backslash and a letter that stands for it. -/
def EscapesQuotes (escape : Char → List Char) : Prop :=
  ∀ c, (escape c = [c] ∧ c ≠ '"' ∧ c ≠ '\\') ∨ ∃ e, escape c = ['\\', e] ∧ unescape e = c

theorem escapesQuotes_escapeControls : EscapesQuotes escapeControls := by
  intro c
  unfold escapeControls
  split
  · exact .inr ⟨'"', rfl, rfl⟩
  · exact .inr ⟨'\\', rfl, rfl⟩
  · exact .inr ⟨'n', rfl, rfl⟩
  · exact .inr ⟨'t', rfl, rfl⟩
  · next h₁ h₂ _ _ => exact .inl ⟨rfl, h₁, h₂⟩

theorem escapesQuotes_escapeQuotes : EscapesQuotes escapeQuotes := by
  intro c
  unfold escapeQuotes
  split
  · exact .inr ⟨'"', rfl, rfl⟩
  · exact .inr ⟨'\\', rfl, rfl⟩
  · next h₁ h₂ => exact .inl ⟨rfl, h₁, h₂⟩

/-- Reading what was written gives the text back and stops right after the closing quote. -/
theorem decode_encode {escape : Char → List Char} (h : EscapesQuotes escape) (s rest : List Char) :
    decode '"' (s.flatMap escape ++ '"' :: rest) = some (s, rest) := by
  induction s with
  | nil => simp [decode]
  | cons c s ih =>
    rcases h c with ⟨hc, hq, hb⟩ | ⟨e, hc, he⟩
    · simp [decode, hc, hq, hb, ih]
    · simp [decode, hc, he, ih]

end RecordFilter.Text.Quoted
