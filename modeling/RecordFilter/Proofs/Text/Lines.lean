import Mathlib.Data.List.Infix
import RecordFilter.Text.Blank
import RecordFilter.Text.Span

/-!
# Lines and places in them

A place in a text has whole lines in front of it and then some part of a line.
The lines are what the place is counted by: their number gives its own line, the
length of the part its column (`lineColumn_append`).  Cutting a text into lines
finds the same line again (`getElem?_lines`), but for two kinds of places: there
is no line behind a line feed that ends the text, and none that goes on between
a carriage return and its line feed.  A place next to a character that is no
layout is neither (`IsVisible.exists_line`).
-/

namespace RecordFilter.Text

/-! ## Whole lines -/

/-- A text of whole lines: behind each of them there is a line feed. -/
inductive WholeLines : List Char → Prop where
  | nil : WholeLines []
  | cons {w s : List Char} (hw : '\n' ∉ w) (h : WholeLines s) : WholeLines (w ++ '\n' :: s)

/-- A text can be cut behind its last line feed. -/
theorem exists_wholeLines (s : List Char) :
    ∃ front back, s = front ++ back ∧ WholeLines front ∧ '\n' ∉ back := by
  induction s with
  | nil => exact ⟨[], [], rfl, .nil, List.not_mem_nil⟩
  | cons c s ih =>
    obtain ⟨front, back, rfl, hfront, hback⟩ := ih
    by_cases hc : c = '\n'
    · subst hc
      exact ⟨[] ++ '\n' :: front, back, rfl, .cons List.not_mem_nil hfront, hback⟩
    · cases hfront with
      | nil =>
        exact ⟨[], c :: back, rfl, .nil, List.not_mem_cons_of_ne_of_not_mem (Ne.symm hc) hback⟩
      | @cons w s hw h =>
        have hw' : '\n' ∉ c :: w := List.not_mem_cons_of_ne_of_not_mem (Ne.symm hc) hw
        exact ⟨(c :: w) ++ '\n' :: s, back, rfl, .cons hw' h, hback⟩

/-- Whole lines end with a line feed, if there are any. -/
theorem WholeLines.getLast? {s : List Char} (h : WholeLines s) :
    ∀ c ∈ s.getLast?, c = '\n' := by
  induction h with
  | nil =>
    rintro c ⟨⟩
  | @cons w s _ _ ih =>
    intro c hc
    rw [List.getLast?_append_of_ne_nil w (List.cons_ne_nil _ _), List.getLast?_cons] at hc
    cases hs : s.getLast? with
    | none =>
      rw [hs] at hc
      exact (Option.mem_some_iff.mp hc).symm
    | some d =>
      rw [hs] at hc
      exact (Option.mem_some_iff.mp hc) ▸ ih d hs

/-! ## Lines and columns -/

theorem startingBefore_append (s t : List Char) : startingBefore (byteLength s) (s ++ t) = s := by
  induction s with
  | nil => cases t <;> rfl
  | cons c s ih =>
    have hc := c.utf8Size_pos
    obtain ⟨n, hn⟩ : ∃ n, byteLength (c :: s) = n + 1 :=
      ⟨byteLength (c :: s) - 1, by rw [byteLength_cons]; omega⟩
    have hrest : n + 1 - c.utf8Size = byteLength s := by
      rw [← hn, byteLength_cons, Nat.add_sub_cancel_left]
    rw [hn, List.cons_append, startingBefore, hrest, ih]

/-- Within a line only the column advances. -/
theorem foldl_advance_of_notMem {w : List Char} (hw : '\n' ∉ w) (line column : Nat) :
    w.foldl advance (line, column) = (line, column + w.length) := by
  induction w generalizing column with
  | nil => rfl
  | cons c w ih =>
    have hc : c ≠ '\n' := (List.ne_of_not_mem_cons hw).symm
    rw [List.foldl_cons, advance, if_neg hc, ih (List.not_mem_of_not_mem_cons hw),
      List.length_cons, Nat.add_assoc, Nat.add_comm 1]

/-- Behind whole lines a new line begins. -/
theorem WholeLines.foldl_advance {s : List Char} (h : WholeLines s) (line : Nat) :
    s.foldl advance (line, 1) = (line + s.count '\n', 1) := by
  induction h generalizing line with
  | nil => rfl
  | @cons w s hw _ ih =>
    rw [List.foldl_append, foldl_advance_of_notMem hw, List.foldl_cons, advance, if_pos rfl, ih,
      List.count_append, List.count_eq_zero_of_not_mem hw, List.count_cons_self]
    simp only [Prod.mk.injEq, and_true]
    omega

/-- The line of a place is counted by the whole lines in front of it, its column by what stands in
front of it on its own line. -/
theorem lineColumn_append {front back : List Char} (hfront : WholeLines front)
    (hback : '\n' ∉ back) (after : List Char) :
    lineColumn (front ++ back ++ after) (byteLength (front ++ back))
      = (1 + front.count '\n', 1 + back.length) := by
  rw [lineColumn, startingBefore_append, List.foldl_append, hfront.foldl_advance,
    foldl_advance_of_notMem hback]

/-! ## Cutting into lines -/

/-- The first line of a text, without what ends it. -/
inductive FirstLine (line : List Char) : List Char → Prop where
  | feed (hline : '\n' ∉ line) (hreturn : line.getLast? ≠ some '\r') (behind : List Char) :
      FirstLine line (line ++ '\n' :: behind)
  | returnFeed (hline : '\n' ∉ line) (behind : List Char) :
      FirstLine line (line ++ '\r' :: '\n' :: behind)
  | last (hline : '\n' ∉ line) (hne : line ≠ []) : FirstLine line line

theorem FirstLine.notMem {line s : List Char} (h : FirstLine line s) : '\n' ∉ line := by
  cases h with
  | feed hline | returnFeed hline | last hline => exact hline

theorem collect_append_of_notMem {w : List Char} (hw : '\n' ∉ w) (s held : List Char) :
    lines.collect (w ++ s) held = lines.collect s (w.reverse ++ held) := by
  induction w generalizing held with
  | nil => rfl
  | cons c w ih =>
    have hc : c ≠ '\n' := (List.ne_of_not_mem_cons hw).symm
    have hstep : lines.collect (c :: (w ++ s)) held = lines.collect (w ++ s) (c :: held) := by
      rw [lines.collect]
      · exact hc
      · exact fun _ _ heq ↦ hc heq
    rw [List.cons_append, hstep, ih (List.not_mem_of_not_mem_cons hw), List.reverse_cons,
      List.append_assoc]
    rfl

/-- A line feed ends the line that is held, of which it drops a carriage return at the end. -/
theorem collect_feed {line : List Char} (hreturn : line.getLast? ≠ some '\r') (s : List Char) :
    lines.collect ('\n' :: s) line.reverse = line :: lines s := by
  rw [lines.collect]
  · rw [List.reverse_reverse]
    rfl
  · intro held heq
    apply hreturn
    rw [← List.head?_reverse, heq]
    rfl

/-- The first line is the first one that a text is cut into, and the others follow it. -/
theorem FirstLine.lines_eq {line s : List Char} (h : FirstLine line s) :
    ∃ rest, lines s = line :: rest := by
  cases h with
  | feed hline hreturn behind =>
    refine ⟨lines behind, ?_⟩
    rw [lines, collect_append_of_notMem hline, List.append_nil, collect_feed hreturn]
  | returnFeed hline behind =>
    refine ⟨lines behind, ?_⟩
    have hstep : lines.collect ('\r' :: '\n' :: behind) line.reverse
        = line.reverse.reverse :: lines behind := rfl
    rw [lines, collect_append_of_notMem hline, List.append_nil, hstep, List.reverse_reverse]
  | last hline hne =>
    refine ⟨[], ?_⟩
    have hall := collect_append_of_notMem hline [] []
    rw [List.append_nil, List.append_nil] at hall
    rw [lines, hall, lines.collect, List.reverse_reverse]
    simpa using hne

/-- A line with its line feed is cut off as one line. -/
theorem exists_lines_append {w : List Char} (hw : '\n' ∉ w) (s : List Char) :
    ∃ line, lines (w ++ '\n' :: s) = line :: lines s := by
  by_cases hreturn : w.getLast? = some '\r'
  · obtain ⟨line, rfl⟩ := List.getLast?_eq_some_iff.mp hreturn
    refine ⟨line, ?_⟩
    have hline : '\n' ∉ line := fun h ↦ hw (List.mem_append_left _ h)
    have hstep : lines.collect ('\r' :: '\n' :: s) line.reverse
        = line.reverse.reverse :: lines s := rfl
    rw [List.append_assoc, List.singleton_append, lines, collect_append_of_notMem hline,
      List.append_nil, hstep, List.reverse_reverse]
  · refine ⟨w, ?_⟩
    rw [lines, collect_append_of_notMem hw, List.append_nil, collect_feed hreturn]

/-- Whole lines are cut off one by one. -/
theorem WholeLines.drop_lines {front : List Char} (h : WholeLines front) (s : List Char) :
    (lines (front ++ s)).drop (front.count '\n') = lines s := by
  induction h with
  | nil => rfl
  | @cons w front hw _ ih =>
    obtain ⟨line, hline⟩ := exists_lines_append hw (front ++ s)
    rw [List.append_assoc, List.cons_append, hline, List.count_append,
      List.count_eq_zero_of_not_mem hw, List.count_cons_self, Nat.zero_add, List.drop_succ_cons, ih]

/-- The line that begins behind whole lines is found under their number. -/
theorem getElem?_lines {front line s : List Char} (hfront : WholeLines front)
    (hline : FirstLine line s) : (lines (front ++ s))[front.count '\n']? = some line := by
  obtain ⟨rest, hrest⟩ := hline.lines_eq
  rw [← Nat.add_zero (front.count '\n'), ← List.getElem?_drop, hfront.drop_lines, hrest]
  rfl

/-! ## Places that are on a line -/

/-- Whether something else than layout stands at a place between two parts of a text, behind the
place or in front of it. -/
def IsVisible (before after : List Char) : Prop :=
  (∃ c ∈ after.head?, isLayout c = false) ∨ ∃ c ∈ before.getLast?, isLayout c = false

namespace IsVisible

variable {before after : List Char}

theorem append_left (h : IsVisible before after) (s : List Char) :
    IsVisible (s ++ before) after := by
  refine h.imp_right ?_
  rintro ⟨c, hc, hlayout⟩
  have hne : before ≠ [] := by
    rintro rfl
    cases hc
  exact ⟨c, by rwa [List.getLast?_append_of_ne_nil s hne], hlayout⟩

theorem append_right (h : IsVisible before after) (s : List Char) :
    IsVisible before (after ++ s) := by
  refine h.imp_left ?_
  rintro ⟨c, hc, hlayout⟩
  have hne : after ≠ [] := by
    rintro rfl
    cases hc
  exact ⟨c, by rwa [List.head?_append_of_ne_nil after hne], hlayout⟩

/-- Next to something visible there is a line that the place is on, and the part of it in front of
the place does not reach into the ending of the line. -/
theorem exists_firstLine (h : IsVisible before after) (hbefore : '\n' ∉ before) :
    ∃ line, FirstLine line (before ++ after) ∧ before <+: line := by
  by_cases hafter : '\n' ∈ after
  · obtain ⟨u, v, rfl, hu⟩ := List.eq_append_cons_of_mem hafter
    by_cases hreturn : (before ++ u).getLast? = some '\r'
    · -- the carriage return belongs to the ending, and it stands behind the place
      have hne : u ≠ [] := by
        rintro rfl
        rw [List.append_nil] at hreturn
        rcases h with ⟨c, hc, hlayout⟩ | ⟨c, hc, hlayout⟩
        · cases hc
          cases hlayout
        · rw [hreturn] at hc
          cases hc
          cases hlayout
      rw [List.getLast?_append_of_ne_nil before hne] at hreturn
      obtain ⟨u, rfl⟩ := List.getLast?_eq_some_iff.mp hreturn
      have hline : '\n' ∉ before ++ u :=
        List.not_mem_append hbefore fun hmem ↦ hu (List.mem_append_left _ hmem)
      refine ⟨before ++ u, ?_, List.prefix_append before u⟩
      have htext : before ++ (u ++ ['\r'] ++ '\n' :: v)
          = (before ++ u) ++ '\r' :: '\n' :: v := by simp
      rw [htext]
      exact .returnFeed hline v
    · have hline : '\n' ∉ before ++ u := List.not_mem_append hbefore hu
      refine ⟨before ++ u, ?_, List.prefix_append before u⟩
      rw [← List.append_assoc]
      exact .feed hline hreturn v
  · have hline : '\n' ∉ before ++ after := List.not_mem_append hbefore hafter
    have hne : before ++ after ≠ [] := by
      intro hnil
      obtain ⟨rfl, rfl⟩ := List.append_eq_nil_iff.mp hnil
      rcases h with ⟨c, hc, -⟩ | ⟨c, hc, -⟩ <;> cases hc
    exact ⟨before ++ after, .last hline hne, List.prefix_append before after⟩

/-- The line of a place, and the whole lines in front of it. -/
theorem exists_line (h : IsVisible before after) :
    ∃ front back line, before = front ++ back ∧ WholeLines front ∧
      FirstLine line (back ++ after) ∧ back <+: line := by
  obtain ⟨front, back, rfl, hfront, hback⟩ := exists_wholeLines before
  have hvisible : IsVisible back after := by
    refine h.imp_right ?_
    rintro ⟨c, hc, hlayout⟩
    refine ⟨c, ?_, hlayout⟩
    cases back with
    | nil =>
      rw [List.append_nil] at hc
      rw [hfront.getLast? c hc] at hlayout
      cases hlayout
    | cons d back => rwa [List.getLast?_append_of_ne_nil front (List.cons_ne_nil d back)] at hc
  obtain ⟨line, hline, hprefix⟩ := hvisible.exists_firstLine hback
  exact ⟨front, back, line, rfl, hfront, hline, hprefix⟩

end IsVisible

end RecordFilter.Text
