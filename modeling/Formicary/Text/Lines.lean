/-!
# Lines

A text is a sequence of lines, ended by a line feed, a carriage return, or a carriage return
followed by a line feed. `lines` cuts a text into its lines, whichever of the three ends it uses.
-/

namespace Formicary.Text

/-- Put one more character in front of a text that has line feeds for line ends, where `next` is
the character that followed in the source: a carriage return disappears in front of a line feed
and stands for a line feed otherwise. The character itself is handed on as the next `next`. -/
def newlineStep (c : Char) : Option Char × List Char → Option Char × List Char
  | (next, out) =>
    (some c,
      if c = '\r' then (if next = some '\n' then out else '\n' :: out) else c :: out)

/-- Write every line end as a line feed. -/
def normalizeNewlines (s : List Char) : List Char :=
  (s.foldr newlineStep (none, [])).2

/-- The lines of a text, without their ends. A text that ends with a line end has an empty last
line. -/
def lines (s : List Char) : List (List Char) := (normalizeNewlines s).splitOn '\n'

/-- The first component of the fold over line ends is the first character of the text. -/
theorem foldr_newlineStep_fst (s : List Char) :
    (s.foldr newlineStep (none, [])).1 = s.head? := by
  cases s <;> rfl

/-- Line ends are written one character at a time, with one character of foresight. -/
theorem normalizeNewlines_cons (c : Char) (s : List Char) :
    normalizeNewlines (c :: s) =
      if c = '\r' then
        (if s.head? = some '\n' then normalizeNewlines s else '\n' :: normalizeNewlines s)
      else c :: normalizeNewlines s := by
  simp only [normalizeNewlines, List.foldr_cons, newlineStep, foldr_newlineStep_fst]

end Formicary.Text
