/-!
# Colours

The two colonies of a game are told apart by colour.
-/

namespace Formicary

/-- The colour of a colony, of its ants, its hill and its markers. -/
inductive Color where
  /-- The colony that is listed first. -/
  | red
  /-- The colony that is listed second. -/
  | black
  deriving DecidableEq

namespace Color

/-- Both colours, red first: the order in which colonies are listed and checked. -/
def all : List Color := [red, black]

/-- The opposing colour. -/
def other : Color → Color
  | red => black
  | black => red

/-- The colour as a word. -/
def name : Color → String
  | red => "red"
  | black => "black"

/-- The opposing colour of the opposing colour is the colour itself. -/
@[simp]
theorem other_other (c : Color) : c.other.other = c := by
  cases c <;> rfl

/-- No colour opposes itself. -/
theorem other_ne (c : Color) : c.other ≠ c := by
  cases c <;> decide

/-- There are but two colours. -/
theorem eq_of_ne_of_ne {a b c : Color} (hab : a ≠ b) (hcb : c ≠ b) : a = c := by
  cases a <;> cases b <;> cases c <;> simp_all

end Color

end Formicary
