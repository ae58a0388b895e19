/-!
# Numerals

Decimal numbers as they are written in brains, worlds and on the command line: ASCII digits, any
number of leading zeros, and a limit on the value.
-/

namespace Formicary.Text

/-- Read an unsigned numeral: one or more digits and nothing else. -/
def natural? (s : List Char) : Option Nat :=
  if s ≠ [] ∧ s.all Char.isDigit then some (Nat.ofDigitChars 10 s 0) else none

/-- The text after a sign, if it begins with that sign, and the whole text otherwise. -/
def dropSign (sign : Char) (s : List Char) : List Char := if s.head? = some sign then s.tail else s

/-- The value of decimal digits, or the limit if the value is not below the limit. Numerals may be
long, and the value never grows beyond the limit while they are read. -/
def valueUpTo (limit : Nat) (digits : List Char) : Nat :=
  digits.foldl (fun value c => min limit (10 * value + (c.toNat - '0'.toNat))) 0

/-- Read an unsigned numeral whose value is below a limit. -/
def naturalBelow? (limit : Nat) (s : List Char) : Option Nat :=
  if s ≠ [] ∧ s.all Char.isDigit ∧ valueUpTo limit s < limit then some (valueUpTo limit s) else none

/-- Read an unsigned numeral that fits a word of 32 bits. -/
def word32? (s : List Char) : Option UInt32 := (naturalBelow? UInt32.size s).map UInt32.ofNat

/-- Read an unsigned numeral below `2 ^ 64`; one plus sign may stand in front. -/
def count? (s : List Char) : Option Nat := naturalBelow? UInt64.size (dropSign '+' s)

/-- The number of negative values of a signed word of 64 bits. -/
def signedLimit : Nat := 0x8000000000000000

/-- Read a numeral that may carry a plus or a minus sign and fits a signed word of 64 bits. -/
def signed? (s : List Char) : Option Int :=
  if s.head? = some '-' then
    -- There is one more negative number than there are positive ones.
    (naturalBelow? (signedLimit + 1) s.tail).map fun n => -(n : Int)
  else (naturalBelow? signedLimit (dropSign '+' s)).map fun n => (n : Int)

/-- A printed number is read back as itself. -/
theorem natural?_toString (n : Nat) : natural? (toString n).toList = some n := by
  have hne : Nat.toDigits 10 n ≠ [] := Nat.toDigits_ne_nil
  have hall : (Nat.toDigits 10 n).all Char.isDigit = true :=
    List.all_eq_true.2 fun _ hc => Nat.isDigit_of_mem_toDigits (by decide) (by decide) hc
  rw [Nat.toString_eq_ofList_toDigits, String.toList_ofList, natural?, if_pos ⟨hne, hall⟩,
    Nat.ofDigitChars_toDigits (by decide) (by decide)]

/-- Keeping the value at the limit while digits are read comes to the same as limiting it once
they are read. -/
theorem foldl_min_eq (limit : Nat) (digits : List Char) (n : Nat) :
    digits.foldl (fun value c => min limit (10 * value + (c.toNat - '0'.toNat))) (min limit n) =
      min limit (Nat.ofDigitChars 10 digits n) := by
  induction digits generalizing n with
  | nil => rfl
  | cons c digits ih =>
    -- A value that has reached the limit stays there, whatever digits follow.
    have hstep : min limit (10 * min limit n + (c.toNat - '0'.toNat)) =
        min limit (10 * n + (c.toNat - '0'.toNat)) := by omega
    rw [List.foldl_cons, hstep, ih]
    rfl

/-- The limited value of digits is their value or the limit, whichever is less. -/
theorem valueUpTo_eq (limit : Nat) (digits : List Char) :
    valueUpTo limit digits = min limit (Nat.ofDigitChars 10 digits 0) := by
  rw [← foldl_min_eq, Nat.min_zero, valueUpTo]

/-- The numerals read are those whose value is below the limit. -/
theorem naturalBelow?_eq (limit : Nat) (s : List Char) :
    naturalBelow? limit s = (natural? s).filter (· < limit) := by
  rw [naturalBelow?, natural?, valueUpTo_eq]
  by_cases hs : s ≠ [] ∧ s.all Char.isDigit
  · rw [if_pos hs]
    by_cases hlt : Nat.ofDigitChars 10 s 0 < limit
    · rw [Nat.min_eq_right (Nat.le_of_lt hlt), if_pos ⟨hs.1, hs.2, hlt⟩]
      rw [Option.filter_some, if_pos (by simpa using hlt)]
    · rw [Nat.min_eq_left (Nat.le_of_not_lt hlt), if_neg fun h => Nat.lt_irrefl _ h.2.2]
      rw [Option.filter_some, if_neg (by simpa using hlt)]
  · rw [if_neg hs, if_neg fun h => hs ⟨h.1, h.2.1⟩]
    rfl

end Formicary.Text
