import Formicary.Brain.Instruction
import Formicary.Text.Blank
import Formicary.Text.Lines
import Formicary.Text.Lowercase
import Formicary.Text.Numeral

/-!
# Lines of a brain's source

A line holds one instruction: a comment after a semicolon, blanks at both ends and the case of
letters carry no meaning, and what remains is words with a single space between them. The first
two letters of a line pick the form that its words must have.
-/

namespace Formicary

open Text

namespace Instruction

/-- Read a number that fits a word of 32 bits: a state or a marker. -/
def numberOfWord? (word : String) : Option Nat := (word32? word.toList).map (·.toNat)

/-- Read a marker number of a single digit. -/
def digitOfWord? (word : String) : Option Nat :=
  match word.toList with
  | [c] => if c.isDigit then some (Nat.ofDigitChars 10 [c] 0) else none
  | _ => none

/-- Read the words of `sense`. The condition has two words if it is a marker, and one otherwise. -/
def senseOfWords? (words : List String) : Option Instruction :=
  match words with
  | ["sense", dir, onTrue, onFalse, cond] => do
    let cond ← Condition.ofName? cond
    return sense (← SenseDir.ofName? dir) cond (← numberOfWord? onTrue) (← numberOfWord? onFalse)
  | ["sense", dir, onTrue, onFalse, "marker", id] => do
    let cond := Condition.marker (← digitOfWord? id)
    return sense (← SenseDir.ofName? dir) cond (← numberOfWord? onTrue) (← numberOfWord? onFalse)
  | _ => none

/-- Read the words of `mark` or `unmark`. -/
def markOfWords? (words : List String) : Option Instruction :=
  match words with
  | ["mark", marker, next] => return mark (← numberOfWord? marker) (← numberOfWord? next)
  | ["unmark", marker, next] => return unmark (← numberOfWord? marker) (← numberOfWord? next)
  | _ => none

/-- Read the words of `pickup` or `move`, which go on in one of two states. -/
def branchOfWords? (words : List String) : Option Instruction :=
  match words with
  | ["pickup", onSuccess, onFail] =>
    return pickUp (← numberOfWord? onSuccess) (← numberOfWord? onFail)
  | ["move", onSuccess, onFail] => return move (← numberOfWord? onSuccess) (← numberOfWord? onFail)
  | _ => none

/-- Read the words of `drop`. -/
def dropOfWords? (words : List String) : Option Instruction :=
  match words with
  | ["drop", next] => return drop (← numberOfWord? next)
  | _ => none

/-- Read the words of `turn`. -/
def turnOfWords? (words : List String) : Option Instruction :=
  match words with
  | ["turn", side, next] => return turn (← Turn.ofName? side) (← numberOfWord? next)
  | _ => none

/-- Read the words of `flip`. -/
def flipOfWords? (words : List String) : Option Instruction :=
  match words with
  | ["flip", bound, onZero, otherwise] =>
    return flip (← word32? bound.toList) (← numberOfWord? onZero) (← numberOfWord? otherwise)
  | _ => none

/-- The words of a line: its pieces between single spaces, empty pieces included. -/
def wordsOfLine (line : List Char) : List String := (line.splitOn ' ').map String.ofList

/-- Read a line that is already in small letters and without comment. -/
def ofLine? (line : List Char) : Option Instruction :=
  match line with
  | 's' :: 'e' :: _ => senseOfWords? (wordsOfLine line)
  | 'm' :: 'a' :: _ => markOfWords? (wordsOfLine line)
  | 'u' :: 'n' :: _ => markOfWords? (wordsOfLine line)
  | 'p' :: 'i' :: _ => branchOfWords? (wordsOfLine line)
  | 'm' :: 'o' :: _ => branchOfWords? (wordsOfLine line)
  | 'd' :: 'r' :: _ => dropOfWords? (wordsOfLine line)
  | 't' :: 'u' :: _ => turnOfWords? (wordsOfLine line)
  | 'f' :: 'l' :: _ => flipOfWords? (wordsOfLine line)
  | _ => none

end Instruction

/-- What remains of a line without comment, without blanks at its ends, in small letters. -/
def cleanLine (line : List Char) : List Char := lowercase (trim (line.takeWhile (· ≠ ';')))

end Formicary
