import Formicary.Text.CaseTable

/-!
# Lower case

Writing a text in small letters, for all scripts with letter case. A capital letter has one small
letter, but for two exceptions: the capital I with a dot becomes an i and a separate dot, and the
capital sigma becomes a final sigma at the end of a word and a plain one elsewhere.
-/

namespace Formicary.Text

/-- Whether a character is a letter with case. -/
def isCased (c : Char) : Bool := inRanges casedRanges c.toNat

/-- Whether a character is passed over when the end of a word is looked for. -/
def isCaseIgnorable (c : Char) : Bool := inRanges caseIgnorableRanges c.toNat

/-- A character in small letters, wherever it stands. -/
def lowerChar (c : Char) : List Char :=
  if c.toNat < 0x80 then [c.toLower]
  else if c = '\u0130' then ['i', '\u0307']
  else match caseRuns.find? (·.covers c.toNat) with
    | some run => [Char.ofNat (c.toNat + run.shift).toNat]
    | none => [c]

/-- Whether the first character that is not passed over is a letter with case. -/
def continuesWord (s : List Char) : Bool :=
  match s.dropWhile isCaseIgnorable with
  | c :: _ => isCased c
  | [] => false

/-- Write a text in small letters after `out`, which is reversed; `inWord` tells whether the last
character written that is not passed over is a letter with case. -/
def lowercaseInto (out : List Char) (inWord : Bool) : List Char → List Char
  | [] => out.reverse
  | c :: rest =>
    -- A sigma is final where the word ends behind it, but not where it is a word by itself.
    let small :=
      if c = 'Σ' then (if inWord && !continuesWord rest then ['ς'] else ['σ']) else lowerChar c
    lowercaseInto (small.reverse ++ out) (if isCaseIgnorable c then inWord else isCased c) rest

/-- Write a text in small letters. -/
def lowercase (s : List Char) : List Char := lowercaseInto [] false s

end Formicary.Text
