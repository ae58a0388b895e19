import Formicary.Brain.Line
import Mathlib.Data.List.Basic

/-!
# The grammar of a line

What a line of a brain's source may say, without regard to how it is read: `Instruction.Worded`
lists the eight forms of an instruction word by word, and a line is `Instruction.Written` in the
grammar if it is the words of a form with one space between them. Reading a line finds the
instruction that is written there, and finds one only where one is written
(`Instruction.ofLine?_eq_some_iff`).
-/

namespace Formicary

open Text

/-- A word is a number: ASCII digits, with any number of leading zeros, whose value fits a word of
32 bits. -/
structure Numeral (word : String) (n : Nat) : Prop where
  /-- There is at least one digit. -/
  nonempty : word.toList ≠ []
  /-- There is nothing but digits. -/
  digits : ∀ c ∈ word.toList, c.isDigit = true
  /-- The digits have the value of the number. -/
  value : Nat.ofDigitChars 10 word.toList 0 = n
  /-- The number is in range. -/
  lt_size : n < UInt32.size

namespace Instruction

/-- The words of an instruction. -/
inductive Worded : List String → Instruction → Prop
  /-- `sense` with a condition of one word. -/
  | sense {first second : String} {onTrue onFalse : Nat} {cond : Condition} (dir : SenseDir)
      (hfirst : Numeral first onTrue) (hsecond : Numeral second onFalse)
      (hcond : cond ∈ Condition.plain) :
      Worded ("sense" :: dir.name :: first :: second :: cond.words) (.sense dir cond onTrue onFalse)
  /-- `sense` with a marker, which is given by a single digit. -/
  | senseMarker {first second : String} {onTrue onFalse : Nat} {digit : Char} (dir : SenseDir)
      (hfirst : Numeral first onTrue) (hsecond : Numeral second onFalse)
      (hdigit : digit.isDigit = true) :
      Worded ["sense", dir.name, first, second, "marker", String.singleton digit]
        (.sense dir (.marker (digit.toNat - '0'.toNat)) onTrue onFalse)
  /-- `mark`. -/
  | mark {first second : String} {marker next : Nat} (hfirst : Numeral first marker)
      (hsecond : Numeral second next) : Worded ["mark", first, second] (.mark marker next)
  /-- `unmark`. -/
  | unmark {first second : String} {marker next : Nat} (hfirst : Numeral first marker)
      (hsecond : Numeral second next) : Worded ["unmark", first, second] (.unmark marker next)
  /-- `pickup`. -/
  | pickUp {first second : String} {onSuccess onFail : Nat} (hfirst : Numeral first onSuccess)
      (hsecond : Numeral second onFail) :
      Worded ["pickup", first, second] (.pickUp onSuccess onFail)
  /-- `drop`. -/
  | drop {first : String} {next : Nat} (hfirst : Numeral first next) :
      Worded ["drop", first] (.drop next)
  /-- `turn`. -/
  | turn {first : String} {next : Nat} (side : Turn) (hfirst : Numeral first next) :
      Worded ["turn", side.name, first] (.turn side next)
  /-- `move`. -/
  | move {first second : String} {onSuccess onFail : Nat} (hfirst : Numeral first onSuccess)
      (hsecond : Numeral second onFail) : Worded ["move", first, second] (.move onSuccess onFail)
  /-- `flip`. -/
  | flip {first second third : String} {bound : UInt32} {onZero otherwise : Nat}
      (hfirst : Numeral first bound.toNat) (hsecond : Numeral second onZero)
      (hthird : Numeral third otherwise) :
      Worded ["flip", first, second, third] (.flip bound onZero otherwise)

/-- A line is an instruction of the grammar: its words with exactly one space between them. -/
def Written (line : List Char) (i : Instruction) : Prop :=
  ∃ words, Worded words i ∧ line = (" ".intercalate words).toList

end Instruction

/-! ### Words -/

namespace Text

/-- The words of 32 bits that are read are the numbers in range. -/
theorem word32?_eq_some_iff {word : String} {n : UInt32} :
    word32? word.toList = some n ↔ Numeral word n.toNat := by
  rw [word32?, naturalBelow?_eq, natural?]
  constructor
  · intro h
    obtain ⟨value, hvalue, rfl⟩ := Option.map_eq_some_iff.1 h
    obtain ⟨hnatural, hlt⟩ := Option.filter_eq_some_iff.1 hvalue
    obtain ⟨⟨hne, hall⟩, hsome⟩ := Option.ite_none_right_eq_some.1 hnatural
    obtain rfl := Option.some.inj hsome
    have hlt : Nat.ofDigitChars 10 word.toList 0 < UInt32.size := of_decide_eq_true hlt
    rw [UInt32.toNat_ofNat_of_lt' hlt]
    exact ⟨hne, List.all_eq_true.1 hall, rfl, hlt⟩
  · rintro ⟨hne, hall, hvalue, hlt⟩
    rw [if_pos ⟨hne, List.all_eq_true.2 hall⟩, hvalue, Option.filter_some,
      if_pos (decide_eq_true hlt), Option.map_some, UInt32.ofNat_toNat]

end Text

/-- The conditions that are listed as plain have one word. -/
theorem Condition.exists_words_eq {cond : Condition} (hcond : cond ∈ plain) :
    ∃ word, cond.words = [word] := by
  have hlength : ∀ c ∈ plain, c.words.length = 1 := by decide
  exact List.length_eq_one_iff.1 (hlength cond hcond)

/-- A condition of one word is found by that word. -/
theorem Condition.ofName?_eq_some_iff {word : String} {cond : Condition} :
    ofName? word = some cond ↔ cond ∈ plain ∧ cond.words = [word] := by
  have hunique : ∀ c ∈ plain, ofName? (c.words.headD "") = some c := by decide
  constructor
  · intro h
    exact ⟨List.mem_of_find?_eq_some h, by simpa using List.find?_some h⟩
  · rintro ⟨hmem, hword⟩
    simpa [hword] using hunique cond hmem

/-- A cell to be sensed is found by its name only. -/
theorem SenseDir.ofName?_eq_some_iff {word : String} {dir : SenseDir} :
    ofName? word = some dir ↔ word = dir.name := by
  constructor
  · intro h
    have hname := List.find?_some h
    exact (beq_iff_eq.1 hname).symm
  · rintro rfl
    exact ofName?_name dir

/-- A side is found by its name only. -/
theorem Turn.ofName?_eq_some_iff {word : String} {side : Turn} :
    ofName? word = some side ↔ word = side.name := by
  constructor
  · intro h
    have hname := List.find?_some h
    exact (beq_iff_eq.1 hname).symm
  · rintro rfl
    exact ofName?_name side

namespace Instruction

theorem numberOfWord?_eq_some_iff {word : String} {n : Nat} :
    numberOfWord? word = some n ↔ Numeral word n := by
  rw [numberOfWord?, Option.map_eq_some_iff]
  constructor
  · rintro ⟨value, hvalue, rfl⟩
    exact word32?_eq_some_iff.1 hvalue
  · intro h
    have hn : (UInt32.ofNat n).toNat = n := UInt32.toNat_ofNat_of_lt' h.lt_size
    exact ⟨UInt32.ofNat n, word32?_eq_some_iff.2 (hn.symm ▸ h), hn⟩

theorem digitOfWord?_eq_some_iff {word : String} {n : Nat} :
    digitOfWord? word = some n ↔
      ∃ c : Char, c.isDigit = true ∧ word = String.singleton c ∧ c.toNat - '0'.toNat = n := by
  have hvalue (c : Char) : Nat.ofDigitChars 10 [c] 0 = c.toNat - '0'.toNat := by
    simp [Nat.ofDigitChars]
  rw [digitOfWord?]
  constructor
  · intro h
    split at h
    next c hc =>
      obtain ⟨hdigit, hsome⟩ := Option.ite_none_right_eq_some.1 h
      obtain rfl := Option.some.inj hsome
      exact ⟨c, hdigit, String.toList_inj.1 (by simp [hc]), (hvalue c).symm⟩
    next => cases h
  · rintro ⟨c, hdigit, rfl, rfl⟩
    simp [hdigit, hvalue]

/-! ### Forms -/

variable {words : List String} {line : List Char} {i : Instruction}

theorem worded_of_sense (h : senseOfWords? words = some i) : Worded words i := by
  unfold senseOfWords? at h
  split at h
  next dir first second word =>
    simp only [Option.bind_eq_bind, Option.bind_eq_some_iff, Option.pure_def,
      Option.some.injEq, numberOfWord?_eq_some_iff, SenseDir.ofName?_eq_some_iff,
      Condition.ofName?_eq_some_iff] at h
    obtain ⟨cond, ⟨hcond, hword⟩, dir, rfl, onTrue, hfirst, onFalse, hsecond, rfl⟩ := h
    rw [← hword]
    exact .sense dir hfirst hsecond hcond
  next dir first second digit =>
    simp only [Option.bind_eq_bind, Option.bind_eq_some_iff, Option.pure_def,
      Option.some.injEq, numberOfWord?_eq_some_iff, SenseDir.ofName?_eq_some_iff,
      digitOfWord?_eq_some_iff] at h
    obtain ⟨marker, ⟨digit, hdigit, rfl, rfl⟩, dir, rfl, onTrue, hfirst, onFalse, hsecond, rfl⟩ := h
    exact .senseMarker dir hfirst hsecond hdigit
  next => cases h

theorem worded_of_mark (h : markOfWords? words = some i) : Worded words i := by
  unfold markOfWords? at h
  split at h
  next first second =>
    simp only [Option.bind_eq_bind, Option.bind_eq_some_iff, Option.pure_def,
      Option.some.injEq, numberOfWord?_eq_some_iff] at h
    obtain ⟨marker, hfirst, next, hsecond, rfl⟩ := h
    exact .mark hfirst hsecond
  next first second =>
    simp only [Option.bind_eq_bind, Option.bind_eq_some_iff, Option.pure_def,
      Option.some.injEq, numberOfWord?_eq_some_iff] at h
    obtain ⟨marker, hfirst, next, hsecond, rfl⟩ := h
    exact .unmark hfirst hsecond
  next => cases h

theorem worded_of_branch (h : branchOfWords? words = some i) : Worded words i := by
  unfold branchOfWords? at h
  split at h
  next first second =>
    simp only [Option.bind_eq_bind, Option.bind_eq_some_iff, Option.pure_def,
      Option.some.injEq, numberOfWord?_eq_some_iff] at h
    obtain ⟨onSuccess, hfirst, onFail, hsecond, rfl⟩ := h
    exact .pickUp hfirst hsecond
  next first second =>
    simp only [Option.bind_eq_bind, Option.bind_eq_some_iff, Option.pure_def,
      Option.some.injEq, numberOfWord?_eq_some_iff] at h
    obtain ⟨onSuccess, hfirst, onFail, hsecond, rfl⟩ := h
    exact .move hfirst hsecond
  next => cases h

theorem worded_of_drop (h : dropOfWords? words = some i) : Worded words i := by
  unfold dropOfWords? at h
  split at h
  next first =>
    simp only [Option.bind_eq_bind, Option.bind_eq_some_iff, Option.pure_def,
      Option.some.injEq, numberOfWord?_eq_some_iff] at h
    obtain ⟨next, hfirst, rfl⟩ := h
    exact .drop hfirst
  next => cases h

theorem worded_of_turn (h : turnOfWords? words = some i) : Worded words i := by
  unfold turnOfWords? at h
  split at h
  next side first =>
    simp only [Option.bind_eq_bind, Option.bind_eq_some_iff, Option.pure_def,
      Option.some.injEq, numberOfWord?_eq_some_iff, Turn.ofName?_eq_some_iff] at h
    obtain ⟨side, rfl, next, hfirst, rfl⟩ := h
    exact .turn side hfirst
  next => cases h

theorem worded_of_flip (h : flipOfWords? words = some i) : Worded words i := by
  unfold flipOfWords? at h
  split at h
  next first second third =>
    simp only [Option.bind_eq_bind, Option.bind_eq_some_iff, Option.pure_def,
      Option.some.injEq, numberOfWord?_eq_some_iff, word32?_eq_some_iff] at h
    obtain ⟨bound, hfirst, onZero, hsecond, otherwise, hthird, rfl⟩ := h
    exact .flip hfirst hsecond hthird
  next => cases h

/-- What a line is read as is worded by the pieces of the line between spaces. -/
theorem worded_of_ofLine? (h : ofLine? line = some i) : Worded (wordsOfLine line) i := by
  unfold ofLine? at h
  split at h
  · exact worded_of_sense h
  · exact worded_of_mark h
  · exact worded_of_mark h
  · exact worded_of_branch h
  · exact worded_of_branch h
  · exact worded_of_drop h
  · exact worded_of_turn h
  · exact worded_of_flip h
  · cases h

/-- A line is its pieces between spaces. -/
theorem intercalate_wordsOfLine (line : List Char) :
    (" ".intercalate (wordsOfLine line)).toList = line := by
  rw [String.toList_intercalate, wordsOfLine, List.map_map]
  have hid : String.toList ∘ String.ofList = id := funext fun _ => String.toList_ofList
  rw [hid, List.map_id]
  exact List.intercalate_splitOn ' '

/-- Words without spaces are the pieces of the line that they make up. -/
theorem wordsOfLine_intercalate (hne : words ≠ []) (h : ∀ word ∈ words, ' ' ∉ word.toList) :
    wordsOfLine (" ".intercalate words).toList = words := by
  have hspace : " ".toList = [' '] := rfl
  rw [wordsOfLine, String.toList_intercalate, hspace,
    List.splitOn_intercalate _ (by simpa using h) (by simpa using hne), List.map_map]
  have hid : String.ofList ∘ String.toList = id := funext fun _ => String.ofList_toList
  rw [hid, List.map_id]

/-- The characters that the words of an instruction consist of: small letters and digits. -/
def isWordChar (c : Char) : Bool := c.isLower || c.isDigit

/-- One or more small letters and digits. -/
def IsWord (word : String) : Prop := word.toList ≠ [] ∧ ∀ c ∈ word.toList, isWordChar c = true

instance : DecidablePred IsWord := fun word =>
  decidable_of_iff (word.toList ≠ [] ∧ word.toList.all isWordChar = true)
    (by rw [IsWord, List.all_eq_true])

theorem isWord_of_numeral {word : String} {n : Nat} (h : Numeral word n) : IsWord word :=
  ⟨h.nonempty, fun c hc => by rw [isWordChar, h.digits c hc, Bool.or_true]⟩

/-- The words of an instruction are words. -/
theorem Worded.isWord (h : Worded words i) : ∀ word ∈ words, IsWord word := by
  -- Keywords and names are a finite number of words, and the rest are numbers.
  have hkeyword : ∀ word ∈ ["sense", "marker", "mark", "unmark", "pickup", "drop", "turn", "move",
      "flip"], IsWord word := by
    decide
  have hdir (dir : SenseDir) : IsWord dir.name := by cases dir <;> decide
  have hside (side : Turn) : IsWord side.name := by cases side <;> decide
  have hplain : ∀ cond ∈ Condition.plain, ∀ word ∈ cond.words, IsWord word := by
    decide
  cases h with
  | sense dir hfirst hsecond hcond =>
    simp only [List.forall_mem_cons]
    exact ⟨hkeyword _ (by decide), hdir dir, isWord_of_numeral hfirst, isWord_of_numeral hsecond,
      hplain _ hcond⟩
  | @senseMarker _ _ _ _ digit dir hfirst hsecond hdigit =>
    have hsingle : IsWord (String.singleton digit) := by simp [IsWord, isWordChar, hdigit]
    simp only [List.forall_mem_cons, List.not_mem_nil, false_implies, implies_true, and_true]
    exact ⟨hkeyword _ (by decide), hdir dir, isWord_of_numeral hfirst, isWord_of_numeral hsecond,
      hkeyword _ (by decide), hsingle⟩
  | mark hfirst hsecond | unmark hfirst hsecond | pickUp hfirst hsecond | move hfirst hsecond =>
    simp only [List.forall_mem_cons, List.not_mem_nil, false_implies, implies_true, and_true]
    exact ⟨hkeyword _ (by decide), isWord_of_numeral hfirst, isWord_of_numeral hsecond⟩
  | drop hfirst =>
    simp only [List.forall_mem_cons, List.not_mem_nil, false_implies, implies_true, and_true]
    exact ⟨hkeyword _ (by decide), isWord_of_numeral hfirst⟩
  | turn side hfirst =>
    simp only [List.forall_mem_cons, List.not_mem_nil, false_implies, implies_true, and_true]
    exact ⟨hkeyword _ (by decide), hside side, isWord_of_numeral hfirst⟩
  | flip hfirst hsecond hthird =>
    simp only [List.forall_mem_cons, List.not_mem_nil, false_implies, implies_true, and_true]
    exact ⟨hkeyword _ (by decide), isWord_of_numeral hfirst, isWord_of_numeral hsecond,
      isWord_of_numeral hthird⟩

/-- Every instruction has a first word. -/
theorem Worded.ne_nil (h : Worded words i) : words ≠ [] := by
  cases h <;> exact List.cons_ne_nil _ _

/-- A line begins with its first word. -/
theorem exists_intercalate_cons (word : String) (words : List String) :
    ∃ rest, (" ".intercalate (word :: words)).toList = word.toList ++ rest := by
  rw [String.toList_intercalate, List.map_cons]
  cases words with
  | nil => exact ⟨[], by simp⟩
  | cons next words =>
    rw [List.intercalate_cons_of_ne_nil (by simp), List.append_assoc]
    exact ⟨_, rfl⟩

/-- A line whose first word picks a reader is what that reader makes of its words. -/
theorem ofLine?_intercalate (read : List String → Option Instruction) (word : String)
    (hread : ∀ rest, ofLine? (word.toList ++ rest) = read (wordsOfLine (word.toList ++ rest)))
    (hspace : ∀ w ∈ word :: words, ' ' ∉ w.toList) :
    ofLine? (" ".intercalate (word :: words)).toList = read (word :: words) := by
  obtain ⟨rest, hline⟩ := exists_intercalate_cons word words
  have hwords := wordsOfLine_intercalate (List.cons_ne_nil _ _) hspace
  rw [hline] at hwords ⊢
  rw [hread, hwords]

/-- The words of an instruction are read as that instruction. -/
theorem ofLine?_of_worded (h : Worded words i) :
    ofLine? (" ".intercalate words).toList = some i := by
  have hspace : ∀ word ∈ words, ' ' ∉ word.toList := fun word hword hmem =>
    absurd ((h.isWord word hword).2 ' ' hmem) (by decide)
  -- The first word picks a reader, and the reader makes the instruction of the words.
  cases h with
  | @sense _ _ _ _ cond dir hfirst hsecond hcond =>
    obtain ⟨word, hword⟩ := Condition.exists_words_eq hcond
    rw [ofLine?_intercalate senseOfWords? "sense" (fun _ => rfl) hspace, hword]
    simp [senseOfWords?, numberOfWord?_eq_some_iff.2 hfirst, numberOfWord?_eq_some_iff.2 hsecond,
      Condition.ofName?_eq_some_iff.2 ⟨hcond, hword⟩]
  | senseMarker dir hfirst hsecond hdigit =>
    rw [ofLine?_intercalate senseOfWords? "sense" (fun _ => rfl) hspace]
    simp [senseOfWords?, numberOfWord?_eq_some_iff.2 hfirst, numberOfWord?_eq_some_iff.2 hsecond,
      digitOfWord?_eq_some_iff.2 ⟨_, hdigit, rfl, rfl⟩]
  | mark hfirst hsecond =>
    rw [ofLine?_intercalate markOfWords? "mark" (fun _ => rfl) hspace]
    simp [markOfWords?, numberOfWord?_eq_some_iff.2 hfirst, numberOfWord?_eq_some_iff.2 hsecond]
  | unmark hfirst hsecond =>
    rw [ofLine?_intercalate markOfWords? "unmark" (fun _ => rfl) hspace]
    simp [markOfWords?, numberOfWord?_eq_some_iff.2 hfirst, numberOfWord?_eq_some_iff.2 hsecond]
  | pickUp hfirst hsecond =>
    rw [ofLine?_intercalate branchOfWords? "pickup" (fun _ => rfl) hspace]
    simp [branchOfWords?, numberOfWord?_eq_some_iff.2 hfirst, numberOfWord?_eq_some_iff.2 hsecond]
  | drop hfirst =>
    rw [ofLine?_intercalate dropOfWords? "drop" (fun _ => rfl) hspace]
    simp [dropOfWords?, numberOfWord?_eq_some_iff.2 hfirst]
  | turn side hfirst =>
    rw [ofLine?_intercalate turnOfWords? "turn" (fun _ => rfl) hspace]
    simp [turnOfWords?, numberOfWord?_eq_some_iff.2 hfirst]
  | move hfirst hsecond =>
    rw [ofLine?_intercalate branchOfWords? "move" (fun _ => rfl) hspace]
    simp [branchOfWords?, numberOfWord?_eq_some_iff.2 hfirst, numberOfWord?_eq_some_iff.2 hsecond]
  | flip hfirst hsecond hthird =>
    rw [ofLine?_intercalate flipOfWords? "flip" (fun _ => rfl) hspace]
    simp [flipOfWords?, word32?_eq_some_iff.2 hfirst, numberOfWord?_eq_some_iff.2 hsecond,
      numberOfWord?_eq_some_iff.2 hthird]

/-- A line is read as an instruction if and only if it is written as that instruction. -/
theorem ofLine?_eq_some_iff : ofLine? line = some i ↔ Written line i := by
  constructor
  · exact fun h => ⟨_, worded_of_ofLine? h, (intercalate_wordsOfLine line).symm⟩
  · rintro ⟨words, hwords, rfl⟩
    exact ofLine?_of_worded hwords

end Instruction

end Formicary
