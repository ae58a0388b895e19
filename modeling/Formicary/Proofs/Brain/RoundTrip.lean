import Formicary.Proofs.Brain.Reference
import Mathlib.Data.List.TakeWhile

/-!
# Printing and compiling brains

The canonical source of a valid brain is compiled to that brain, and every brain that is compiled
from any source is valid. So a brain and its canonical source say the same
(`Brain.compile_text_inverse`).

The words of an instruction are words of the grammar (`Instruction.worded_words`), and a line made
of such words is left as it is when it is cleaned (`Instruction.cleanLine_text`): it has no
comment, no blanks at its ends and no capital letters.
-/

namespace Formicary

open Text

namespace Text

variable {s : List Char}

/-- Plain ASCII text without capital letters is in small letters already. -/
theorem lowercase_eq_self (h : ∀ c ∈ s, c.toNat < 0x80 ∧ c.toLower = c) : lowercase s = s := by
  have hinto (out : List Char) (inWord : Bool) : lowercaseInto out inWord s = out.reverse ++ s := by
    induction s generalizing out inWord with
    | nil => simp [lowercaseInto]
    | cons c s ih =>
      obtain ⟨hascii, hlower⟩ := h c List.mem_cons_self
      have hsigma : c ≠ 'Σ' := by
        rintro rfl
        exact absurd hascii (by decide)
      have hsmall : lowerChar c = [c] := by rw [lowerChar, if_pos hascii, hlower]
      rw [lowercaseInto]
      simp only [if_neg hsigma, hsmall]
      rw [ih fun c' hc' => h c' (List.mem_cons_of_mem c hc')]
      simp
  exact hinto [] false

/-- A printed number is a number. -/
theorem numeral_toString {n : Nat} (hn : n < UInt32.size) : Numeral (toString n) n := by
  have hread := natural?_toString n
  rw [natural?] at hread
  obtain ⟨⟨hne, hall⟩, hvalue⟩ := Option.ite_none_right_eq_some.1 hread
  exact ⟨hne, List.all_eq_true.1 hall, Option.some.inj hvalue, hn⟩

/-- A number of one digit is printed as that digit. -/
theorem toString_eq_singleton {n : Nat} (hn : n < 10) :
    toString n = String.singleton (Nat.digitChar n) := by
  rw [Nat.toString_eq_ofList_toDigits, Nat.toDigits_of_lt_base hn]
  exact String.toList_inj.1 (by simp)

end Text

namespace Instruction

variable {i : Instruction} {words : List String}

/-! ### Lines of the canonical source -/

/-- The words of an instruction whose numbers are in range are its words in the grammar. -/
theorem worded_words (htargets : ∀ target ∈ i.targets, target < UInt32.size)
    (hmarker : ∀ id, i.marker? = some id → id < markerCount) : Worded i.words i := by
  have hmarker' : ∀ id, i.marker? = some id → id < UInt32.size := fun id hid =>
    Nat.lt_trans (hmarker id hid) (by decide)
  cases i with
  | sense dir cond onTrue onFalse =>
    have hfirst := numeral_toString (htargets onTrue (by simp [targets]))
    have hsecond := numeral_toString (htargets onFalse (by simp [targets]))
    by_cases hplain : cond ∈ Condition.plain
    · exact .sense dir hfirst hsecond hplain
    · cases cond with
      | marker id =>
        -- Markers that exist have a single digit.
        have hdigit : ∀ id < markerCount, (Nat.digitChar id).isDigit = true ∧
            (Nat.digitChar id).toNat - '0'.toNat = id := by decide
        have hid := hmarker id rfl
        have hworded := Worded.senseMarker dir hfirst hsecond (hdigit id hid).1
        rw [(hdigit id hid).2, ← toString_eq_singleton (Nat.lt_trans hid (by decide))] at hworded
        exact hworded
      | _ => exact absurd (by decide) hplain
  | mark marker next =>
    exact .mark (numeral_toString (hmarker' marker rfl))
      (numeral_toString (htargets next (by simp [targets])))
  | unmark marker next =>
    exact .unmark (numeral_toString (hmarker' marker rfl))
      (numeral_toString (htargets next (by simp [targets])))
  | pickUp onSuccess onFail =>
    exact .pickUp (numeral_toString (htargets onSuccess (by simp [targets])))
      (numeral_toString (htargets onFail (by simp [targets])))
  | drop next => exact .drop (numeral_toString (htargets next (by simp [targets])))
  | turn side next => exact .turn side (numeral_toString (htargets next (by simp [targets])))
  | move onSuccess onFail =>
    exact .move (numeral_toString (htargets onSuccess (by simp [targets])))
      (numeral_toString (htargets onFail (by simp [targets])))
  | flip bound onZero otherwise =>
    exact .flip (numeral_toString bound.toNat_lt)
      (numeral_toString (htargets onZero (by simp [targets])))
      (numeral_toString (htargets otherwise (by simp [targets])))

/-- A small letter or digit is no capital and no blank, begins no comment and ends no line. -/
theorem isWordChar_spec {c : Char} (h : isWordChar c = true) :
    c.toNat < 0x80 ∧ c.toLower = c ∧ isBlank c = false ∧ c ≠ ';' ∧ c ≠ '\n' ∧ c ≠ '\r' := by
  have hall : ∀ n < 0x80, isWordChar (Char.ofNat n) = true → (Char.ofNat n).toLower = Char.ofNat n ∧
      isBlank (Char.ofNat n) = false ∧ Char.ofNat n ≠ ';' ∧ Char.ofNat n ≠ '\n' ∧
      Char.ofNat n ≠ '\r' := by
    decide
  have hascii : c.toNat < 0x80 := by
    rcases (Bool.or_eq_true_iff ..).1 h with hlower | hdigit
    · have hle : c.val ≤ 'z'.val := of_decide_eq_true (Bool.and_eq_true_iff.1 hlower).2
      exact Nat.lt_of_le_of_lt (UInt32.le_iff_toNat_le.1 hle) (by decide)
    · have hle : c.val ≤ '9'.val := of_decide_eq_true (Bool.and_eq_true_iff.1 hdigit).2
      exact Nat.lt_of_le_of_lt (UInt32.le_iff_toNat_le.1 hle) (by decide)
  have hspec := hall c.toNat hascii
  rw [Char.ofNat_toNat] at hspec
  exact ⟨hascii, hspec h⟩

/-- A line made of words consists of the characters of words and of spaces. -/
theorem mem_line {line : List Char} (h : ∀ word ∈ words, IsWord word)
    (hline : line = (" ".intercalate words).toList) {c : Char} (hc : c ∈ line) :
    c = ' ' ∨ isWordChar c = true := by
  have hspace : " ".toList = [' '] := rfl
  rw [hline, String.toList_intercalate, hspace] at hc
  obtain heq | ⟨piece, hpiece, hmem⟩ := eq_or_mem_of_mem_intercalate hc
  · exact .inl heq
  · obtain ⟨word, hword, rfl⟩ := List.mem_map.1 hpiece
    exact .inr ((h word hword).2 c hmem)

/-- Cleaning a line that is made of words leaves it as it is. -/
theorem cleanLine_eq_self {line : List Char} (hne : words ≠ []) (h : ∀ word ∈ words, IsWord word)
    (hline : line = (" ".intercalate words).toList) : cleanLine line = line := by
  have hchar {c : Char} (hc : c ∈ line) : c.toNat < 0x80 ∧ c.toLower = c ∧ c ≠ ';' := by
    obtain rfl | hword := mem_line h hline hc
    · decide
    · obtain ⟨hascii, hlower, -, hcomment, -⟩ := isWordChar_spec hword
      exact ⟨hascii, hlower, hcomment⟩
  have hpieces : words.map String.toList ≠ [] := by simpa using hne
  have hfull : ∀ piece ∈ words.map String.toList, piece ≠ [] := by
    intro piece hpiece
    obtain ⟨word, hword, rfl⟩ := List.mem_map.1 hpiece
    exact (h word hword).1
  have hblank {c : Char} {piece : List Char} (hpiece : piece ∈ words.map String.toList)
      (hc : c ∈ piece) : isBlank c = false := by
    obtain ⟨word, hword, rfl⟩ := List.mem_map.1 hpiece
    exact (isWordChar_spec ((h word hword).2 c hc)).2.2.1
  have hspace : " ".toList = [' '] := rfl
  -- No step of the cleaning finds anything to do: no character begins a comment, words stand at
  -- both ends, and all letters are small.
  have hcut : line.takeWhile (· ≠ ';') = line := by
    rw [List.takeWhile_eq_self_iff]
    exact fun c hc => decide_eq_true (hchar hc).2.2
  have htrim : trim line = line := by
    rw [hline, String.toList_intercalate, hspace]
    refine trim_eq_self (fun c hc => ?_) fun c hc => ?_
    · obtain ⟨piece, hpiece, heq⟩ := exists_head?_intercalate hpieces hfull
      rw [heq] at hc
      exact hblank hpiece (List.mem_of_head? hc)
    · obtain ⟨piece, hpiece, heq⟩ := exists_getLast?_intercalate hpieces hfull
      rw [heq] at hc
      exact hblank hpiece (List.mem_of_getLast? hc)
  rw [cleanLine, hcut, htrim, lowercase_eq_self fun c hc => ⟨(hchar hc).1, (hchar hc).2.1⟩]

/-- A printed line has content, ends no line, and is left as it is when it is cleaned. -/
theorem cleanLine_text (h : Worded i.words i) :
    cleanLine i.text.toList = i.text.toList ∧ i.text.toList ≠ [] ∧ '\n' ∉ i.text.toList ∧
      '\r' ∉ i.text.toList := by
  have hend {c : Char} (hc : c ∈ i.text.toList) : c ≠ '\n' ∧ c ≠ '\r' := by
    obtain rfl | hword := mem_line h.isWord rfl hc
    · decide
    · exact (isWordChar_spec hword).2.2.2.2
  refine ⟨cleanLine_eq_self h.ne_nil h.isWord rfl, ?_, fun hc => (hend hc).1 rfl,
    fun hc => (hend hc).2 rfl⟩
  -- Already the first word has content.
  obtain ⟨word, rest, hwords⟩ := List.exists_cons_of_ne_nil h.ne_nil
  obtain ⟨tail, hline⟩ := exists_intercalate_cons word rest
  rw [text, hwords, hline]
  exact List.append_ne_nil_of_left_ne_nil (h.isWord word (by simp [hwords])).1 tail

end Instruction

namespace Brain

open Instruction

variable {brain : Brain} {source : String}

/-! ### The canonical source of a brain -/

/-- The instructions of a valid brain are printed in the words of the grammar. -/
theorem Valid.worded (h : brain.Valid) {i : Instruction} (hi : i ∈ brain.instructions) :
    Worded i.words i := by
  obtain ⟨-, hroom, hsound⟩ := h
  obtain ⟨htargets, hmarker⟩ := hsound i hi
  have hsize : brain.size < UInt32.size := Nat.lt_of_le_of_lt hroom (by decide)
  exact worded_words (fun target htarget => Nat.lt_trans (htargets target htarget) hsize) hmarker

/-- The lines with content of the canonical source are the instructions, each on the line with the
number of its state, counted from one. -/
theorem content_text (h : brain.Valid) :
    content brain.text = (brain.instructions.toList.map (·.text.toList)).zipIdx 1 := by
  have hline (i : Instruction) (hi : i ∈ brain.instructions.toList) :=
    cleanLine_text (h.worded (Array.mem_toList_iff.1 hi))
  have hne : brain.instructions.toList.map (·.text.toList) ≠ [] := by
    have hpos : 0 < brain.instructions.size := h.1
    exact List.ne_nil_of_length_pos (by simpa using hpos)
  have hreturn : "\n".toList = ['\n'] := rfl
  have hlines : lines brain.text.toList = brain.instructions.toList.map (·.text.toList) := by
    rw [Brain.text, String.toList_intercalate, hreturn, List.map_map]
    refine lines_intercalate hne fun l hl => ?_
    obtain ⟨i, hi, rfl⟩ := List.mem_map.1 hl
    exact (hline i hi).2.2
  have hclean : (brain.instructions.toList.map (·.text.toList)).map cleanLine =
      brain.instructions.toList.map (·.text.toList) := by
    rw [List.map_map]
    exact List.map_congr_left fun i hi => (hline i hi).1
  rw [content_eq, hlines, hclean, List.filter_eq_self]
  intro line hmem
  obtain ⟨i, hi, heq⟩ := List.mem_map.1 (List.fst_mem_of_mem_zipIdx hmem)
  rw [← heq]
  exact decide_eq_true (hline i hi).2.1

/-- The canonical source of a valid brain is compiled to that brain. -/
theorem compile_text (h : brain.Valid) : compile brain.text = .ok brain := by
  let entries : List Entry := (brain.instructions.toList.zipIdx 1).map fun (i, line) => ⟨line, i⟩
  have hcontent : List.Forall₂ Entry.StandsFor entries (content brain.text) := by
    rw [content_text h, List.zipIdx_map, List.forall₂_map_left_iff, List.forall₂_map_right_iff,
      List.forall₂_same]
    rintro ⟨i, line⟩ hmem
    have hi := Array.mem_toList_iff.1 (List.fst_mem_of_mem_zipIdx hmem)
    exact ⟨rfl, i.words, h.worded hi, rfl⟩
  have hsize : brain.size = (content brain.text).length := by
    simp [content_text h, Brain.size]
  have hinstructions : (entries.map (·.instruction)).toArray = brain.instructions := by
    simp [entries, Function.comp_def]
  have hsound : ∀ e ∈ entries, e.Sound brain.size := by
    intro e he
    obtain ⟨⟨i, line⟩, hmem, rfl⟩ := List.mem_map.1 he
    exact h.2.2 i (Array.mem_toList_iff.1 (List.fst_mem_of_mem_zipIdx hmem))
  have houtcome := Outcome.compiled hcontent hsize h.1 h.2.1 hsound
  rw [houtcome.compile_eq, hinstructions]

/-- Every brain that is compiled is valid. -/
theorem valid_of_compile (h : compile source = .ok brain) : brain.Valid := by
  have houtcome := outcome_compile source
  rw [h] at houtcome
  cases houtcome with
  | @compiled entries size hcontent hsize hpos hroom hsound =>
    have hlength : Brain.size ⟨(entries.map (·.instruction)).toArray⟩ = size := by
      rw [Brain.size, List.size_toArray, List.length_map, hcontent.length_eq, hsize]
    refine ⟨hlength ▸ hpos, hlength ▸ hroom, fun i hi => ?_⟩
    obtain ⟨entry, hentry, rfl⟩ := List.mem_map.1 (List.mem_toArray.1 hi)
    rw [hlength]
    exact hsound entry hentry

/-- Printing and compiling undo each other: a valid brain is compiled from its canonical source,
and a brain that is compiled from any source is valid, so that its canonical source comes to the
same as the source that it was compiled from. -/
theorem compile_text_inverse :
    (∀ brain : Brain, brain.Valid → compile brain.text = .ok brain) ∧
      ∀ source brain, compile source = .ok brain →
        brain.Valid ∧ compile brain.text = compile source := by
  refine ⟨fun _ => compile_text, fun source brain h => ?_⟩
  have hvalid := valid_of_compile h
  exact ⟨hvalid, by rw [compile_text hvalid, h]⟩

/-- A brain with all forms of instructions. -/
def specimen : Brain :=
  ⟨#[.sense .here (.marker 5) 0 9, .sense .leftAhead .foeHome 9 1, .mark 0 2, .unmark 5 3,
    .pickUp 4 0, .drop 5, .turn .left 6, .turn .right 7, .move 8 0, .flip 4294967295 0 9]⟩

/-- The specimen is compiled from its canonical source, and so is a brain that was compiled from a
source with other line ends, comments, capitals and leading zeros. -/
theorem compile_text_specimen :
    let source := "  SENSE Here 1 000 Marker 3 ; look\r\n\r; nothing\nflip 007 0 1"
    let brain : Brain := ⟨#[.sense .here (.marker 3) 1 0, .flip 7 0 1]⟩
    specimen.Valid ∧ compile specimen.text = .ok specimen ∧
      compile source = .ok brain ∧ brain.Valid ∧ compile brain.text = compile source := by
  intro source brain
  have hvalid : specimen.Valid := by decide +kernel
  have hsource : compile source = .ok brain := by decide +kernel
  exact ⟨hvalid, compile_text_inverse.1 specimen hvalid, hsource,
    compile_text_inverse.2 source brain hsource⟩

end Brain

end Formicary
