import Formicary.Proofs.Brain.Reference
import Formicary.Proofs.Text.LineEnds
import Mathlib.Data.List.TakeWhile

/-!
# Line numbers

The number of a line is written into reports and into nothing else. Two sources with the same lines
of content, which have other numbers in one of them, are compiled to the same brain, or refused for
the same fault, reported with the other number (`Brain.compile_renumber`).

Lines that hold blanks and comments only have no content (`IsIdle.cleanLine_eq`). One more of them
moves the lines behind it down, and this is all that it does (`Brain.compile_insert`).
-/

namespace Formicary

open Text Instruction

/-- A line holds blanks and then at most a comment. -/
def IsIdle (line : List Char) : Prop :=
  ∃ blanks comment, line = blanks ++ comment ∧ IsBlank blanks ∧
    (comment = [] ∨ comment.head? = some ';')

/-- The number of a line after one more line has been put in behind the first `n` lines. -/
def numberAfter (n line : Nat) : Nat := if n < line then line + 1 else line

/-- The same fault on a line with another number. -/
def CompileError.renumber (number : Nat → Nat) : CompileError → CompileError
  | malformedInstruction line text => malformedInstruction (number line) text
  | emptyBrain => emptyBrain
  | tooManyStates line limit => tooManyStates (number line) limit
  | stateOutOfRange line referenced => stateOutOfRange (number line) referenced
  | markerOutOfRange line marker => markerOutOfRange (number line) marker

/-- Of blanks and a comment nothing is left when they are cleaned. -/
theorem IsIdle.cleanLine_eq {line : List Char} (h : IsIdle line) : cleanLine line = [] := by
  obtain ⟨blanks, comment, rfl, hblank, hcomment⟩ := h
  have hcode : ∀ c ∈ blanks, decide (c ≠ ';') = true := by
    intro c hc
    refine decide_eq_true ?_
    rintro rfl
    exact absurd (hblank _ hc) (by decide)
  have hend : comment.takeWhile (· ≠ ';') = [] := by
    cases comment with
    | nil => rfl
    | cons c comment =>
      obtain rfl : c = ';' := by simpa using hcomment
      rfl
  have htrim : trim blanks = [] := by
    rw [trim, List.dropWhile_eq_nil_iff.2 hblank]
    rfl
  rw [cleanLine, List.takeWhile_append_of_pos hcode, hend, List.append_nil, htrim]
  rfl

namespace Brain

/-- The same instruction on a line with another number. -/
def Entry.renumber (number : Nat → Nat) (entry : Entry) : Entry :=
  { entry with line := number entry.line }

variable {source source' : String} {number : Nat → Nat} {size : Nat}

/-- Lines with other numbers are read as entries with other numbers. -/
theorem readContent_renumber (number : Nat → Nat) (read : Array Entry)
    (lines : List (List Char × Nat)) :
    readContent (read.map (Entry.renumber number)) (lines.map (Prod.map id number)) =
      ((readContent read lines).map (Array.map (Entry.renumber number))).mapError
        (CompileError.renumber number) := by
  induction lines generalizing read with
  | nil => rfl
  | cons head lines ih =>
    obtain ⟨text, line⟩ := head
    rw [List.map_cons, Prod.map_apply, readContent, readContent]
    simp only [id_eq, Array.size_map]
    cases Instruction.ofLine? text with
    | none => rfl
    | some i =>
      simp only
      -- There is as much room among the entries with the other numbers.
      by_cases hroom : read.size < maxStates
      · have hpush : (read.map (Entry.renumber number)).push ⟨number line, i⟩ =
            (read.push ⟨line, i⟩).map (Entry.renumber number) := by
          rw [Array.map_push]
          rfl
        rw [if_pos hroom, if_pos hroom, hpush, ih]
      · rw [if_neg hroom, if_neg hroom]
        rfl

/-- The check of an entry does not look at its number. -/
theorem Entry.check_renumber (number : Nat → Nat) (entry : Entry) :
    (entry.renumber number).check size =
      (entry.check size).mapError (CompileError.renumber number) := by
  have hinstruction : (entry.renumber number).instruction = entry.instruction := rfl
  rw [check, check, hinstruction]
  by_cases hrange : size ≤ entry.instruction.maxTarget
  · rw [if_pos hrange, if_pos hrange]
    rfl
  · rw [if_neg hrange, if_neg hrange]
    cases entry.instruction.marker? with
    | none => rfl
    | some id =>
      simp only
      by_cases hmarker : markerCount ≤ id
      · rw [if_pos hmarker, if_pos hmarker]
        rfl
      · rw [if_neg hmarker, if_neg hmarker]
        rfl

theorem checkEntries_renumber (number : Nat → Nat) (entries : List Entry) :
    checkEntries size (entries.map (Entry.renumber number)) =
      (checkEntries size entries).mapError (CompileError.renumber number) := by
  induction entries with
  | nil => rfl
  | cons entry entries ih =>
    rw [List.map_cons, checkEntries, checkEntries, Entry.check_renumber]
    cases entry.check size with
    | ok => exact ih
    | error e => rfl

/-- A source whose lines of content have other numbers is compiled to the same brain, or refused for
the same fault on a line with another number. -/
theorem compile_renumber (h : content source' = (content source).map (Prod.map id number)) :
    compile source' = (compile source).mapError (CompileError.renumber number) := by
  have hread := readContent_renumber number #[] (content source)
  rw [← h, List.map_toArray, List.map_nil] at hread
  rw [compile, compile, readEntries_lines, readEntries_lines, hread]
  cases readContent #[] (content source) with
  | error e => rfl
  | ok entries =>
    have hempty : (entries.map (Entry.renumber number)).isEmpty = entries.isEmpty := by
      rw [← Array.isEmpty_toList, Array.toList_map, List.isEmpty_map, Array.isEmpty_toList]
    have hcheck : checkEntries entries.size (entries.toList.map (Entry.renumber number)) =
        (checkEntries entries.size entries.toList).mapError (CompileError.renumber number) :=
      checkEntries_renumber number entries.toList
    simp only [Except.map, Except.mapError, bind, Except.bind, hempty, Array.size_map,
      Array.toList_map, hcheck]
    cases entries.isEmpty with
    | true => rfl
    | false =>
      cases checkEntries entries.size entries.toList with
      | error e => rfl
      | ok =>
        -- The instructions are the same.
        simp [pure, Except.pure, Entry.renumber, Function.comp_def]

/-! ### Lines without content -/

/-- The lines in front of one that is put in keep their numbers. -/
theorem map_zipIdx_before {α : Type} (texts : List α) :
    (texts.zipIdx 1).map (Prod.map id (numberAfter texts.length)) = texts.zipIdx 1 := by
  refine (List.map_congr_left fun text htext => ?_).trans (List.map_id _)
  have hlt := List.snd_lt_of_mem_zipIdx htext
  exact Prod.ext rfl (if_neg (by omega))

/-- The lines behind one that is put in have the next number each. -/
theorem map_zipIdx_after {α : Type} (texts : List α) (n : Nat) :
    (texts.zipIdx (1 + n)).map (Prod.map id (numberAfter n)) = texts.zipIdx (1 + n + 1) := by
  have hshift : (texts.zipIdx (1 + n)).map (Prod.map id (· + 1)) = texts.zipIdx (1 + (1 + n)) :=
    List.map_snd_add_zipIdx_eq_zipIdx
  rw [Nat.add_comm (1 + n) 1, ← hshift]
  refine List.map_congr_left fun text htext => ?_
  have hle := List.le_snd_of_mem_zipIdx htext
  exact Prod.ext rfl (if_pos (by omega))

/-- A line without content that is put in behind the first lines gives the lines behind it other
numbers and does nothing else. -/
theorem content_insert {before after : List (List Char)} {idle : List Char} (hidle : IsIdle idle)
    (h : lines source.toList = before ++ after)
    (h' : lines source'.toList = before ++ idle :: after) :
    content source' = (content source).map (Prod.map id (numberAfter before.length)) := by
  have hbefore := map_zipIdx_before (before.map cleanLine)
  have hafter := map_zipIdx_after (after.map cleanLine) before.length
  rw [List.length_map] at hbefore
  -- Whether a line has content does not depend on its number.
  have hfilter (texts : List (List Char × Nat)) :
      (texts.filter fun line => line.1 ≠ []).map (Prod.map id (numberAfter before.length)) =
        (texts.map (Prod.map id (numberAfter before.length))).filter fun line => line.1 ≠ [] := by
    rw [List.filter_map]
    rfl
  rw [content_eq, content_eq, h, h', hfilter]
  simp only [List.map_append, List.map_cons, List.zipIdx_append, List.zipIdx_cons,
    List.filter_append, List.length_map, hbefore, hafter, hidle.cleanLine_eq]
  rw [List.filter_cons_of_neg (by simp)]

/-- A line without content that is put in anywhere leaves the outcome as it is, but for the number
in the report of a fault that lies behind it. -/
theorem compile_insert {before after : List (List Char)} {idle : List Char} (hidle : IsIdle idle)
    (h : lines source.toList = before ++ after)
    (h' : lines source'.toList = before ++ idle :: after) :
    compile source' =
      (compile source).mapError (CompileError.renumber (numberAfter before.length)) :=
  compile_renumber (content_insert hidle h h')

end Brain

end Formicary
