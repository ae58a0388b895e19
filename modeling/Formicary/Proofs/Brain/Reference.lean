import Formicary.Brain.Compile
import Formicary.Proofs.Brain.Grammar
import Formicary.Proofs.Text.Lines
import Mathlib.Data.List.Forall2

/-!
# What compiling a source comes to

`Brain.Outcome` says for every source what compiling it must come to, as a list of rules: which
fault is reported if there are several, with which line and which text or number, and which brain
comes out if there is none. The rules speak of the lines that have content (`Brain.content`), of
the grammar of a line, and of the targets and markers of instructions. They do not say how any of
this is found. Compiling a source comes to an outcome if and only if the rules give that outcome
(`Brain.compile_eq_iff`), so the rules leave no source without an outcome and give none two.
-/

namespace Formicary

open Text Instruction

namespace Brain

/-! ### The rules -/

/-- The lines of a source that have content, with their numbers: line ends are made line feeds,
lines are numbered from one, and each is cut at its first semicolon, trimmed at both ends and
written in small letters. -/
def content (source : String) : List (List Char × Nat) :=
  let rawLines := (replaceReturns (replacePairs source.toList)).splitOn '\n'
  let texts := rawLines.map fun line => lowercase (trim (line.takeWhile (· ≠ ';')))
  (texts.zipIdx 1).filter fun line => line.1 ≠ []

/-- An entry stands for a numbered line: it has its number, and its instruction is written
there. -/
def Entry.StandsFor (entry : Entry) (line : List Char × Nat) : Prop :=
  entry.line = line.2 ∧ Written line.1 entry.instruction

/-- An entry leads only to states of a brain of the given size, and names no marker that does not
exist. -/
def Entry.Sound (size : Nat) (entry : Entry) : Prop :=
  (∀ target ∈ entry.instruction.targets, target < size) ∧
    ∀ id, entry.instruction.marker? = some id → id < markerCount

/-- What compiling a source comes to. -/
inductive Outcome (source : String) : Except CompileError Brain → Prop
  /-- Some line is not in the grammar, and before it there are no more instructions than a brain
  may have. The first such line is reported. -/
  | malformedInstruction {before after : List (List Char × Nat)} {text : List Char} {line : Nat}
      {entries : List Entry} (hcontent : content source = before ++ (text, line) :: after)
      (hbefore : List.Forall₂ Entry.StandsFor entries before) (hroom : before.length ≤ maxStates)
      (hmalformed : ¬∃ i, Written text i) :
      Outcome source (.error (.malformedInstruction line (String.ofList text)))
  /-- A line is in the grammar, and so are all lines before it, which are as many as a brain may
  have. -/
  | tooManyStates {before after : List (List Char × Nat)} {text : List Char} {line : Nat}
      {entries : List Entry} (hcontent : content source = before ++ (text, line) :: after)
      (hbefore : List.Forall₂ Entry.StandsFor entries before) (hfull : before.length = maxStates)
      (hwritten : ∃ i, Written text i) : Outcome source (.error (.tooManyStates line maxStates))
  /-- No line has content. -/
  | emptyBrain (hcontent : content source = []) : Outcome source (.error .emptyBrain)
  /-- All lines are in the grammar, but some instruction, the first one that is not sound, leads
  to a state that is not there. Its largest target is reported. -/
  | stateOutOfRange {before after : List Entry} {entry : Entry} {target size : Nat}
      (hcontent : List.Forall₂ Entry.StandsFor (before ++ entry :: after) (content source))
      (hsize : size = (content source).length) (hroom : size ≤ maxStates)
      (hbefore : ∀ e ∈ before, e.Sound size) (hmem : target ∈ entry.instruction.targets)
      (hmax : ∀ other ∈ entry.instruction.targets, other ≤ target) (hrange : size ≤ target) :
      Outcome source (.error (.stateOutOfRange entry.line target))
  /-- All lines are in the grammar, but some instruction, the first one that is not sound, names a
  marker that does not exist, while it leads only to states that are there. -/
  | markerOutOfRange {before after : List Entry} {entry : Entry} {marker size : Nat}
      (hcontent : List.Forall₂ Entry.StandsFor (before ++ entry :: after) (content source))
      (hsize : size = (content source).length) (hroom : size ≤ maxStates)
      (hbefore : ∀ e ∈ before, e.Sound size)
      (htargets : ∀ target ∈ entry.instruction.targets, target < size)
      (hmarker : entry.instruction.marker? = some marker) (hrange : markerCount ≤ marker) :
      Outcome source (.error (.markerOutOfRange entry.line marker))
  /-- All lines are in the grammar and all instructions are sound. The brain has one instruction
  for every line with content, in the order of the lines. -/
  | compiled {entries : List Entry} {size : Nat}
      (hcontent : List.Forall₂ Entry.StandsFor entries (content source))
      (hsize : size = (content source).length) (hpos : 0 < size) (hroom : size ≤ maxStates)
      (hsound : ∀ e ∈ entries, e.Sound size) :
      Outcome source (.ok ⟨(entries.map (·.instruction)).toArray⟩)

/-! ### Reading lines -/

/-- Read numbered lines, all of which have content, after the entries read so far. -/
def readContent (entries : Array Entry) :
    List (List Char × Nat) → Except CompileError (Array Entry)
  | [] => .ok entries
  | (text, line) :: rest =>
    match Instruction.ofLine? text with
    | some instruction =>
      if entries.size < maxStates then readContent (entries.push ⟨line, instruction⟩) rest
      else .error (.tooManyStates line maxStates)
    | none => .error (.malformedInstruction line (String.ofList text))

variable {source : String} {read : Array Entry} {entries : List Entry} {entry : Entry}
  {before rest : List (List Char × Nat)} {size : Nat}

/-- Lines without content may as well be left out. -/
theorem readEntries_eq (line : Nat) (read : Array Entry) (raws : List (List Char)) :
    readEntries line read raws =
      readContent read (((raws.map cleanLine).zipIdx line).filter fun line => line.1 ≠ []) := by
  induction raws generalizing line read with
  | nil => rfl
  | cons raw raws ih =>
    rw [readEntries, List.map_cons, List.zipIdx_cons]
    by_cases hempty : cleanLine raw = []
    · rw [List.filter_cons_of_neg (by simp [hempty]), hempty]
      exact ih (line + 1) read
    · rw [List.filter_cons_of_pos (by simp [hempty]), readContent]
      cases hread : ofLine? (cleanLine raw) with
      | some i => simp only [ih]
      | none => simp only [List.isEmpty_eq_false_iff.2 hempty, Bool.false_eq_true, ↓reduceIte]

/-- The lines of a source, whichever way their ends are found. -/
theorem content_eq (source : String) :
    content source =
      (((lines source.toList).map cleanLine).zipIdx 1).filter fun line => line.1 ≠ [] := by
  rw [lines, normalizeNewlines_eq]
  rfl

/-- Reading a source is reading its lines with content. -/
theorem readEntries_lines (source : String) :
    readEntries 1 #[] (lines source.toList) = readContent #[] (content source) := by
  rw [readEntries_eq, content_eq]

/-- Lines that are in the grammar are read, as long as there is room. -/
theorem readContent_append (h : List.Forall₂ Entry.StandsFor entries before)
    (hroom : read.size + before.length ≤ maxStates) :
    readContent read (before ++ rest) = readContent (read ++ entries.toArray) rest := by
  induction h generalizing read with
  | nil => simp
  | @cons entry line entries before hline hrest ih =>
    obtain ⟨text, number⟩ := line
    obtain ⟨rfl, hwritten⟩ := hline
    rw [List.length_cons] at hroom
    rw [List.cons_append, readContent]
    simp only [ofLine?_eq_some_iff.2 hwritten]
    rw [if_pos (by omega), ih (by rw [Array.size_push]; omega)]
    simp

/-- Reading some lines ends where they end, or at the first line that is not in the grammar or for
which there is no room. -/
theorem exists_reading (lines : List (List Char × Nat)) (read : Nat) (hread : read ≤ maxStates) :
    (∃ entries, List.Forall₂ Entry.StandsFor entries lines ∧ read + lines.length ≤ maxStates) ∨
      ∃ before text line after entries, lines = before ++ (text, line) :: after ∧
        List.Forall₂ Entry.StandsFor entries before ∧ read + before.length ≤ maxStates ∧
        ((¬∃ i, Written text i) ∨ read + before.length = maxStates ∧ ∃ i, Written text i) := by
  -- On the lines, for any number of instructions that have been read before them.
  induction lines generalizing read with
  | nil => exact .inl ⟨[], .nil, hread⟩
  | cons head lines ih =>
    obtain ⟨text, line⟩ := head
    by_cases hwritten : ∃ i, Written text i
    · by_cases hfull : read = maxStates
      · exact .inr ⟨[], text, line, lines, [], rfl, .nil, by simpa using hread,
          .inr ⟨by simpa using hfull, hwritten⟩⟩
      · obtain ⟨i, hi⟩ := hwritten
        have hhead : Entry.StandsFor ⟨line, i⟩ (text, line) := ⟨rfl, hi⟩
        rcases ih (read + 1) (by omega) with ⟨entries, hlines, hroom⟩ |
          ⟨before, text', line', after, entries, rfl, hbefore, hroom, hend⟩
        · exact .inl ⟨_, .cons hhead hlines, by rw [List.length_cons]; omega⟩
        · have hlength : read + ((text, line) :: before).length = read + 1 + before.length := by
            rw [List.length_cons]
            omega
          exact .inr ⟨(text, line) :: before, text', line', after, _, rfl, .cons hhead hbefore,
            by rwa [hlength], by rwa [hlength]⟩
    · exact .inr ⟨[], text, line, lines, [], rfl, .nil, by simpa using hread, .inl hwritten⟩

/-! ### Checking entries -/

theorem maxTarget_mem (i : Instruction) : i.maxTarget ∈ i.targets := by
  cases i <;> simp [maxTarget, targets] <;> omega

theorem le_maxTarget {i : Instruction} {target : Nat} (h : target ∈ i.targets) :
    target ≤ i.maxTarget := by
  cases i <;> simp [maxTarget, targets] at h ⊢ <;> omega

/-- The check of an entry passes if the entry is sound. -/
theorem Entry.check_eq_ok (h : entry.Sound size) : entry.check size = .ok () := by
  obtain ⟨htargets, hmarker⟩ := h
  have hlt := htargets _ (maxTarget_mem entry.instruction)
  rw [check, if_neg (by omega)]
  split
  next id hid => rw [if_neg (Nat.not_le.2 (hmarker id hid))]
  next => rfl

/-- An entry that is not sound leads too far, or else names a marker that does not exist. -/
theorem Entry.fault_of_not_sound (h : ¬entry.Sound size) :
    size ≤ entry.instruction.maxTarget ∨
      (∀ target ∈ entry.instruction.targets, target < size) ∧
        ∃ id, entry.instruction.marker? = some id ∧ markerCount ≤ id := by
  by_cases hrange : size ≤ entry.instruction.maxTarget
  · exact .inl hrange
  · have htargets : ∀ target ∈ entry.instruction.targets, target < size := fun target htarget =>
      Nat.lt_of_le_of_lt (le_maxTarget htarget) (Nat.not_le.1 hrange)
    refine .inr ⟨htargets, ?_⟩
    by_contra hnone
    exact h ⟨htargets, fun id hid => Nat.lt_of_not_le fun hle => hnone ⟨id, hid, hle⟩⟩

/-- Sound entries are passed over. -/
theorem checkEntries_append {before : List Entry} (h : ∀ e ∈ before, e.Sound size)
    (after : List Entry) : checkEntries size (before ++ after) = checkEntries size after := by
  induction before with
  | nil => rfl
  | cons e before ih =>
    rw [List.cons_append, checkEntries, Entry.check_eq_ok (h e List.mem_cons_self)]
    exact ih fun e' he' => h e' (List.mem_cons_of_mem e he')

theorem checkEntries_eq_ok (h : ∀ e ∈ entries, e.Sound size) :
    checkEntries size entries = .ok () := by
  rw [← List.append_nil entries, checkEntries_append h, checkEntries]

/-! ### Compiling -/

/-- If all lines are in the grammar, what is left is to check the instructions. -/
theorem compile_of_forall₂ (h : List.Forall₂ Entry.StandsFor entries (content source))
    (hpos : 0 < (content source).length) (hroom : (content source).length ≤ maxStates) :
    compile source = (checkEntries (content source).length entries).map fun _ =>
      ⟨(entries.map (·.instruction)).toArray⟩ := by
  have hread : readContent #[] (content source ++ []) = readContent (#[] ++ entries.toArray) [] :=
    readContent_append h (by simpa using hroom)
  have hlength : entries.length = (content source).length := h.length_eq
  have hne : entries.toArray.isEmpty = false := by
    rw [List.isEmpty_toArray, List.isEmpty_eq_false_iff]
    exact List.ne_nil_of_length_pos (hlength ▸ hpos)
  rw [List.append_nil, Array.empty_append, readContent] at hread
  rw [compile, readEntries_lines, hread]
  simp only [bind, Except.bind, hne, Bool.false_eq_true, ↓reduceIte, List.size_toArray, hlength]
  cases checkEntries (content source).length entries with
  | ok => simp [pure, Except.pure, Except.map]
  | error e => rfl

/-- If all lines are in the grammar, the first entry that fails its check decides. -/
theorem compile_of_fault {before after : List Entry} {e : CompileError}
    (h : List.Forall₂ Entry.StandsFor (before ++ entry :: after) (content source))
    (hroom : (content source).length ≤ maxStates)
    (hbefore : ∀ e ∈ before, e.Sound (content source).length)
    (hcheck : entry.check (content source).length = .error e) : compile source = .error e := by
  have hpos : 0 < (content source).length := by
    rw [← h.length_eq, List.length_append, List.length_cons]
    omega
  rw [compile_of_forall₂ h hpos hroom, checkEntries_append hbefore, checkEntries, hcheck]
  rfl

/-- A fault found while lines are read is what compiling comes to. -/
theorem compile_of_readContent {e : CompileError}
    (h : readContent #[] (content source) = .error e) : compile source = .error e := by
  rw [compile, readEntries_lines, h]
  rfl

/-- An outcome by the rules is what compiling comes to. -/
theorem Outcome.compile_eq {outcome : Except CompileError Brain} (h : Outcome source outcome) :
    compile source = outcome := by
  -- The first two faults are met while lines are read, the last two when all entries are checked.
  cases h with
  | @malformedInstruction _ _ _ _ entries hcontent hbefore hroom hmalformed =>
    refine compile_of_readContent ?_
    rw [hcontent, readContent_append hbefore (by simpa using hroom), readContent]
    have hnone := Option.eq_none_iff_forall_ne_some.2 fun i hi =>
      hmalformed ⟨i, ofLine?_eq_some_iff.1 hi⟩
    simp only [hnone]
  | @tooManyStates _ _ _ _ entries hcontent hbefore hfull hwritten =>
    obtain ⟨i, hi⟩ := hwritten
    refine compile_of_readContent ?_
    rw [hcontent, readContent_append hbefore (by simp [hfull]), readContent]
    have hsize : ¬entries.length < maxStates := by
      rw [hbefore.length_eq, hfull]
      exact Nat.lt_irrefl _
    simp only [ofLine?_eq_some_iff.2 hi, Array.empty_append, List.size_toArray, hsize, ↓reduceIte]
  | emptyBrain hcontent =>
    rw [compile, readEntries_lines, hcontent]
    rfl
  | @stateOutOfRange _ _ entry target size hcontent hsize hroom hbefore hmem hmax hrange =>
    have hlargest : entry.instruction.maxTarget = target :=
      Nat.le_antisymm (hmax _ (maxTarget_mem _)) (le_maxTarget hmem)
    refine compile_of_fault hcontent (hsize ▸ hroom) (hsize ▸ hbefore) ?_
    rw [Entry.check, hlargest, if_pos (hsize ▸ hrange)]
  | @markerOutOfRange _ _ entry marker size hcontent hsize hroom hbefore htargets hmarker hrange =>
    refine compile_of_fault hcontent (hsize ▸ hroom) (hsize ▸ hbefore) ?_
    rw [Entry.check, if_neg (Nat.not_le.2 (hsize ▸ htargets _ (maxTarget_mem _)))]
    simp only [hmarker, if_pos hrange]
  | compiled hcontent hsize hpos hroom hsound =>
    rw [compile_of_forall₂ hcontent (hsize ▸ hpos) (hsize ▸ hroom), ← hsize,
      checkEntries_eq_ok hsound]
    rfl

/-- The rules give every source an outcome. -/
theorem exists_outcome (source : String) : ∃ outcome, Outcome source outcome := by
  rcases exists_reading (content source) 0 (Nat.zero_le _) with ⟨entries, hcontent, hroom⟩ |
    ⟨before, text, line, after, entries, hcontent, hbefore, hroom, hmalformed | ⟨hfull, hwritten⟩⟩
  · rw [Nat.zero_add] at hroom
    rcases Nat.eq_zero_or_pos (content source).length with hzero | hpos
    · exact ⟨_, .emptyBrain (List.eq_nil_of_length_eq_zero hzero)⟩
    rcases exists_first_not (·.Sound (content source).length) entries with hsound |
      ⟨before, entry, after, rfl, hbefore, hunsound⟩
    · exact ⟨_, .compiled hcontent rfl hpos hroom hsound⟩
    · rcases Entry.fault_of_not_sound hunsound with hrange | ⟨htargets, id, hid, hrange⟩
      · exact ⟨_, .stateOutOfRange hcontent rfl hroom hbefore (maxTarget_mem _)
          (fun _ => le_maxTarget) hrange⟩
      · exact ⟨_, .markerOutOfRange hcontent rfl hroom hbefore htargets hid hrange⟩
  · exact ⟨_, .malformedInstruction hcontent hbefore (by simpa using hroom) hmalformed⟩
  · exact ⟨_, .tooManyStates hcontent hbefore (by simpa using hfull) hwritten⟩

/-- What compiling comes to is an outcome by the rules. -/
theorem outcome_compile (source : String) : Outcome source (compile source) := by
  obtain ⟨outcome, h⟩ := exists_outcome source
  rwa [h.compile_eq]

/-- Compiling a source comes to an outcome if and only if the rules give that outcome. -/
theorem compile_eq_iff (source : String) (outcome : Except CompileError Brain) :
    compile source = outcome ↔ Outcome source outcome := by
  constructor
  · rintro rfl
    exact outcome_compile source
  · exact Outcome.compile_eq

end Brain

end Formicary
