import Formicary.Text.Blank
import Formicary.Text.Lines
import Mathlib.Data.List.Basic

/-!
# Line ends and blanks

Line ends are written as line feeds in one pass, with one character of foresight. This is the same
as two replacements in the whole text, first of every carriage return with a line feed behind it
and then of every carriage return that is left (`normalizeNewlines_eq`). A text that is printed
line by line is cut into the lines that were printed (`lines_intercalate`, `lines_flatMap`).
-/

namespace Formicary.Text

/-- Replace every carriage return that is followed by a line feed, together with it, by one line
feed. -/
def replacePairs : List Char → List Char
  | '\r' :: '\n' :: rest => '\n' :: replacePairs rest
  | c :: rest => c :: replacePairs rest
  | [] => []

/-- Replace every carriage return by a line feed. -/
def replaceReturns (s : List Char) : List Char := s.map fun c => if c = '\r' then '\n' else c

/-- Line ends are normalised by two replacements, one after the other. -/
theorem normalizeNewlines_eq (s : List Char) :
    normalizeNewlines s = replaceReturns (replacePairs s) := by
  fun_induction replacePairs s with
  | case1 rest ih =>
    rw [normalizeNewlines_cons, if_pos rfl, List.head?_cons, if_pos rfl, normalizeNewlines_cons,
      if_neg (by decide), ih]
    rfl
  | case2 c rest hpair ih =>
    rw [normalizeNewlines_cons, ih]
    by_cases hc : c = '\r'
    · -- A line feed behind it would have made it a pair.
      have hhead : rest.head? ≠ some '\n' := by
        intro hhead
        obtain ⟨rest, rfl⟩ := List.head?_eq_some_iff.1 hhead
        exact hpair rest hc rfl
      rw [if_pos hc, if_neg hhead, hc]
      rfl
    · rw [if_neg hc, replaceReturns, replaceReturns, List.map_cons, if_neg hc]
  | case3 => rfl

variable {s : List Char} {ls : List (List Char)}

/-- Everything in a list has a property, or there is a first thing that has not. -/
theorem exists_first_not {α : Type} (p : α → Prop) (l : List α) :
    (∀ a ∈ l, p a) ∨ ∃ before a after, l = before ++ a :: after ∧ (∀ b ∈ before, p b) ∧ ¬p a := by
  classical
  cases hfind : l.find? fun a => ¬p a with
  | none => exact .inl fun a ha => by simpa using List.find?_eq_none.1 hfind a ha
  | some a =>
    obtain ⟨ha, before, after, hl, hbefore⟩ := List.find?_eq_some_iff_append.1 hfind
    exact .inr ⟨before, a, after, hl, by simpa using hbefore, by simpa using ha⟩

/-- A text that begins and ends with characters that are not blank is not trimmed. -/
theorem trim_eq_self (hhead : ∀ c, s.head? = some c → isBlank c = false)
    (hlast : ∀ c, s.getLast? = some c → isBlank c = false) : trim s = s := by
  have hdrop : ∀ s : List Char, (∀ c, s.head? = some c → isBlank c = false) →
      s.dropWhile isBlank = s := by
    intro s hs
    cases s with
    | nil => rfl
    | cons c s => rw [List.dropWhile_cons, hs c rfl, if_neg Bool.false_ne_true]
  rw [trim, hdrop s hhead, trimEnd, hdrop s.reverse, List.reverse_reverse]
  intro c hc
  exact hlast c (by rwa [List.head?_reverse] at hc)

/-- A text without carriage returns has its line ends written as line feeds already. -/
theorem normalizeNewlines_eq_self (h : '\r' ∉ s) : normalizeNewlines s = s := by
  induction s with
  | nil => rfl
  | cons c s ih =>
    obtain ⟨hc, hs⟩ := not_or.1 (List.mem_cons.not.1 h)
    rw [normalizeNewlines_cons, if_neg (Ne.symm hc), ih hs]

/-- Pieces with a separator between them contain nothing but the separator and what is in the
pieces. -/
theorem eq_or_mem_of_mem_intercalate {α : Type} {sep a : α} {pieces : List (List α)}
    (h : a ∈ [sep].intercalate pieces) : a = sep ∨ ∃ piece ∈ pieces, a ∈ piece := by
  induction pieces with
  | nil => simp at h
  | cons piece pieces ih =>
    cases pieces with
    | nil => exact .inr ⟨piece, List.mem_cons_self, by simpa using h⟩
    | cons next pieces =>
      rw [List.intercalate_cons_of_ne_nil (List.cons_ne_nil _ _), List.append_assoc,
        List.mem_append, List.mem_append] at h
      rcases h with h | h | h
      · exact .inr ⟨piece, List.mem_cons_self, h⟩
      · exact .inl (List.mem_singleton.1 h)
      · obtain rfl | ⟨other, hother, hmem⟩ := ih h
        · exact .inl rfl
        · exact .inr ⟨other, List.mem_cons_of_mem _ hother, hmem⟩

/-- Pieces that are not empty begin with the beginning of a piece. -/
theorem exists_head?_intercalate {α : Type} {sep : α} {pieces : List (List α)} (hne : pieces ≠ [])
    (h : ∀ piece ∈ pieces, piece ≠ []) :
    ∃ piece ∈ pieces, ([sep].intercalate pieces).head? = piece.head? := by
  obtain ⟨piece, pieces, rfl⟩ := List.exists_cons_of_ne_nil hne
  refine ⟨piece, List.mem_cons_self, ?_⟩
  cases pieces with
  | nil => simp
  | cons next pieces =>
    rw [List.intercalate_cons_of_ne_nil (List.cons_ne_nil _ _), List.append_assoc,
      List.head?_append_of_ne_nil _ (h piece List.mem_cons_self)]

/-- Pieces that are not empty end with the end of a piece. -/
theorem exists_getLast?_intercalate {α : Type} {sep : α} {pieces : List (List α)}
    (hne : pieces ≠ []) (h : ∀ piece ∈ pieces, piece ≠ []) :
    ∃ piece ∈ pieces, ([sep].intercalate pieces).getLast? = piece.getLast? := by
  induction pieces with
  | nil => exact absurd rfl hne
  | cons piece pieces ih =>
    cases pieces with
    | nil => exact ⟨piece, List.mem_cons_self, by simp⟩
    | cons next pieces =>
      obtain ⟨last, hlast, heq⟩ :=
        ih (List.cons_ne_nil _ _) fun other hother => h other (List.mem_cons_of_mem piece hother)
      have hsome := List.getLast?_isSome.2 (h last (List.mem_cons_of_mem piece hlast))
      refine ⟨last, List.mem_cons_of_mem piece hlast, ?_⟩
      rw [List.intercalate_cons_of_ne_nil (List.cons_ne_nil _ _), List.getLast?_append, heq,
        Option.or_of_isSome hsome]

/-- Lines that have been written with line feeds between them are read back. -/
theorem lines_intercalate (hne : ls ≠ []) (h : ∀ l ∈ ls, '\n' ∉ l ∧ '\r' ∉ l) :
    lines (['\n'].intercalate ls) = ls := by
  have hreturn : '\r' ∉ ['\n'].intercalate ls := by
    intro hmem
    obtain heq | ⟨l, hl, hmem⟩ := eq_or_mem_of_mem_intercalate hmem
    · exact absurd heq (by decide)
    · exact (h l hl).2 hmem
  rw [lines, normalizeNewlines_eq_self hreturn, List.splitOn_intercalate _ ?_ hne]
  exact fun l hl => (h l hl).1

/-- Lines that have been written one after the other are read back, and an empty one after
them. -/
theorem lines_flatMap (h : ∀ l ∈ ls, '\n' ∉ l ∧ '\r' ∉ l) :
    lines (ls.flatMap (· ++ ['\n'])) = ls ++ [[]] := by
  have hjoin : ls.flatMap (· ++ ['\n']) = ['\n'].intercalate (ls ++ [[]]) := by
    clear h
    induction ls with
    | nil => rfl
    | cons l ls ih =>
      rw [List.flatMap_cons, ih, List.cons_append, List.intercalate_cons_of_ne_nil (by simp),
        List.append_assoc]
  rw [hjoin, lines_intercalate (by simp)]
  intro l hl
  rcases List.mem_append.1 hl with hl | hl
  · exact h l hl
  · simp [List.mem_singleton.1 hl]

end Formicary.Text
