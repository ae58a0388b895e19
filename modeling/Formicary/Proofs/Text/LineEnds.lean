import Formicary.Proofs.Text.Lines

/-!
# Line ends

A line is ended by a line feed, by a carriage return, or by a carriage return with a line feed
behind it (`Text.LineEnd`). Two texts with a line end between them have the lines of the one and
then those of the other (`Text.LineEnd.lines_append`), so lines that are written with one of the
three between them are read back (`Text.LineEnd.lines_join`).

The three ends overlap: a carriage return and a line feed that come next to each other are one line
end, whichever texts they belong to. Anywhere else the line ends of two texts are normalised one
text at a time (`Text.normalizeNewlines_append`). Where a line end is shared, a text takes the place
of an empty last line instead of coming behind it (`Text.LineEnd.lines_append_behind`).
-/

namespace Formicary.Text

/-- What ends a line. -/
inductive LineEnd where
  /-- A line feed. -/
  | lineFeed
  /-- A carriage return with a line feed behind it. -/
  | returnAndFeed
  /-- A carriage return. -/
  | carriageReturn
  deriving DecidableEq

/-- There is no line end in a text. -/
def IsLine (s : List Char) : Prop := '\n' ∉ s ∧ '\r' ∉ s

instance (s : List Char) : Decidable (IsLine s) :=
  inferInstanceAs (Decidable ('\n' ∉ s ∧ '\r' ∉ s))

/-- There is nothing but blanks in a text. -/
def IsBlank (s : List Char) : Prop := ∀ c ∈ s, isBlank c = true

instance (s : List Char) : Decidable (IsBlank s) := List.decidableBAll (isBlank · = true) s

namespace LineEnd

/-- A line end as text. -/
def text : LineEnd → String
  | lineFeed => "\n"
  | returnAndFeed => "\r\n"
  | carriageReturn => "\r"

/-- Lines with a line end between them. -/
def join (e : LineEnd) (ls : List String) : String := e.text.intercalate ls

end LineEnd

variable {s t line : List Char} {c : Char}

/-- The line ends of two texts that do not share one are normalised one text at a time. -/
theorem normalizeNewlines_append (h : s.getLast? = some '\r' → t.head? ≠ some '\n') :
    normalizeNewlines (s ++ t) = normalizeNewlines s ++ normalizeNewlines t := by
  induction s with
  | nil => rfl
  | cons c s ih =>
    rw [List.cons_append, normalizeNewlines_cons, normalizeNewlines_cons]
    cases s with
    | nil =>
      by_cases hc : c = '\r'
      · -- What follows this carriage return is no line feed.
        have hhead : t.head? ≠ some '\n' := h (by rw [hc]; rfl)
        simp only [List.nil_append, List.head?_nil, if_pos hc, if_neg hhead]
        rfl
      · simp only [List.nil_append, if_neg hc]
        rfl
    | cons c' s =>
      rw [ih (by rwa [List.getLast?_cons_cons] at h), List.cons_append, List.head?_cons,
        List.head?_cons]
      split_ifs <;> rfl

/-- Pieces with a separator between them contain everything that is in the pieces. -/
theorem mem_intercalate_of_mem {α : Type} {a : α} {sep piece : List α} {pieces : List (List α)}
    (hpiece : piece ∈ pieces) (ha : a ∈ piece) : a ∈ sep.intercalate pieces := by
  induction pieces with
  | nil => cases hpiece
  | cons first pieces ih =>
    cases pieces with
    | nil =>
      rw [List.mem_singleton] at hpiece
      rwa [List.intercalate_singleton, ← hpiece]
    | cons next pieces =>
      rw [List.intercalate_cons_cons, List.mem_append, List.mem_append]
      obtain rfl | hpiece := List.mem_cons.1 hpiece
      · exact .inl (.inl ha)
      · exact .inr (ih hpiece)

theorem splitOn_append_cons (s t : List Char) :
    (s ++ '\n' :: t).splitOn '\n' = s.splitOn '\n' ++ t.splitOn '\n' :=
  List.splitOnP_append_cons s t (beq_self_eq_true '\n')

theorem IsLine.splitOn_eq (h : IsLine s) : s.splitOn '\n' = [s] := by
  have hjoin := List.splitOn_intercalate '\n' (fun l hl => List.mem_singleton.1 hl ▸ h.1)
    (List.cons_ne_nil s [])
  rwa [List.intercalate_singleton] at hjoin

theorem IsLine.lines_eq (h : IsLine s) : lines s = [s] := by
  rw [lines, normalizeNewlines_eq_self h.2, h.splitOn_eq]

theorem mem_of_mem_normalizeNewlines (h : c ∈ normalizeNewlines s) : c = '\n' ∨ c ∈ s := by
  induction s with
  | nil => exact .inr h
  | cons first s ih =>
    have htail (h : c ∈ normalizeNewlines s) : c = '\n' ∨ c ∈ first :: s :=
      (ih h).imp_right (List.mem_cons_of_mem first)
    rw [normalizeNewlines_cons] at h
    split_ifs at h
    · exact htail h
    · exact (List.mem_cons.1 h).elim .inl htail
    · exact (List.mem_cons.1 h).elim (fun hfirst => .inr (hfirst ▸ List.mem_cons_self)) htail

/-- Everything in the lines of a text is in the text, but for line feeds. -/
theorem mem_of_mem_lines (hline : line ∈ lines s) (hc : c ∈ line) : c = '\n' ∨ c ∈ s := by
  have hjoin : ['\n'].intercalate (lines s) = normalizeNewlines s := List.intercalate_splitOn '\n'
  have hmem : c ∈ ['\n'].intercalate (lines s) := mem_intercalate_of_mem hline hc
  exact mem_of_mem_normalizeNewlines (hjoin ▸ hmem)

theorem IsBlank.of_mem_lines (h : IsBlank s) (hline : line ∈ lines s) : IsBlank line := by
  intro c hc
  obtain rfl | hmem := mem_of_mem_lines hline hc
  · decide
  · exact h c hmem

namespace LineEnd

variable (e : LineEnd)

/-- A line end in front of a text that does not share it is normalised to a line feed. -/
theorem normalizeNewlines_text_append (ht : e = carriageReturn → t.head? ≠ some '\n') :
    normalizeNewlines (e.text.toList ++ t) = '\n' :: normalizeNewlines t := by
  cases e with
  | lineFeed =>
    show normalizeNewlines ('\n' :: t) = _
    rw [normalizeNewlines_cons, if_neg (by decide)]
  | returnAndFeed =>
    show normalizeNewlines ('\r' :: '\n' :: t) = _
    rw [normalizeNewlines_cons, if_pos rfl, List.head?_cons, if_pos rfl, normalizeNewlines_cons,
      if_neg (by decide)]
  | carriageReturn =>
    show normalizeNewlines ('\r' :: t) = _
    rw [normalizeNewlines_cons, if_pos rfl, if_neg (ht rfl)]

theorem head?_text_append : (e.text.toList ++ t).head? = some '\n' ↔ e = lineFeed := by
  cases e <;> simp [text]

/-- The lines of a text with a line end in it are those in front of the line end and those behind
it. -/
theorem lines_append (hs : e = lineFeed → s.getLast? ≠ some '\r')
    (ht : e = carriageReturn → t.head? ≠ some '\n') :
    lines (s ++ (e.text.toList ++ t)) = lines s ++ lines t := by
  have hshare : s.getLast? = some '\r' → (e.text.toList ++ t).head? ≠ some '\n' :=
    fun hlast hhead => hs ((head?_text_append e).1 hhead) hlast
  rw [lines, normalizeNewlines_append hshare, normalizeNewlines_text_append e ht,
    splitOn_append_cons]
  rfl

/-- Lines that are ended by carriage returns have no line feed in front of the first of them. -/
theorem head?_intercalate_ne {ls : List (List Char)} (h : ∀ l ∈ ls, IsLine l) :
    (carriageReturn.text.toList.intercalate ls).head? ≠ some '\n' := by
  intro hhead
  obtain heq | ⟨l, hl, hmem⟩ := eq_or_mem_of_mem_intercalate (List.mem_of_head? hhead)
  · exact absurd heq (by decide)
  · exact (h l hl).1 hmem

/-- A text with a line end in front comes behind the lines of another text, or takes the place of an
empty line at its end. -/
theorem lines_append_behind (s t : List Char) :
    ∃ before last rest, lines s = before ++ last ∧ (last = [] ∨ last = [[]]) ∧ rest <:+ t ∧
      lines (s ++ (e.text.toList ++ t)) = before ++ lines rest := by
  by_cases hs : e = lineFeed ∧ s.getLast? = some '\r'
  · obtain ⟨rfl, hlast⟩ := hs
    obtain ⟨front, rfl⟩ := List.getLast?_eq_some_iff.1 hlast
    -- The line feed completes the line end that the carriage return began.
    have hempty : lines (front ++ ['\r']) = lines front ++ [[]] :=
      lines_append carriageReturn nofun nofun
    have hboth : lines (front ++ '\r' :: '\n' :: t) = lines front ++ lines t :=
      lines_append returnAndFeed nofun nofun
    refine ⟨lines front, [[]], t, hempty, .inr rfl, List.suffix_refl t, ?_⟩
    rw [← hboth, List.append_assoc]
    rfl
  by_cases ht : e = carriageReturn ∧ t.head? = some '\n'
  · obtain ⟨rfl, hhead⟩ := ht
    obtain ⟨t, rfl⟩ := List.head?_eq_some_iff.1 hhead
    -- The carriage return and the line feed behind it are one line end.
    have hboth : lines (s ++ '\r' :: '\n' :: t) = lines s ++ lines t :=
      lines_append returnAndFeed nofun nofun
    exact ⟨lines s, [], t, (List.append_nil _).symm, .inl rfl, List.suffix_cons _ t, hboth⟩
  · exact ⟨lines s, [], t, (List.append_nil _).symm, .inl rfl, List.suffix_refl t,
      e.lines_append (fun he hlast => hs ⟨he, hlast⟩) fun he hhead => ht ⟨he, hhead⟩⟩

theorem lines_intercalate {ls : List (List Char)} (hne : ls ≠ []) (h : ∀ l ∈ ls, IsLine l) :
    lines (e.text.toList.intercalate ls) = ls := by
  induction ls with
  | nil => exact absurd rfl hne
  | cons line ls ih =>
    obtain ⟨hline, hrest⟩ := List.forall_mem_cons.1 h
    cases ls with
    | nil => rw [List.intercalate_singleton, hline.lines_eq]
    | cons next ls =>
      -- A line shares no line end with what is written behind it.
      have hs : e = lineFeed → line.getLast? ≠ some '\r' :=
        fun _ hlast => hline.2 (List.mem_of_getLast? hlast)
      have ht : e = carriageReturn →
          (e.text.toList.intercalate (next :: ls)).head? ≠ some '\n' := by
        rintro rfl
        exact head?_intercalate_ne hrest
      rw [List.intercalate_cons_cons, List.append_assoc, lines_append e hs ht, hline.lines_eq,
        ih (List.cons_ne_nil _ _) hrest, List.singleton_append]

/-- Lines that are written with a line end between them are read back. -/
theorem lines_join {ls : List String} (hne : ls ≠ []) (h : ∀ l ∈ ls, IsLine l.toList) :
    lines (e.join ls).toList = ls.map String.toList := by
  rw [join, String.toList_intercalate]
  exact lines_intercalate e (List.map_eq_nil_iff.not.2 hne) (List.forall_mem_map.2 h)

end LineEnd

end Formicary.Text
