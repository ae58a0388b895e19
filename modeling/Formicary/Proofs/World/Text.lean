import Formicary.Proofs.Text.Lines
import Formicary.World.Source

/-!
# Printing and reading worlds

A world that is printed is read back as itself, as far as the text is concerned: what remains when
the lines have been read are the checks of the rules (`WorldMap.parse_text`). The parts are proved
one after the other: the lines of the text are the lines that were printed, the two dimensions are
read back, and every row is read back after the rows before it.
-/

namespace Formicary

open Text

/-- A tile can be drawn by one symbol: its food, if it has any, is one digit other than zero. -/
def Tile.Printable : Tile → Prop
  | .food amount => 1 ≤ amount ∧ amount ≤ 9
  | _ => True

namespace Tile

variable {tile : Tile}

/-- The symbol of a tile stands for that tile and is not blank. -/
theorem symbol_spec (htile : tile.Printable) :
    ofSymbol? tile.symbol = some tile ∧ isBlank tile.symbol = false := by
  cases tile with
  | rock | clear => exact ⟨rfl, rfl⟩
  | hill color => cases color <;> exact ⟨rfl, rfl⟩
  | food amount =>
    obtain ⟨hpos, hle⟩ := htile
    have hdigit : amount = 1 ∨ amount = 2 ∨ amount = 3 ∨ amount = 4 ∨ amount = 5 ∨ amount = 6 ∨
        amount = 7 ∨ amount = 8 ∨ amount = 9 := by omega
    rcases hdigit with rfl | rfl | rfl | rfl | rfl | rfl | rfl | rfl | rfl <;> exact ⟨rfl, rfl⟩

end Tile

namespace Text

/-- Symbols with a separator between them are the first symbol and then separators and symbols by
turns. -/
theorem intercalate_map_singleton {α β : Type} (sep : β) (f : α → β) (a : α) (l : List α) :
    [sep].intercalate ((a :: l).map fun a => [f a]) = f a :: l.flatMap fun a => [sep, f a] := by
  induction l generalizing a with
  | nil => rfl
  | cons b l ih =>
    rw [List.map_cons, List.intercalate_cons_of_ne_nil (by simp), ih b]
    rfl

end Text

namespace WorldMap

variable {world : WorldMap} {row : Nat} {tiles : Array Tile} {tile : Tile} {rest : List Tile}

/-- The symbols of a row with spaces between them. -/
def rowBody (row : List Tile) : List Char := [' '].intercalate (row.map fun tile => [tile.symbol])

/-- The drawing of a row begins and ends with a symbol. -/
theorem rowBody_ends (hprintable : ∀ t ∈ tile :: rest, t.Printable) :
    (rowBody (tile :: rest)).head? = some tile.symbol ∧
      ∀ c, (rowBody (tile :: rest)).getLast? = some c → isBlank c = false := by
  rw [rowBody, intercalate_map_singleton]
  refine ⟨rfl, fun c hc => ?_⟩
  rcases List.eq_nil_or_concat rest with rfl | ⟨rest, last, rfl⟩
  · obtain rfl : tile.symbol = c := by simpa using hc
    exact (Tile.symbol_spec (hprintable _ (by simp))).2
  · obtain rfl : last.symbol = c := by
      rw [List.concat_eq_append, List.flatMap_append] at hc
      simpa [List.getLast?_cons, List.getLast?_append] using hc
    exact (Tile.symbol_spec (hprintable _ (by simp))).2

/-- The tiles of a row are read back from their symbols. -/
theorem readTiles_map (hprintable : ∀ t ∈ rest, t.Printable) :
    readTiles row tiles (rest.map fun tile => [tile.symbol]) = .ok (tiles ++ rest.toArray) := by
  induction rest generalizing tiles with
  | nil => simp [readTiles]
  | cons tile rest ih =>
    have htile := (Tile.symbol_spec (hprintable tile List.mem_cons_self)).1
    have hrest := fun t ht => hprintable t (List.mem_cons_of_mem tile ht)
    rw [List.map_cons, readTiles]
    simp only [htile]
    rw [ih hrest]
    simp

/-- The indentation of a row that is drawn is taken off. -/
theorem unindent_indented {c : Char} (hc : c ≠ ' ') (body : List Char) :
    unindent row ((if row % 2 = 1 then [' '] else []) ++ c :: body) = .ok (c :: body) := by
  by_cases hodd : row % 2 = 1
  · simp [unindent, hodd, hc]
  · simp [unindent, hodd, hc]

/-- A row is read back after the rows before it. -/
theorem readRow_rowLine (hwidth : 0 < world.width)
    (hprintable : ∀ t ∈ world.rowTiles row, t.Printable) :
    readRow world.width row tiles (world.rowLine row) =
      .ok (tiles ++ (world.rowTiles row).toArray) := by
  have hlength : (world.rowTiles row).length = world.width := by simp [rowTiles]
  obtain ⟨tile, rest, hrow⟩ :=
    List.exists_cons_of_ne_nil (List.ne_nil_of_length_pos (hlength ▸ hwidth))
  rw [hrow] at hprintable hlength
  obtain ⟨hhead, hlast⟩ := rowBody_ends hprintable
  have hblank := (Tile.symbol_spec (hprintable tile List.mem_cons_self)).2
  have hline : world.rowLine row =
      (if row % 2 = 1 then [' '] else []) ++ rowBody (tile :: rest) := by
    rw [rowLine, hrow, rowBody]
  -- The first symbol is not a space, so nothing but the indentation is taken off.
  have hunindent : unindent row (world.rowLine row) = .ok (rowBody (tile :: rest)) := by
    have hsymbol : tile.symbol ≠ ' ' := by
      intro hspace
      rw [hspace] at hblank
      exact absurd hblank (by decide)
    rw [hline, rowBody, intercalate_map_singleton]
    exact unindent_indented hsymbol _
  have htrim : trim (rowBody (tile :: rest)) = rowBody (tile :: rest) := by
    refine trim_eq_self (fun c hc => ?_) hlast
    rw [hhead, Option.some.injEq] at hc
    exact hc ▸ hblank
  have hsplit : (rowBody (tile :: rest)).splitOn ' ' =
      (tile :: rest).map fun tile => [tile.symbol] := by
    refine List.splitOn_intercalate ' ' (fun l hl => ?_) (by simp)
    obtain ⟨t, ht, rfl⟩ := List.mem_map.1 hl
    have hsymbol := (Tile.symbol_spec (hprintable t ht)).2
    rw [List.mem_singleton]
    intro hspace
    rw [← hspace] at hsymbol
    exact absurd hsymbol (by decide)
  simp only [readRow, hunindent, bind, Except.bind, htrim, hsplit, List.length_map, hlength,
    ne_eq, not_true_eq_false, ↓reduceIte, hrow]
  exact readTiles_map hprintable

/-- Rows are read back one after the other. -/
theorem readRows_map (hwidth : 0 < world.width) {n : Nat}
    (hprintable : ∀ r < row + n, ∀ t ∈ world.rowTiles r, t.Printable) :
    readRows world.width row tiles ((List.range' row n).map world.rowLine) =
      .ok (tiles ++ ((List.range' row n).flatMap world.rowTiles).toArray) := by
  induction n generalizing row tiles with
  | zero => simp [readRows]
  | succ n ih =>
    rw [List.range'_succ, List.map_cons, readRows,
      readRow_rowLine hwidth (hprintable row (by omega))]
    simp only
    rw [ih fun r hr => hprintable r (by omega)]
    simp

/-- Rows of numbers put one after the other are the numbers. -/
theorem flatMap_range_map {α : Type} (f : Nat → α) (rows cols : Nat) :
    ((List.range rows).flatMap fun r => (List.range cols).map fun c => f (r * cols + c)) =
      (List.range (rows * cols)).map f := by
  induction rows with
  | zero => simp
  | succ rows ih =>
    rw [List.range_succ, List.flatMap_append, ih, Nat.succ_mul, List.range_add, List.map_append,
      List.map_map]
    simp [Function.comp_def]

/-- The rows of a well-formed world are its tiles. -/
theorem flatMap_rowTiles (hworld : world.WellFormed) :
    (List.range world.height).flatMap world.rowTiles = world.tiles.toList := by
  have hrows : (List.range world.height).flatMap world.rowTiles =
      (List.range (world.height * world.width)).map (world.tiles.getD · .rock) :=
    flatMap_range_map (world.tiles.getD · .rock) world.height world.width
  have hsize : world.tiles.size = world.height * world.width := by rw [hworld, Nat.mul_comm]
  rw [hrows]
  refine List.ext_getElem (by simp [hsize]) fun i hi hi' => ?_
  rw [Array.length_toList] at hi'
  simp [Array.getD, hi']

/-- The characters of a printed number are digits. -/
theorem isDigit_of_mem_toString {n : Nat} {c : Char} (hc : c ∈ (toString n).toList) :
    c.isDigit = true := by
  rw [Nat.toString_eq_ofList_toDigits, String.toList_ofList] at hc
  exact Nat.isDigit_of_mem_toDigits (by decide) (by decide) hc

/-- Digits are not blank. -/
theorem isBlank_of_isDigit {c : Char} (hc : c.isDigit = true) : isBlank c = false := by
  have hrange : 48 ≤ c.toNat ∧ c.toNat ≤ 57 := by
    simpa [Char.isDigit, Char.le_def, UInt32.le_iff_toNat_le] using hc
  simp only [isBlank, Bool.or_eq_false_iff, Bool.and_eq_false_iff, decide_eq_false_iff_not,
    beq_eq_false_iff_ne]
  omega

/-- A positive number is read back as a dimension. -/
theorem readDimension_toString {n : Nat} (hpos : 0 < n) (hlt : n < UInt64.size) :
    readDimension (toString n).toList = .ok n := by
  have htrim : trim (toString n).toList = (toString n).toList :=
    trim_eq_self
      (fun c hc => isBlank_of_isDigit (isDigit_of_mem_toString (List.mem_of_head? hc)))
      (fun c hc => isBlank_of_isDigit (isDigit_of_mem_toString (List.mem_of_getLast? hc)))
  have hsign : dropSign '+' (toString n).toList = (toString n).toList := by
    rw [dropSign, if_neg]
    intro hplus
    exact absurd (isDigit_of_mem_toString (List.mem_of_head? hplus)) (by decide)
  have hcount : count? (toString n).toList = some n := by
    rw [count?, hsign, naturalBelow?_eq, natural?_toString, Option.filter_some,
      if_pos (by simpa using hlt)]
  rw [readDimension, htrim, hcount]
  exact if_pos hpos

/-- The characters of a row are spaces and symbols. -/
theorem mem_rowLine {c : Char} (hc : c ∈ world.rowLine row) :
    c = ' ' ∨ ∃ tile ∈ world.rowTiles row, tile.symbol = c := by
  rw [rowLine, List.mem_append] at hc
  rcases hc with hc | hc
  · left
    split at hc
    · exact List.mem_singleton.1 hc
    · simp at hc
  · cases hrow : world.rowTiles row with
    | nil => simp [hrow] at hc
    | cons tile rest =>
      rw [hrow, intercalate_map_singleton, List.mem_cons, List.mem_flatMap] at hc
      rcases hc with rfl | ⟨tile', htile', hc⟩
      · exact Or.inr ⟨tile, List.mem_cons_self, rfl⟩
      · rcases List.mem_cons.1 hc with rfl | hc
        · exact Or.inl rfl
        · exact Or.inr ⟨tile', List.mem_cons_of_mem tile htile', (List.mem_singleton.1 hc).symm⟩

/-- The lines that are printed are the lines of the source. -/
theorem sourceLines_text (hwidth : 0 < world.width) (hheight : 0 < world.height)
    (hprintable : ∀ r < world.height, ∀ t ∈ world.rowTiles r, t.Printable) :
    sourceLines world.text = world.textLines := by
  have hnumber : ∀ n : Nat, '\n' ∉ (toString n).toList ∧ '\r' ∉ (toString n).toList := fun n =>
    ⟨fun hmem => absurd (isDigit_of_mem_toString hmem) (by decide),
      fun hmem => absurd (isDigit_of_mem_toString hmem) (by decide)⟩
  have hrow : ∀ r < world.height, ∀ c ∈ world.rowLine r, c = ' ' ∨ isBlank c = false := by
    intro r hr c hc
    rcases mem_rowLine hc with rfl | ⟨tile, htile, rfl⟩
    · exact Or.inl rfl
    · exact Or.inr (Tile.symbol_spec (hprintable r hr tile htile)).2
  have hends : ∀ l ∈ world.textLines, '\n' ∉ l ∧ '\r' ∉ l := by
    intro l hl
    rw [textLines, List.mem_cons, List.mem_cons, List.mem_map] at hl
    rcases hl with rfl | rfl | ⟨r, hr, rfl⟩
    · exact hnumber _
    · exact hnumber _
    · have hchars := hrow r (List.mem_range.1 hr)
      exact ⟨fun hmem => absurd (hchars _ hmem) (by decide),
        fun hmem => absurd (hchars _ hmem) (by decide)⟩
  rw [sourceLines, text, String.toList_ofList, lines_flatMap hends, List.reverse_append]
  -- The empty line at the end is blank, and the last row is not.
  obtain ⟨n, hn⟩ := Nat.exists_eq_succ_of_ne_zero (Nat.ne_of_gt hheight)
  have hlast : world.textLines =
      ((toString world.width).toList :: (toString world.height).toList ::
        (List.range n).map world.rowLine) ++ [world.rowLine n] := by
    rw [textLines, hn, List.range_succ, List.map_append]
    rfl
  have hblank : (world.rowLine n).all isBlank = false := by
    have hlength : (world.rowTiles n).length = world.width := by simp [rowTiles]
    obtain ⟨tile, rest, htiles⟩ :=
      List.exists_cons_of_ne_nil (List.ne_nil_of_length_pos (hlength ▸ hwidth))
    have htile : tile ∈ world.rowTiles n := htiles ▸ List.mem_cons_self
    have hsymbol := (Tile.symbol_spec (hprintable n (by omega) tile htile)).2
    rw [rowLine, htiles, intercalate_map_singleton, List.all_append, List.all_cons, hsymbol,
      Bool.false_and, Bool.and_false]
  rw [List.reverse_cons, List.reverse_nil, List.nil_append, List.singleton_append,
    List.dropWhile_cons, List.all_nil, if_pos rfl, hlast, List.reverse_append, List.reverse_cons,
    List.reverse_nil, List.nil_append, List.singleton_append, List.dropWhile_cons, hblank,
    if_neg Bool.false_ne_true, List.reverse_cons, List.reverse_reverse]

/-- A world that is printed is read back, so that all there is to say about it is said by the
rules. -/
theorem parse_text (hworld : world.WellFormed) (hwidth : 0 < world.width)
    (hheight : 0 < world.height) (hwidth' : world.width < UInt64.size)
    (hheight' : world.height < UInt64.size) (hprintable : ∀ t ∈ world.tiles, t.Printable)
    (contest : Bool) (hlines : minLines contest ≤ world.height + 2)
    (hsize : contest = true → world.width = contestSize ∧ world.height = contestSize) :
    parse world.text contest =
      match world.checkBasics with
      | .error e => .error e
      | .ok _ => if contest = true then world.checkContest.map fun _ => world else .ok world := by
  have hrows : ∀ r < world.height, ∀ t ∈ world.rowTiles r, t.Printable := by
    intro r hr t ht
    refine hprintable t ?_
    rw [← Array.mem_toList_iff, ← flatMap_rowTiles hworld]
    exact List.mem_flatMap.2 ⟨r, List.mem_range.2 hr, ht⟩
  have htiles : readRows world.width 0 #[] ((List.range world.height).map world.rowLine) =
      .ok world.tiles := by
    rw [List.range_eq_range', readRows_map hwidth (by rwa [Nat.zero_add]), ← List.range_eq_range',
      flatMap_rowTiles hworld]
    simp
  have hlength : ¬(((toString world.width).toList :: (toString world.height).toList ::
      (List.range world.height).map world.rowLine).length < minLines contest) := by
    simp only [List.length_cons, List.length_map, List.length_range]
    omega
  have hcontest : ¬(contest = true ∧ (world.width ≠ contestSize ∨ world.height ≠ contestSize)) := by
    rintro ⟨hcontest, hbad | hbad⟩
    · exact hbad (hsize hcontest).1
    · exact hbad (hsize hcontest).2
  -- Nothing that the reader looks at before the rules is at fault.
  rw [parse, sourceLines_text hwidth hheight hrows, textLines]
  simp only [ofLines, if_neg hlength, readDimension_toString hwidth hwidth',
    readDimension_toString hheight hheight', bind, Except.bind, if_neg hcontest, List.length_map,
    List.length_range, ne_eq, not_true_eq_false, ↓reduceIte, htiles]
  cases world.checkBasics with
  | error e => rfl
  | ok _ =>
    cases contest with
    | false => rfl
    | true =>
      simp only [↓reduceIte]
      cases world.checkContest <;> rfl

/-- No world but the one that is printed is read back, whatever the rules say. -/
theorem eq_of_parse_text (hworld : world.WellFormed) (hwidth : 0 < world.width)
    (hheight : 0 < world.height) (hwidth' : world.width < UInt64.size)
    (hheight' : world.height < UInt64.size) (hprintable : ∀ t ∈ world.tiles, t.Printable)
    {contest : Bool} (hlines : minLines contest ≤ world.height + 2)
    (hsize : contest = true → world.width = contestSize ∧ world.height = contestSize)
    {world' : WorldMap} (h : parse world.text contest = .ok world') : world' = world := by
  rw [parse_text hworld hwidth hheight hwidth' hheight' hprintable contest hlines hsize] at h
  -- The rules are all that is left of reading, and they hand the world on as it is.
  cases hbasics : world.checkBasics with
  | error e => rw [hbasics] at h; cases h
  | ok _ =>
    rw [hbasics] at h
    cases contest with
    | false => exact (Except.ok.inj h).symm
    | true =>
      change world.checkContest.map (fun _ => world) = .ok world' at h
      cases hcontest : world.checkContest with
      | error e => rw [hcontest] at h; cases h
      | ok _ => rw [hcontest] at h; exact (Except.ok.inj h).symm

end WorldMap

end Formicary
