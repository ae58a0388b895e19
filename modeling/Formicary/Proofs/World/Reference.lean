import Formicary.Proofs.Text.Lines
import Formicary.Proofs.World.Rule
import Mathlib.Data.List.DropRight
import Mathlib.Data.List.Forall2

/-!
# What reading a world comes to

Reading a world has two parts. First its lines are taken for a drawing: two dimensions and one row
of symbols on each line after them. Then the world that is drawn is checked by the rules. For each
part there is a description that does not say how anything is found.

* `WorldMap.Drawing` says which world is drawn by some lines. There is a tile for every cell of a
  world that is drawn (`Drawing.wellFormed`), which is what the check of its edge relies on.
* `WorldMap.rules` are the rules for the world that is drawn.
* `WorldMap.Outcome` says for every list of lines what reading them must come to: which fault is
  reported if there are several, and which world comes out if there is none.

Reading a source comes to a result if and only if the description gives that result for the lines
of the source (`parse_eq_iff`), so it leaves no source without a result and gives none two.
-/

namespace Formicary

open Text

/-- A text is the symbol of a tile. Food is drawn by its amount, which is one to nine. -/
inductive Tile.Symbol : List Char → Tile → Prop
  | rock : Symbol ['#'] .rock
  | clear : Symbol ['.'] .clear
  | redHill : Symbol ['+'] (.hill .red)
  | blackHill : Symbol ['-'] (.hill .black)
  | food {c : Char} (hlow : '1' ≤ c) (hhigh : c ≤ '9') : Symbol [c] (.food (c.toNat - '0'.toNat))

namespace WorldMap

/-! ### The description -/

/-- The lines of a source: line ends are made line feeds, and blank lines at the end are left
out. -/
def content (source : String) : List (List Char) :=
  ((replaceReturns (replacePairs source.toList)).splitOn '\n').rdropWhile (·.all isBlank)

/-- A line is a dimension: between blanks there are decimal digits, with or without a plus sign in
front of them, whose value is positive and fits a word of 64 bits. -/
def IsDimension (line : List Char) (n : Nat) : Prop :=
  ∃ digits : List Char, (trim line = digits ∨ trim line = '+' :: digits) ∧ digits ≠ [] ∧
    (∀ c ∈ digits, c.isDigit = true) ∧ Nat.ofDigitChars 10 digits 0 = n ∧ 0 < n ∧ n < 2 ^ 64

/-- The lines of a source are as many as they must be at least. -/
def Enough (contest : Bool) (ls : List (List Char)) : Prop :=
  (if contest then 152 else 5) ≤ ls.length

/-- The lines of a source begin with the dimensions of a world, and the rows follow. -/
structure Header (contest : Bool) (ls : List (List Char)) (width height : Nat)
    (rows : List (List Char)) : Prop where
  /-- The lines are as many as they must be at least. -/
  enough : Enough contest ls
  /-- The dimensions stand on the first two lines. -/
  dimensions : ∃ widthLine heightLine, ls = widthLine :: heightLine :: rows ∧
    IsDimension widthLine width ∧ IsDimension heightLine height
  /-- In a contest they are those of a contest world. -/
  size : contest = true → width = 150 ∧ height = 150

/-- A row consists of its indentation, which is one space if the row is odd and nothing if it is
even, and of something that does not begin with a space. -/
def Indented (row : Nat) (line body : List Char) : Prop :=
  line = List.replicate (row % 2) ' ' ++ body ∧ body.head? ≠ some ' '

/-- What stands between single spaces. -/
def pieces (body : List Char) : List (List Char) := (trim body).splitOn ' '

/-- A numbered line is the drawing of a row of tiles. -/
def RowDrawn (width : Nat) (line : List Char × Nat) (tiles : List Tile) : Prop :=
  ∃ body, Indented line.2 line.1 body ∧ (pieces body).length = width ∧
    List.Forall₂ Tile.Symbol (pieces body) tiles

/-- What is reported of a numbered line that is not the drawing of a row. -/
inductive RowFault (width : Nat) : List Char × Nat → WorldError → Prop
  /-- The row is odd and does not begin with a space. -/
  | missingSpace {line : List Char} {row : Nat} (hodd : row % 2 = 1)
      (hline : line.head? ≠ some ' ') : RowFault width (line, row) (.missingOddRowSpace row)
  /-- The row is odd and begins with two spaces. -/
  | extraSpace {body : List Char} {row : Nat} (hodd : row % 2 = 1) :
      RowFault width (' ' :: ' ' :: body, row) (.extraOddRowSpace row)
  /-- The row is even and begins with a space. -/
  | unexpectedSpace {body : List Char} {row : Nat} (heven : row % 2 = 0) :
      RowFault width (' ' :: body, row) (.unexpectedEvenRowSpace row)
  /-- The row is indented, but there are more or fewer pieces than the width says. -/
  | widthMismatch {line body : List Char} {row : Nat} (hindented : Indented row line body)
      (hlength : (pieces body).length ≠ width) :
      RowFault width (line, row) (.widthMismatch row width (pieces body).length)
  /-- There are as many pieces as the width says, but some of them are no symbols. The first one
  is reported. -/
  | unrecognizedCell {line body piece : List Char} {row : Nat} {before after : List (List Char)}
      {tiles : List Tile} (hindented : Indented row line body)
      (hlength : (pieces body).length = width) (hpieces : pieces body = before ++ piece :: after)
      (hbefore : List.Forall₂ Tile.Symbol before tiles) (hpiece : ¬∃ tile, Tile.Symbol piece tile) :
      RowFault width (line, row) (.unrecognizedCell row (String.ofList piece))

/-- The lines of a source draw a world: after the dimensions, there are as many rows as the height
says, and the tiles of the world are those that the rows draw, one row after the other. -/
def Drawing (contest : Bool) (ls : List (List Char)) (world : WorldMap) : Prop :=
  ∃ rows drawn, Header contest ls world.width world.height rows ∧ rows.length = world.height ∧
    List.Forall₂ (RowDrawn world.width) rows.zipIdx drawn ∧ world.tiles = drawn.flatten.toArray

/-- The check of the contest rules finds no fault. -/
def contestRule (world : WorldMap) : Rule where
  Kept := world.checkContest = .ok ()
  Reports e := world.checkContest = .error e

/-- The rules for a world that is drawn, in the order in which they are checked. -/
def rules (world : WorldMap) (contest : Bool) : List Rule :=
  world.basicRules ++ if contest then [world.contestRule] else []

/-- What reading the lines of a source comes to. -/
inductive Outcome (contest : Bool) (ls : List (List Char)) : Except WorldError WorldMap → Prop
  /-- There are too few lines. -/
  | tooFewLines (hfew : ¬Enough contest ls) : Outcome contest ls (.error .tooFewLines)
  /-- One of the first two lines is no dimension. -/
  | invalidDimensions {widthLine heightLine : List Char} {rows : List (List Char)}
      (henough : Enough contest ls) (hlines : ls = widthLine :: heightLine :: rows)
      (hinvalid : (¬∃ n, IsDimension widthLine n) ∨ ¬∃ n, IsDimension heightLine n) :
      Outcome contest ls (.error .invalidDimensions)
  /-- The dimensions are not those of a contest world. -/
  | contestDimensions {widthLine heightLine : List Char} {rows : List (List Char)}
      {width height : Nat} (henough : Enough contest ls)
      (hlines : ls = widthLine :: heightLine :: rows) (hwidth : IsDimension widthLine width)
      (hheight : IsDimension heightLine height) (hcontest : contest = true)
      (hsize : ¬(width = 150 ∧ height = 150)) :
      Outcome contest ls (.error (.contestDimensions width height))
  /-- There are more or fewer rows than the height says. -/
  | heightMismatch {rows : List (List Char)} {width height : Nat}
      (hheader : Header contest ls width height rows) (hrows : rows.length ≠ height) :
      Outcome contest ls (.error (.heightMismatch height rows.length))
  /-- Some line is not the drawing of a row. The fault of the first such line is reported. -/
  | rowFault {rows : List (List Char)} {width height : Nat} {before after : List (List Char × Nat)}
      {line : List Char × Nat} {drawn : List (List Tile)} {e : WorldError}
      (hheader : Header contest ls width height rows) (hrows : rows.length = height)
      (hsplit : rows.zipIdx = before ++ line :: after)
      (hbefore : List.Forall₂ (RowDrawn width) before drawn) (hfault : RowFault width line e) :
      Outcome contest ls (.error e)
  /-- The lines draw a world. It is checked by the rules, and it is what comes out if they are
  kept. -/
  | checked {world : WorldMap} {result : Except WorldError Unit}
      (hdrawing : Drawing contest ls world) (hverdict : Verdict (world.rules contest) result) :
      Outcome contest ls (result.map fun _ => world)

variable {contest : Bool} {source : String} {ls rows : List (List Char)} {width height row : Nat}
  {line body piece : List Char} {tile : Tile} {tiles : Array Tile} {read : List Tile}
  {before after : List (List Char)} {numbered : List (List Char × Nat)}
  {drawn : List (List Tile)} {world : WorldMap} {e : WorldError}

/-! ### Lines and dimensions -/

/-- The lines of a source, whichever way their ends are found. -/
theorem sourceLines_eq (source : String) : sourceLines source = content source := by
  rw [sourceLines, lines, normalizeNewlines_eq]
  rfl

theorem enough_iff : Enough contest ls ↔ ¬ls.length < minLines contest := by
  cases contest <;> exact Nat.not_lt.symm

/-- The counts that are read are decimal digits, with or without a plus sign. -/
theorem count?_eq_some_iff {s : List Char} {n : Nat} : count? s = some n ↔
    ∃ digits : List Char, (s = digits ∨ s = '+' :: digits) ∧ digits ≠ [] ∧
      (∀ c ∈ digits, c.isDigit = true) ∧ Nat.ofDigitChars 10 digits 0 = n ∧ n < 2 ^ 64 := by
  have hnatural (digits : List Char) : naturalBelow? UInt64.size digits = some n ↔
      digits ≠ [] ∧ (∀ c ∈ digits, c.isDigit = true) ∧ Nat.ofDigitChars 10 digits 0 = n ∧
        n < 2 ^ 64 := by
    rw [naturalBelow?_eq, natural?, Option.filter_eq_some_iff, Option.ite_none_right_eq_some,
      List.all_eq_true, Option.some.injEq, decide_eq_true_eq, and_assoc, and_assoc]
    rfl
  rw [count?, hnatural]
  by_cases hsign : s.head? = some '+'
  · -- A plus sign is no digit, so the digits can only be those after it.
    obtain ⟨digits, rfl⟩ := List.head?_eq_some_iff.1 hsign
    rw [dropSign, if_pos hsign, List.tail_cons]
    constructor
    · exact fun h => ⟨digits, .inr rfl, h⟩
    · rintro ⟨digits', rfl | hsame, hne, hall, hvalue⟩
      · exact absurd (hall '+' List.mem_cons_self) (by decide)
      · obtain rfl := (List.cons.inj hsame).2
        exact ⟨hne, hall, hvalue⟩
  · rw [dropSign, if_neg hsign]
    constructor
    · exact fun h => ⟨s, .inl rfl, h⟩
    · rintro ⟨digits, rfl | rfl, h⟩
      · exact h
      · exact absurd rfl hsign

/-- The dimensions that are read are the lines that are dimensions. -/
theorem readDimension_eq_ok_iff {n : Nat} : readDimension line = .ok n ↔ IsDimension line n := by
  have hcount : IsDimension line n ↔ count? (trim line) = some n ∧ 0 < n := by
    rw [count?_eq_some_iff, IsDimension]
    constructor
    · rintro ⟨digits, hsign, hne, hall, hvalue, hpos, hlt⟩
      exact ⟨⟨digits, hsign, hne, hall, hvalue, hlt⟩, hpos⟩
    · rintro ⟨⟨digits, hsign, hne, hall, hvalue, hlt⟩, hpos⟩
      exact ⟨digits, hsign, hne, hall, hvalue, hpos, hlt⟩
  rw [hcount, readDimension]
  cases count? (trim line) with
  | none => simp
  | some m =>
    by_cases hpos : 0 < m
    · simp only [hpos, ↓reduceIte, Except.ok.injEq, Option.some.injEq]
      exact ⟨fun hm => ⟨hm, hm ▸ hpos⟩, And.left⟩
    · simp only [hpos, ↓reduceIte, Option.some.injEq, reduceCtorEq, false_iff, not_and]
      exact fun hm => hm ▸ hpos

/-- A line that is no dimension is reported as such. -/
theorem readDimension_eq_error (h : ¬∃ n, IsDimension line n) :
    readDimension line = .error .invalidDimensions := by
  have hnone : ∀ n, readDimension line ≠ .ok n := fun n hn => h ⟨n, readDimension_eq_ok_iff.1 hn⟩
  unfold readDimension at hnone ⊢
  split
  next n hcount =>
    split
    next hpos => exact absurd (by rw [hcount]; exact if_pos hpos) (hnone n)
    next => rfl
  next => rfl

/-! ### Rows -/

theorem symbol_singleton_iff {c : Char} : Tile.Symbol [c] tile ↔ Tile.ofSymbol? c = some tile := by
  constructor
  · intro h
    cases h with
    | rock | clear | redHill | blackHill => rfl
    | food hlow hhigh =>
      -- The digits come after the other symbols.
      have hne : ∀ d : Char, d < '1' → c ≠ d := by
        rintro d hd rfl
        exact absurd hlow (Char.not_le.2 hd)
      rw [Tile.ofSymbol?, if_neg (hne _ (by decide)), if_neg (hne _ (by decide)),
        if_neg (hne _ (by decide)), if_neg (hne _ (by decide)), if_pos ⟨hlow, hhigh⟩]
  · intro h
    unfold Tile.ofSymbol? at h
    split_ifs at h with hrock hclear hred hblack hfood
    · rw [hrock, ← Option.some.inj h]
      exact .rock
    · rw [hclear, ← Option.some.inj h]
      exact .clear
    · rw [hred, ← Option.some.inj h]
      exact .redHill
    · rw [hblack, ← Option.some.inj h]
      exact .blackHill
    · rw [← Option.some.inj h]
      exact .food hfood.1 hfood.2

/-- A piece that is a symbol is read as its tile. -/
theorem readTiles_cons (h : Tile.Symbol piece tile) :
    readTiles row tiles (piece :: after) = readTiles row (tiles.push tile) after := by
  obtain ⟨c, rfl⟩ : ∃ c, piece = [c] := by cases h <;> exact ⟨_, rfl⟩
  rw [readTiles]
  simp only [symbol_singleton_iff.1 h]

/-- A piece that is no symbol is reported. -/
theorem readTiles_eq_error (h : ¬∃ tile, Tile.Symbol piece tile) :
    readTiles row tiles (piece :: after) =
      .error (.unrecognizedCell row (String.ofList piece)) := by
  unfold readTiles
  split
  next c =>
    split
    next tile htile => exact absurd ⟨tile, symbol_singleton_iff.2 htile⟩ h
    next => rfl
  next => rfl

/-- Pieces that are symbols are read as their tiles. -/
theorem readTiles_append (h : List.Forall₂ Tile.Symbol before read) :
    readTiles row tiles (before ++ after) = readTiles row (tiles ++ read.toArray) after := by
  induction h generalizing tiles with
  | nil => simp
  | cons hpiece _ ih =>
    rw [List.cons_append, readTiles_cons hpiece, ih]
    simp

/-- The indentation of a row is taken off. -/
theorem unindent_eq_ok (h : Indented row line body) : unindent row line = .ok body := by
  obtain ⟨rfl, hbody⟩ := h
  unfold unindent
  rcases Nat.mod_two_eq_zero_or_one row with heven | hodd
  · rw [heven, if_neg (by decide), List.replicate_zero, List.nil_append]
    split
    next rest => exact absurd (List.head?_cons) hbody
    next => rfl
  · rw [hodd, if_pos rfl, List.replicate_one, List.singleton_append]
    split
    next rest heq =>
      obtain rfl := (List.cons.inj heq).2
      exact absurd (List.head?_cons) hbody
    next body' _ heq => rw [(List.cons.inj heq).2]
    next _ hspace => exact absurd rfl (hspace body)

/-- A row that is indented is read piece by piece. -/
theorem readRow_of_indented (h : Indented row line body) :
    readRow width row tiles line =
      if (pieces body).length ≠ width then .error (.widthMismatch row width (pieces body).length)
      else readTiles row tiles (pieces body) := by
  rw [readRow, unindent_eq_ok h]
  rfl

/-- The drawing of a row is read as the tiles that are drawn. -/
theorem RowDrawn.readRow_eq {line : List Char × Nat} (h : RowDrawn width line read) :
    readRow width line.2 tiles line.1 = .ok (tiles ++ read.toArray) := by
  obtain ⟨body, hindented, hlength, hsymbols⟩ := h
  have hread : readTiles line.2 tiles (pieces body ++ []) =
      readTiles line.2 (tiles ++ read.toArray) [] := readTiles_append hsymbols
  rw [List.append_nil] at hread
  rw [readRow_of_indented hindented, if_neg (not_not.2 hlength), hread, readTiles]

/-- The fault of a row is reported. -/
theorem RowFault.readRow_eq {line : List Char × Nat} (h : RowFault width line e) :
    readRow width line.2 tiles line.1 = .error e := by
  cases h with
  | @missingSpace line row hodd hline =>
    have hunindent : unindent row line = .error (.missingOddRowSpace row) := by
      unfold unindent
      rw [if_pos hodd]
      split
      next => exact absurd List.head?_cons hline
      next => exact absurd List.head?_cons hline
      next => rfl
    rw [readRow, hunindent]
    rfl
  | extraSpace hodd =>
    unfold readRow unindent
    rw [if_pos hodd]
    rfl
  | unexpectedSpace heven =>
    unfold readRow unindent
    rw [if_neg (by omega)]
    rfl
  | widthMismatch hindented hlength => rw [readRow_of_indented hindented, if_pos hlength]
  | unrecognizedCell hindented hlength hpieces hbefore hpiece =>
    rw [readRow_of_indented hindented, if_neg (not_not.2 hlength), hpieces,
      readTiles_append hbefore, readTiles_eq_error hpiece]

/-- If everything in a list is related to something, there is a list of these. -/
theorem exists_forall₂ {α β : Type} {R : α → β → Prop} {l : List α} (h : ∀ a ∈ l, ∃ b, R a b) :
    ∃ l', List.Forall₂ R l l' := by
  induction l with
  | nil => exact ⟨[], .nil⟩
  | cons a l ih =>
    obtain ⟨⟨b, hb⟩, hl⟩ := List.forall_mem_cons.1 h
    obtain ⟨l', hl'⟩ := ih hl
    exact ⟨b :: l', .cons hb hl'⟩

/-- A row is indented as it should be, or that is its fault. -/
theorem indented_or_fault (width row : Nat) (line : List Char) :
    (∃ body, Indented row line body) ∨ ∃ e, RowFault width (line, row) e := by
  rcases Nat.mod_two_eq_zero_or_one row with heven | hodd
  · by_cases hspace : line.head? = some ' '
    · obtain ⟨body, rfl⟩ := List.head?_eq_some_iff.1 hspace
      exact .inr ⟨_, .unexpectedSpace heven⟩
    · exact .inl ⟨line, by rw [heven]; rfl, hspace⟩
  · by_cases hspace : line.head? = some ' '
    · obtain ⟨body, rfl⟩ := List.head?_eq_some_iff.1 hspace
      by_cases hextra : body.head? = some ' '
      · obtain ⟨body, rfl⟩ := List.head?_eq_some_iff.1 hextra
        exact .inr ⟨_, .extraSpace hodd⟩
      · exact .inl ⟨body, by rw [hodd]; rfl, hextra⟩
    · exact .inr ⟨_, .missingSpace hodd hspace⟩

/-- A line is the drawing of a row, or it has a fault. -/
theorem drawn_or_fault (width : Nat) (line : List Char × Nat) :
    (∃ tiles, RowDrawn width line tiles) ∨ ∃ e, RowFault width line e := by
  rcases indented_or_fault width line.2 line.1 with ⟨body, hindented⟩ | hfault
  · by_cases hlength : (pieces body).length = width
    · rcases exists_first_not (fun piece => ∃ tile, Tile.Symbol piece tile) (pieces body) with
        hall | ⟨before, piece, after, hpieces, hbefore, hpiece⟩
      · obtain ⟨tiles, htiles⟩ := exists_forall₂ hall
        exact .inl ⟨tiles, body, hindented, hlength, htiles⟩
      · obtain ⟨tiles, htiles⟩ := exists_forall₂ hbefore
        exact .inr ⟨_, .unrecognizedCell hindented hlength hpieces htiles hpiece⟩
    · exact .inr ⟨_, .widthMismatch hindented hlength⟩
  · exact .inr hfault

/-- Rows are read one after the other. -/
theorem readRows_eq_foldlM (width row : Nat) (tiles : Array Tile) (rows : List (List Char)) :
    readRows width row tiles rows =
      (rows.zipIdx row).foldlM (fun tiles line => readRow width line.2 tiles line.1) tiles := by
  induction rows generalizing row tiles with
  | nil => rfl
  | cons line rows ih =>
    rw [readRows, List.zipIdx_cons, List.foldlM_cons]
    cases readRow width row tiles line with
    | ok tiles => exact ih (row + 1) tiles
    | error e => rfl

/-- The drawings of rows are read as the tiles that are drawn. -/
theorem foldlM_readRow_eq (h : List.Forall₂ (RowDrawn width) numbered drawn) :
    numbered.foldlM (fun tiles line => readRow width line.2 tiles line.1) tiles =
      .ok (tiles ++ drawn.flatten.toArray) := by
  induction h generalizing tiles with
  | nil => simp [pure, Except.pure]
  | cons hrow _ ih =>
    rw [List.foldlM_cons, hrow.readRow_eq, List.flatten_cons]
    show List.foldlM _ _ _ = _
    rw [ih]
    simp

/-- A row has as many tiles as the width says. -/
theorem length_flatten_drawn (h : List.Forall₂ (RowDrawn width) numbered drawn) :
    drawn.flatten.length = width * numbered.length := by
  induction h with
  | nil => rfl
  | cons hrow _ ih =>
    obtain ⟨body, -, hlength, hsymbols⟩ := hrow
    rw [List.flatten_cons, List.length_append, ih, List.length_cons, ← hsymbols.length_eq, hlength,
      Nat.mul_succ, Nat.add_comm]

/-! ### Worlds that are drawn -/

theorem IsDimension.pos {n : Nat} (h : IsDimension line n) : 0 < n ∧ n < 2 ^ 64 := by
  obtain ⟨digits, -, -, -, -, hpos, hlt⟩ := h
  exact ⟨hpos, hlt⟩

/-- There is a tile for every cell of a world that is drawn. -/
theorem Drawing.wellFormed (h : Drawing contest ls world) : world.WellFormed := by
  obtain ⟨rows, drawn, -, hrows, hdrawn, htiles⟩ := h
  rw [WellFormed, htiles, List.size_toArray, length_flatten_drawn hdrawn, List.length_zipIdx, hrows]

/-- The dimensions of a world that is drawn are in range. -/
theorem Drawing.size (h : Drawing contest ls world) :
    (0 < world.width ∧ world.width < 2 ^ 64) ∧ 0 < world.height ∧ world.height < 2 ^ 64 := by
  obtain ⟨rows, drawn, hheader, -⟩ := h
  obtain ⟨_, _, -, hwidth, hheight⟩ := hheader.dimensions
  exact ⟨hwidth.pos, hheight.pos⟩

/-- Check a world that is drawn by the rules. -/
def check (world : WorldMap) (contest : Bool) : Except WorldError Unit := do
  world.checkBasics
  if contest then world.checkContest

/-- A world that is drawn is checked by the rules in their order. -/
theorem Drawing.verdict_check (h : Drawing contest ls world) :
    Verdict (world.rules contest) (world.check contest) := by
  obtain ⟨⟨hwidth, -⟩, hheight, -⟩ := h.size
  refine (verdict_checkBasics h.wellFormed hwidth hheight).bind fun _ _ => ?_
  cases contest with
  | false => exact .pass ()
  | true =>
    show Verdict [world.contestRule] world.checkContest
    cases hcheck : world.checkContest with
    | ok => exact .next hcheck (.pass ())
    | error e =>
      refine .breach (fun hkept => ?_) hcheck
      rw [contestRule, hcheck] at hkept
      cases hkept

/-- The rules for worlds that are drawn report one thing each. -/
theorem rules_report {rule : Rule} (hrule : rule ∈ world.rules contest) (e e' : WorldError)
    (h : rule.Reports e) (h' : rule.Reports e') : e = e' := by
  have hbasic : ∀ rule ∈ world.basicRules, ∀ e e', rule.Reports e → rule.Reports e' → e = e' := by
    simp only [basicRules, enclosureRule, hillRule, foodRule, List.forall_mem_cons]
    simp +contextual
  rcases List.mem_append.1 hrule with hmem | hmem
  · exact hbasic rule hmem e e' h h'
  · cases contest with
    | false => cases hmem
    | true =>
      obtain rfl := List.mem_singleton.1 hmem
      exact Except.error.inj (Eq.trans (Eq.symm h) h')

/-! ### Reading lines -/

/-- Lines that begin with dimensions are read row by row, and then the rules are checked. -/
theorem ofLines_of_header (h : Header contest ls width height rows) : ofLines contest ls =
    if rows.length ≠ height then .error (.heightMismatch height rows.length)
    else readRows width 0 #[] rows >>= fun tiles =>
      (check ⟨⟨width, height⟩, tiles⟩ contest).map fun _ => ⟨⟨width, height⟩, tiles⟩ := by
  obtain ⟨henough, ⟨widthLine, heightLine, rfl, hwidth, hheight⟩, hsize⟩ := h
  have hcontest : ¬(contest = true ∧ (width ≠ contestSize ∨ height ≠ contestSize)) := by
    rintro ⟨hcontest, hbad | hbad⟩
    · exact hbad (hsize hcontest).1
    · exact hbad (hsize hcontest).2
  -- A header passes all the checks that come before the rows are read.
  simp only [ofLines, if_neg (enough_iff.1 henough), readDimension_eq_ok_iff.2 hwidth,
    readDimension_eq_ok_iff.2 hheight, bind, Except.bind, if_neg hcontest]
  split
  · rfl
  · cases readRows width 0 #[] rows with
    | error e => rfl
    | ok tiles =>
      simp only [check, bind, Except.bind]
      cases checkBasics ⟨⟨width, height⟩, tiles⟩ with
      | error e => rfl
      | ok _ =>
        cases contest with
        | false => rfl
        | true =>
          simp only [↓reduceIte]
          cases checkContest ⟨⟨width, height⟩, tiles⟩ <;> rfl

/-- A world that is drawn is checked. -/
theorem Drawing.ofLines_eq (h : Drawing contest ls world) :
    ofLines contest ls = (world.check contest).map fun _ => world := by
  obtain ⟨rows, drawn, hheader, hrows, hdrawn, htiles⟩ := h
  rw [ofLines_of_header hheader, if_neg (not_not.2 hrows), readRows_eq_foldlM,
    foldlM_readRow_eq hdrawn, Array.empty_append, ← htiles]
  rfl

/-- A result by the description is what reading comes to. -/
theorem Outcome.ofLines_eq {result : Except WorldError WorldMap} (h : Outcome contest ls result) :
    ofLines contest ls = result := by
  cases h with
  | tooFewLines hfew =>
    unfold ofLines
    rw [if_pos (not_not.1 (enough_iff.not.1 hfew))]
    rfl
  | @invalidDimensions widthLine heightLine rows henough hlines hinvalid =>
    subst hlines
    simp only [ofLines, if_neg (enough_iff.1 henough)]
    by_cases hwidth : ∃ n, IsDimension widthLine n
    · have hheight := hinvalid.resolve_left (not_not.2 hwidth)
      obtain ⟨width, hwidth⟩ := hwidth
      rw [readDimension_eq_ok_iff.2 hwidth, readDimension_eq_error hheight]
      rfl
    · rw [readDimension_eq_error hwidth]
      rfl
  | @contestDimensions widthLine heightLine rows width height henough hlines hwidth hheight hcontest
      hsize =>
    subst hlines
    have hrefused : contest = true ∧ (width ≠ contestSize ∨ height ≠ contestSize) :=
      ⟨hcontest, not_and_or.1 hsize⟩
    simp only [ofLines, if_neg (enough_iff.1 henough), readDimension_eq_ok_iff.2 hwidth,
      readDimension_eq_ok_iff.2 hheight, bind, Except.bind, if_pos hrefused]
    rfl
  | heightMismatch hheader hrows => rw [ofLines_of_header hheader, if_pos hrows]
  | rowFault hheader hrows hsplit hbefore hfault =>
    -- The rows before the fault are read, and then the fault ends the reading.
    rw [ofLines_of_header hheader, if_neg (not_not.2 hrows), readRows_eq_foldlM, hsplit,
      List.foldlM_append, foldlM_readRow_eq hbefore]
    simp only [bind, Except.bind, List.foldlM_cons, hfault.readRow_eq]
  | checked hdrawing hverdict =>
    rw [hdrawing.ofLines_eq, hdrawing.verdict_check.unique (fun _ => rules_report) hverdict]

/-- Lines with dimensions have an outcome. -/
theorem Header.exists_outcome (h : Header contest ls width height rows) :
    ∃ result, Outcome contest ls result := by
  by_cases hrows : rows.length = height
  · rcases exists_first_not (fun line => ∃ tiles, RowDrawn width line tiles) rows.zipIdx with
      hall | ⟨before, line, after, hsplit, hbefore, hnone⟩
    · obtain ⟨drawn, hdrawn⟩ := exists_forall₂ hall
      have hdrawing : Drawing contest ls ⟨⟨width, height⟩, drawn.flatten.toArray⟩ :=
        ⟨rows, drawn, h, hrows, hdrawn, rfl⟩
      exact ⟨_, .checked hdrawing hdrawing.verdict_check⟩
    · obtain ⟨drawn, hdrawn⟩ := exists_forall₂ hbefore
      obtain ⟨e, hfault⟩ := (drawn_or_fault width line).resolve_left hnone
      exact ⟨_, .rowFault h hrows hsplit hdrawn hfault⟩
  · exact ⟨_, .heightMismatch h hrows⟩

/-- The description gives all lines an outcome. -/
theorem exists_outcome (contest : Bool) (ls : List (List Char)) :
    ∃ result, Outcome contest ls result := by
  by_cases henough : Enough contest ls
  · -- There are more than two lines, so there are lines for the dimensions.
    obtain ⟨widthLine, heightLine, rows, hlines⟩ :
        ∃ widthLine heightLine rows, ls = widthLine :: heightLine :: rows := by
      have hlength : 2 ≤ ls.length := by
        unfold Enough at henough
        split at henough <;> omega
      match ls, hlength with
      | widthLine :: heightLine :: rows, _ => exact ⟨widthLine, heightLine, rows, rfl⟩
    by_cases hwidth : ∃ n, IsDimension widthLine n
    · by_cases hheight : ∃ n, IsDimension heightLine n
      · obtain ⟨width, hwidth⟩ := hwidth
        obtain ⟨height, hheight⟩ := hheight
        by_cases hsize : contest = true → width = 150 ∧ height = 150
        · have hheader : Header contest ls width height rows :=
            ⟨henough, ⟨widthLine, heightLine, hlines, hwidth, hheight⟩, hsize⟩
          exact hheader.exists_outcome
        · obtain ⟨hcontest, hsize⟩ := Classical.not_imp.1 hsize
          exact ⟨_, .contestDimensions henough hlines hwidth hheight hcontest hsize⟩
      · exact ⟨_, .invalidDimensions henough hlines (.inr hheight)⟩
    · exact ⟨_, .invalidDimensions henough hlines (.inl hwidth)⟩
  · exact ⟨_, .tooFewLines henough⟩

/-! ### Reading sources -/

theorem parse_eq (source : String) (contest : Bool) :
    parse source contest = ofLines contest (content source) := by
  rw [parse, sourceLines_eq]

/-- What reading a source comes to is an outcome by the description. -/
theorem outcome_parse (source : String) (contest : Bool) :
    Outcome contest (content source) (parse source contest) := by
  obtain ⟨result, h⟩ := exists_outcome contest (content source)
  rwa [parse_eq, h.ofLines_eq]

/-- A world comes out of a source that draws it, if it keeps the rules. -/
theorem parse_eq_ok_iff : parse source contest = .ok world ↔
    Drawing contest (content source) world ∧ ∀ rule ∈ world.rules contest, rule.Kept := by
  constructor
  · intro h
    have houtcome := outcome_parse source contest
    rw [h] at houtcome
    generalize hresult : Except.ok world = result at houtcome
    cases houtcome with
    | @checked drawn result hdrawing hverdict =>
      cases result with
      | ok =>
        obtain rfl := Except.ok.inj hresult
        exact ⟨hdrawing, hverdict.eq_ok_iff.1 rfl⟩
      | error e => cases hresult
    | _ => cases hresult
  · rintro ⟨hdrawing, hkept⟩
    rw [parse_eq, hdrawing.ofLines_eq, hdrawing.verdict_check.eq_ok_iff.2 hkept]
    rfl

/-- Reading a source comes to a result if and only if the description gives that result. What is
checked by the rules is a world that the source draws, which has a tile for every cell; and so has
every world that comes out. -/
theorem parse_eq_iff (source : String) (contest : Bool) :
    (∀ result, parse source contest = result ↔ Outcome contest (content source) result) ∧
      (∀ world, Drawing contest (content source) world →
        parse source contest = ((world.check contest).map fun _ => world) ∧ world.WellFormed ∧
          0 < world.width ∧ 0 < world.height) ∧
      ∀ world, parse source contest = .ok world →
        Drawing contest (content source) world ∧ world.WellFormed := by
  refine ⟨fun result => ⟨?_, fun h => ?_⟩, fun world hdrawing => ?_, fun world h => ?_⟩
  · rintro rfl
    exact outcome_parse source contest
  · rw [parse_eq, h.ofLines_eq]
  · obtain ⟨⟨hwidth, -⟩, hheight, -⟩ := hdrawing.size
    rw [parse_eq]
    exact ⟨hdrawing.ofLines_eq, hdrawing.wellFormed, hwidth, hheight⟩
  · obtain ⟨hdrawing, -⟩ := parse_eq_ok_iff.1 h
    exact ⟨hdrawing, hdrawing.wellFormed⟩

/-- A small world with all kinds of tiles. -/
def clearing : WorldMap where
  width := 5
  height := 5
  tiles := #[.rock, .rock, .rock, .rock, .rock, .rock, .hill .red, .clear, .food 9, .rock, .rock,
    .clear, .food 3, .hill .black, .rock, .rock, .clear, .clear, .clear, .rock, .rock, .rock, .rock,
    .rock, .rock]

/-- The small world is drawn by a source with all kinds of line ends, blanks at the ends of lines,
blank lines at its end and dimensions with a sign and zeros. -/
theorem parse_clearing :
    let source := "+5 \r\n\t005\r# # # # #\n # + . 9 #\r\n# . 3 - # \t\n" ++
      " # . . . #\n# # # # #\n  \r\n\n"
    parse source false = .ok clearing ∧ Outcome false (content source) (.ok clearing) ∧
      Drawing false (content source) clearing ∧ clearing.WellFormed := by
  intro source
  have hparse : parse source false = .ok clearing := by decide +kernel
  obtain ⟨hresult, -, hworld⟩ := parse_eq_iff source false
  exact ⟨hparse, (hresult _).1 hparse, hworld clearing hparse⟩

end WorldMap

end Formicary
