import Formicary.Proofs.World.Reference

/-!
# Worlds that can be drawn

A world can be drawn and read back if it has what every world must have and each of its tiles has
a symbol (`WorldMap.Drawable`). Both halves of the round trip meet at this description: a world of
this kind is read back from its printed form (`Drawable.parse_text`), and whatever is read from any
source is a world of this kind (`drawable_of_parse`). So printing a world that was read and reading
it again changes nothing, by the basic rules or by those of a contest
(`WorldMap.parse_text_inverse`).
-/

namespace Formicary

open Text

/-- A tile that has a symbol is printed as a single character. -/
theorem Tile.Symbol.printable {piece : List Char} {tile : Tile} (h : Tile.Symbol piece tile) :
    tile.Printable := by
  cases h with
  | rock | clear | redHill | blackHill => trivial
  | @food c hlow hhigh =>
    have hlow' : '1'.toNat ≤ c.toNat := UInt32.le_iff_toNat_le.1 hlow
    have hhigh' : c.toNat ≤ '9'.toNat := UInt32.le_iff_toNat_le.1 hhigh
    show 1 ≤ c.toNat - '0'.toNat ∧ c.toNat - '0'.toNat ≤ 9
    simp only [Char.reduceToNat] at hlow' hhigh' ⊢
    omega

namespace WorldMap

/-- A world can be drawn, and its drawing is that of a world. -/
structure Drawable (world : WorldMap) : Prop where
  /-- There is a tile for every cell. -/
  wellFormed : world.WellFormed
  /-- The width is positive and fits a word of 64 bits. -/
  width : 0 < world.width ∧ world.width < 2 ^ 64
  /-- The height is positive and fits a word of 64 bits. -/
  height : 0 < world.height ∧ world.height < 2 ^ 64
  /-- All tiles can be printed; in particular, all food is of an amount from one to nine. -/
  printable : ∀ tile ∈ world.tiles, tile.Printable
  /-- The edge is rock. -/
  edge : ∀ x ∈ world.edge, world.tile? x = some .rock
  /-- Every colony has a hill. -/
  hill : ∀ color, ∃ x, world.tile? x = some (.hill color)
  /-- There is food. -/
  food : ∃ x amount, world.tile? x = some (.food amount)

variable {world : WorldMap} {contest : Bool} {source : String} {ls : List (List Char)}

/-! ### Worlds that are printed -/

/-- A hill does not lie on the edge, so there are more than two rows. -/
theorem Drawable.three_le_height (h : world.Drawable) : 3 ≤ world.height := by
  obtain ⟨x, hx⟩ := h.hill .red
  have hinside := contains_of_tile? hx
  have hoff : x ∉ world.edge := by
    intro hedge
    have hrock := h.edge x hedge
    rw [hx] at hrock
    cases hrock
  obtain ⟨hrow, hrow', -⟩ := id hinside
  by_contra hlow
  -- Each of two rows is the first or the last.
  exact hoff ⟨hinside, by omega⟩

/-- A world that can be drawn keeps the basic rules. -/
theorem Drawable.checkBasics_eq (h : world.Drawable) : world.checkBasics = .ok () := by
  apply (verdict_checkBasics h.wellFormed h.width.1 h.height.1).eq_ok_iff.2
  show ∀ rule ∈ [_, _, _, _], _
  simp only [List.forall_mem_cons]
  exact ⟨h.edge, h.hill .red, h.hill .black, h.food, nofun⟩

/-- A world that can be drawn is read back from its printed form, if it keeps the rules that the
basic rules do not include. -/
theorem Drawable.parse_text (h : world.Drawable)
    (hcontest : contest = true →
      (world.width = 150 ∧ world.height = 150) ∧ world.checkContest = .ok ()) :
    parse world.text contest = .ok world := by
  have hlines : minLines contest ≤ world.height + 2 := by
    have hthree := h.three_le_height
    cases contest with
    | false => exact Nat.add_le_add_right hthree 2
    | true => rw [(hcontest rfl).1.2]; decide
  rw [WorldMap.parse_text h.wellFormed h.width.1 h.height.1 h.width.2 h.height.2 h.printable contest
    hlines fun hc => (hcontest hc).1, h.checkBasics_eq]
  cases contest with
  | false => rfl
  | true =>
    show Except.map _ world.checkContest = _
    rw [(hcontest rfl).2]
    rfl

/-! ### Worlds that are read -/

/-- What is related to something in a list has all that such things have. -/
theorem forall_mem_of_forall₂ {α β : Type} {R : α → β → Prop} {P : β → Prop} {l : List α}
    {l' : List β} (hP : ∀ a b, R a b → P b) (h : List.Forall₂ R l l') : ∀ b ∈ l', P b := by
  induction h with
  | nil => simp
  | cons hab _ ih => exact List.forall_mem_cons.2 ⟨hP _ _ hab, ih⟩

/-- The tiles that are drawn are tiles that can be printed. -/
theorem Drawing.printable (h : Drawing contest ls world) :
    ∀ tile ∈ world.tiles, tile.Printable := by
  obtain ⟨rows, drawn, -, -, hdrawn, htiles⟩ := h
  have hrow : ∀ tiles ∈ drawn, ∀ tile ∈ tiles, tile.Printable := by
    refine forall_mem_of_forall₂ (fun line tiles hline => ?_) hdrawn
    obtain ⟨body, -, -, hsymbols⟩ := hline
    exact forall_mem_of_forall₂ (fun _ _ hsymbol => hsymbol.printable) hsymbols
  intro tile htile
  rw [htiles, List.mem_toArray] at htile
  obtain ⟨tiles, hmem, htile⟩ := List.mem_flatten.1 htile
  exact hrow tiles hmem tile htile

/-- A world that is drawn and keeps the rules can be drawn. -/
theorem Drawing.drawable (h : Drawing contest ls world)
    (hkept : ∀ rule ∈ world.rules contest, rule.Kept) : world.Drawable := by
  have hbasic : ∀ rule ∈ world.basicRules, rule.Kept := fun rule hrule =>
    hkept rule (List.mem_append_left _ hrule)
  have hhill : ∀ color, (world.hillRule color).Kept := by
    intro color
    cases color with
    | red => exact hbasic _ (by simp [basicRules])
    | black => exact hbasic _ (by simp [basicRules])
  obtain ⟨hwidth, hheight⟩ := h.size
  exact {
    wellFormed := h.wellFormed
    width := hwidth
    height := hheight
    printable := h.printable
    edge := hbasic world.enclosureRule (by simp [basicRules])
    hill := hhill
    food := hbasic world.foodRule (by simp [basicRules]) }

/-- Every world that is read can be drawn. -/
theorem drawable_of_parse (h : parse source contest = .ok world) : world.Drawable := by
  obtain ⟨hdrawing, hkept⟩ := parse_eq_ok_iff.1 h
  exact hdrawing.drawable hkept

/-- A world that is read by the contest rules has the size of a contest world and keeps them. -/
theorem contest_of_parse (h : parse source true = .ok world) :
    (world.width = 150 ∧ world.height = 150) ∧ world.checkContest = .ok () := by
  obtain ⟨⟨rows, drawn, hheader, -⟩, hkept⟩ := parse_eq_ok_iff.1 h
  exact ⟨hheader.size rfl, hkept world.contestRule (by simp [rules])⟩

/-- A drawing of a contest world is the drawing of a world. -/
theorem Drawing.of_contest (h : Drawing true ls world) : Drawing false ls world := by
  obtain ⟨rows, drawn, hheader, hrows, hdrawn, htiles⟩ := h
  have henough : Enough false ls := Nat.le_trans (show 5 ≤ 152 by decide) hheader.enough
  exact ⟨rows, drawn, ⟨henough, hheader.dimensions, nofun⟩, hrows, hdrawn, htiles⟩

/-- A world that is read by the contest rules is read without them too. -/
theorem parse_false_of_parse_true (h : parse source true = .ok world) :
    parse source false = .ok world := by
  obtain ⟨hdrawing, hkept⟩ := parse_eq_ok_iff.1 h
  refine parse_eq_ok_iff.2 ⟨hdrawing.of_contest, fun rule hrule => ?_⟩
  rw [rules, if_neg Bool.false_ne_true, List.append_nil] at hrule
  exact hkept rule (List.mem_append_left _ hrule)

/-- Printing and reading undo each other. A world that can be drawn is read back from its printed
form. Every world that is read from any source can be drawn, so it is read back from its printed
form by the rules by which it was read; and if these are the contest rules, the source may be read
without them just as well. -/
theorem parse_text_inverse :
    (∀ world : WorldMap, world.Drawable → parse world.text false = .ok world) ∧
      ∀ source contest world, parse source contest = .ok world →
        world.Drawable ∧ parse world.text contest = .ok world ∧
          (contest = true → parse source false = .ok world) := by
  refine ⟨fun world h => h.parse_text nofun, fun source contest world h => ?_⟩
  have hdrawable := drawable_of_parse h
  refine ⟨hdrawable, ?_, ?_⟩
  · apply hdrawable.parse_text
    rintro rfl
    exact contest_of_parse h
  · rintro rfl
    exact parse_false_of_parse_true h

/-- The small world is read from a source that is not its printed form, so it can be drawn, and it
is read back from its printed form. -/
theorem parse_text_clearing :
    let source := "5\r5\r# # # # #\r # + . 9 #\r# . 3 - #\r # . . . #\r# # # # #"
    parse source false = .ok clearing ∧ source ≠ clearing.text ∧ clearing.Drawable ∧
      parse clearing.text false = .ok clearing := by
  intro source
  have hsource : parse source false = .ok clearing := by decide +kernel
  have hdrawable : clearing.Drawable := (parse_text_inverse.2 source false clearing hsource).1
  exact ⟨hsource, by decide +kernel, hdrawable, parse_text_inverse.1 clearing hdrawable⟩

end WorldMap

end Formicary
