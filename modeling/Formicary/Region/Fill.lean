import Formicary.World.Error
import Formicary.World.Map

/-!
# Flood fill

`WorldMap.fill` collects the cells of one kind that are connected with a start cell. It keeps a
stack of cells whose neighbours are still to be looked at and a shared record of the cells seen,
and marks a cell as seen when it puts it on the stack, so no cell comes twice. A hill must keep
its distance: filling one fails at the first neighbour that is rock or a hill of the other colour.
`WorldMap.components` fills from every cell of a kind, in the order of the cells, until all of
them are seen.
-/

namespace Formicary

/-- Whether a hill may not touch a tile: rock, or a hill of the other colour. -/
def Tile.forbids : Tile → Tile → Bool
  | .hill _, .rock => true
  | .hill a, .hill b => a ≠ b
  | _, _ => false

namespace WorldMap

/-- Look at the neighbours of a cell in the given directions, put those that are of the target's
kind and not yet seen on the stack, and mark them as seen. -/
def expand (world : WorldMap) (target : Tile) (h : Hex) :
    List Direction → Array Bool → List Hex → Array Bool × Except WorldError (List Hex)
  | [], seen, stack => (seen, .ok stack)
  | d :: ds, seen, stack =>
    let next := d.step h
    match world.index? next with
    | none => expand world target h ds seen stack
    | some i =>
      if (world.tiles.getD i .rock).sameKind target then
        -- Marked when it is put on the stack, not when it is taken off: it cannot come twice.
        if seen.getD i true then expand world target h ds seen stack
        else expand world target h ds (seen.setIfInBounds i true) (next :: stack)
      else if target.forbids (world.tiles.getD i .rock) then
        (seen, .error (.hillAdjacency next.row.toNat next.col.toNat))
      else expand world target h ds seen stack

/-- Marking an unseen cell as seen leaves one unseen cell less. -/
theorem count_setIfInBounds_add_one {seen : Array Bool} {i : Nat} (h : seen.getD i true = false) :
    (seen.setIfInBounds i true).count false + 1 = seen.count false := by
  by_cases hi : i < seen.size
  · have hfalse : seen[i] = false := by simpa [Array.getD, hi] using h
    have hpos : 0 < seen.count false :=
      Array.count_pos_iff.2 (hfalse ▸ Array.getElem_mem hi)
    simp [Array.setIfInBounds, hi, Array.count_set, hfalse]
    omega
  · simp [Array.getD, hi] at h

/-- Looking at neighbours puts as many cells on the stack as it marks as seen. -/
theorem count_add_length_of_expand {world : WorldMap} {target : Tile} {h : Hex}
    {ds : List Direction} {seen seen' : Array Bool} {stack stack' : List Hex}
    (hexp : expand world target h ds seen stack = (seen', .ok stack')) :
    seen'.count false + stack'.length = seen.count false + stack.length := by
  induction ds generalizing seen stack with
  | nil =>
    simp only [expand, Prod.mk.injEq, Except.ok.injEq] at hexp
    obtain ⟨rfl, rfl⟩ := hexp
    rfl
  | cons d ds ih =>
    rw [expand] at hexp
    split at hexp
    · exact ih hexp
    · split at hexp
      · split at hexp
        · exact ih hexp
        · rename_i hunseen
          have hcount := count_setIfInBounds_add_one (Bool.eq_false_iff.2 hunseen)
          rw [ih hexp, List.length_cons]
          omega
      · split at hexp
        · simp at hexp
        · exact ih hexp

/-- Empty the stack: take the cell put there last, note it, and look at its neighbours. `found`
holds the cells noted so far, the latest first. -/
def fillFrom (world : WorldMap) (target : Tile) (seen : Array Bool) (stack found : List Hex) :
    Array Bool × Except WorldError (List Hex) :=
  match stack with
  | [] => (seen, .ok found.reverse)
  | h :: rest =>
    match _hexp : expand world target h Direction.all seen rest with
    | (seen', .ok stack') => fillFrom world target seen' stack' (h :: found)
    | (seen', .error e) => (seen', .error e)
termination_by seen.count false + stack.length
decreasing_by
  -- What goes on the stack was unseen before, and one cell has been taken off.
  have := count_add_length_of_expand _hexp
  simp only [List.length_cons]
  omega

/-- The cells of the start's kind that are connected with the start, in the order in which they
are reached, through cells that are not yet seen. The record of the cells seen is returned with
them, also when the fill fails. The start belongs to the answer whether it was seen or not. -/
def fill (world : WorldMap) (start : Hex) (seen : Array Bool) :
    Array Bool × Except WorldError (List Hex) :=
  match world.index? start with
  | none => (seen, .ok [])
  | some i =>
    fillFrom world (world.tiles.getD i .rock) (seen.setIfInBounds i true) [start] []

/-- Fill from every one of the given cells that is of the target's kind and not yet seen. `found`
holds the components found so far, the latest first. -/
def componentsFrom (world : WorldMap) (target : Tile) (seen : Array Bool)
    (found : List (List Hex)) : List Nat → Except WorldError (List (List Hex))
  | [] => .ok found.reverse
  | i :: rest =>
    if !seen.getD i true && (world.tiles.getD i .rock).sameKind target then
      match world.fill (world.hex i) seen with
      | (seen, .ok cells) => componentsFrom world target seen (cells :: found) rest
      | (_, .error e) => .error e
    else componentsFrom world target seen found rest

/-- The connected components of a kind, ordered by their first cells. -/
def components (world : WorldMap) (target : Tile) : Except WorldError (List (List Hex)) :=
  componentsFrom world target (Array.replicate world.tiles.size false) []
    (List.range (world.height * world.width))

end WorldMap

end Formicary
