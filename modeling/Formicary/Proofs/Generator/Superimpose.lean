import Formicary.Proofs.Generator.Canvas
import Formicary.Proofs.Region.Distance

/-!
# Stamps stay inside the canvas

A stamp is put down in two passes over its places: the first looks whether they all land on free
ground, the second paints the body. Where there is no such cell, the definitions of a canvas look up
rock and paint nothing, and where a number would go below zero they stop at zero. The definitions
here follow the same passes but give up in these cases, and the run never does
(`Canvas.superimpose_checked`): one test of the corner before the first pass is enough for all
places.

* `Canvas.PutDown` says what a stamp that is accepted does; one that is refused does nothing.
* `Canvas.landed_walk`: wherever a stamp is accepted it covers cells of the same shape. The two
  mappings of places to cells, one for each parity of the row, differ only on paper.
-/

namespace Formicary

namespace Canvas

variable {canvas canvas' other : Canvas} {stamp : Stamp} {corner corner' : Hex} {paint : Paint}
  {place : Nat × Nat × StampPart} {places : List (Nat × Nat × StampPart)} {r c : Nat}

/-! ### The checked run -/

/-- The row and column on which a place of a stamp lands, if the move to the left does not lead
below zero. -/
def landing? (corner : Hex) (r c : Nat) : Option (Nat × Nat) :=
  let shift := if r % 2 = 1 ∧ corner.row % 2 ≠ 1 then 1 else 0
  if shift ≤ corner.col.toNat + c then
    some (corner.row.toNat + r, corner.col.toNat + c - shift)
  else none

/-- Paint one cell, if there is such a cell. -/
def paintCell? (canvas : Canvas) (row col : Nat) (paint : Paint) : Option Canvas :=
  (canvas.paint? ⟨row, col⟩).map fun _ => canvas.paintCell row col paint

/-- Look whether a place of a stamp lands on free ground. -/
def isFreeAt? (canvas : Canvas) (corner : Hex) (place : Nat × Nat × StampPart) : Option Bool := do
  let (row, col) ← landing? corner place.1 place.2.1
  let paint ← canvas.paint? ⟨row, col⟩
  return paint.isFree

/-- Paint one place of a stamp, if it belongs to the body. -/
def paintPlace? (corner : Hex) (paint : Paint) (canvas : Canvas)
    (place : Nat × Nat × StampPart) : Option Canvas :=
  if place.2.2 = .body then do
    let (row, col) ← landing? corner place.1 place.2.1
    canvas.paintCell? row col paint
  else some canvas

/-- Put a stamp down, with a check of every access and of every subtraction. The answer is whether
the stamp is accepted, with what is then on the canvas. -/
def superimpose? (canvas : Canvas) (stamp : Stamp) (corner : Hex) (paint : Paint) :
    Option (Bool × Canvas) := do
  -- A stamp is as wide as its first line.
  let _ ← stamp.head?
  if canvas.hasRoom stamp corner then
    -- The first pass ends at the first place that is not free.
    let free ← stamp.places.allM (canvas.isFreeAt? corner)
    if free then
      let painted ← stamp.places.foldlM (paintPlace? corner paint) canvas
      return (true, painted)
    else return (false, canvas)
  else return (false, canvas)

/-- Where there is room for a stamp, no place is moved below zero. -/
theorem landing?_eq (hroom : canvas.hasRoom stamp corner = true) (r c : Nat) :
    landing? corner r c = some (landing corner r c) := by
  obtain ⟨⟨hrow, hcol⟩, -, hparity⟩ := hasRoom_iff.1 hroom
  rw [landing?, landing]
  refine if_pos ?_
  split <;> omega

/-- A test that always comes to an answer is made of all elements. -/
theorem allM_eq_some {α : Type} {l : List α} {p? : α → Option Bool} {p : α → Bool}
    (h : ∀ a ∈ l, p? a = some (p a)) : l.allM p? = some (l.all p) := by
  induction l with
  | nil => rfl
  | cons a l ih =>
    rw [List.allM, h a List.mem_cons_self, List.all_cons]
    cases p a with
    | false => rfl
    | true => exact ih fun b hb => h b (List.mem_cons_of_mem a hb)

/-- The first pass comes to an answer. -/
theorem allM_isFreeAt? (hcanvas : canvas.WellFormed) (hstamp : stamp.Rectangular)
    (hroom : canvas.hasRoom stamp corner = true) :
    stamp.places.allM (canvas.isFreeAt? corner) = some (canvas.isFreeFor stamp corner) := by
  refine allM_eq_some fun place hplace => ?_
  have hcontains := (landed_of_hasRoom hstamp hroom hplace).1
  -- Within the canvas, looking paint up with and without a check gives the same.
  rw [isFreeAt?, landing?_eq hroom]
  show (canvas.paint? (landed corner place)).bind _ = _
  rw [landed, paint?_eq_paintAt hcanvas hcontains]
  rfl

/-- The second pass comes to a result. -/
theorem foldlM_paintPlace? (hcanvas : canvas.WellFormed)
    (hlanding : ∀ r c, landing? corner r c = some (landing corner r c))
    (hinside : ∀ place ∈ places, canvas.Contains (landed corner place)) :
    places.foldlM (paintPlace? corner paint) canvas =
      some (places.foldl (paintPlace corner paint) canvas) := by
  induction places generalizing canvas with
  | nil => rfl
  | cons place places ih =>
    have hfirst := hinside place List.mem_cons_self
    have hstep : paintPlace? corner paint canvas place =
        some (paintPlace corner paint canvas place) := by
      rw [paintPlace?, paintPlace]
      split
      · rw [hlanding]
        show (canvas.paint? (landed corner place)).map _ = _
        rw [landed, paint?_eq_paintAt hcanvas hfirst]
        rfl
      · rfl
    obtain ⟨hframe, hcanvas', -⟩ := paintPlace_spec paint hcanvas hfirst
    rw [List.foldlM_cons, hstep, List.foldl_cons]
    -- The canvas keeps its extent, so the other places lie inside it as well.
    refine ih hcanvas' fun place' hplace' => ?_
    rw [hframe]
    exact hinside place' (List.mem_cons_of_mem place hplace')

/-- The checked run does not give up, and it says of a stamp what the run without checks says. -/
theorem superimpose?_eq (hcanvas : canvas.WellFormed) (hne : stamp ≠ [])
    (hstamp : stamp.Rectangular) (corner : Hex) (paint : Paint) :
    canvas.superimpose? stamp corner paint =
      match canvas.superimpose stamp corner paint with
      | some painted => some (true, painted)
      | none => some (false, canvas) := by
  obtain ⟨line, lines, rfl⟩ := List.exists_cons_of_ne_nil hne
  rw [superimpose?, superimpose]
  simp only [List.head?_cons, Option.bind_eq_bind, Option.bind_some]
  by_cases hroom : canvas.hasRoom (line :: lines) corner = true
  · rw [allM_isFreeAt? hcanvas hstamp hroom, foldlM_paintPlace? hcanvas (landing?_eq hroom)
      fun place hplace => (landed_of_hasRoom hstamp hroom hplace).1]
    rw [hroom]
    cases canvas.isFreeFor (line :: lines) corner with
    | true => rfl
    | false => rfl
  · rw [Bool.not_eq_true] at hroom
    rw [hroom]
    rfl

/-! ### Shapes -/

/-- A walk from one corner at which a stamp is accepted to another one leads from the cell on which
a place lands there to the cell on which it lands here. -/
theorem landed_walk (hroom : canvas.hasRoom stamp corner = true)
    (hroom' : other.hasRoom stamp corner' = true) {ds : List Direction}
    (hwalk : corner.walk ds = corner') (place : Nat × Nat × StampPart) :
    (landed corner place).walk ds = landed corner' place := by
  have hlanded : ∀ {canvas : Canvas} {corner : Hex}, canvas.hasRoom stamp corner = true →
      landed corner place = corner.move (Stamp.vector place.1 place.2.1) := by
    intro canvas corner hroom
    obtain ⟨⟨hrow, hcol⟩, -, hparity⟩ := hasRoom_iff.1 hroom
    exact Stamp.landing_eq hrow hcol (by omega)
  rw [hlanded hroom, hlanded hroom', ← hwalk, Hex.walk_eq_move, Hex.walk_eq_move,
    Hex.move_move_comm]

/-- From a corner at which a stamp is accepted to another one there is a walk, and every such walk
leads from the cells covered there to the cells covered here. -/
theorem covered_walk (hroom : canvas.hasRoom stamp corner = true)
    (hroom' : other.hasRoom stamp corner' = true) {ds : List Direction}
    (hwalk : corner.walk ds = corner') :
    covered stamp corner' = (fun h : Hex => h.walk ds) '' covered stamp corner := by
  ext x
  constructor
  · rintro ⟨place, hplace, rfl⟩
    exact ⟨_, ⟨place, hplace, rfl⟩, landed_walk hroom hroom' hwalk place⟩
  · rintro ⟨_, ⟨place, hplace, rfl⟩, rfl⟩
    exact ⟨place, hplace, (landed_walk hroom hroom' hwalk place).symm⟩

/-- Putting a stamp down is safe and atomic: the run with checks comes to a result on every canvas
and from every corner. A stamp that is refused leaves the canvas as it is; one that is accepted has
covered free cells only, and exactly the cells of its body are painted. Wherever a stamp is
accepted, on this canvas or on another one, it covers the same cells up to a walk between the
corners, on rows of the same parity or not. -/
theorem superimpose_checked (hcanvas : canvas.WellFormed) (hne : stamp ≠ [])
    (hstamp : stamp.Rectangular) (corner : Hex) (paint : Paint) :
    (∃ accepted canvas',
      canvas.superimpose? stamp corner paint = some (accepted, canvas') ∧
      canvas.superimpose stamp corner paint = (if accepted then some canvas' else none) ∧
      (accepted = false → canvas' = canvas) ∧
      (accepted = true → PutDown canvas canvas' stamp corner paint)) ∧
    ∀ (canvas' other other' : Canvas) (corner' : Hex) (paint' : Paint),
      canvas.superimpose stamp corner paint = some canvas' →
      other.superimpose stamp corner' paint' = some other' →
      (∃ ds : List Direction, corner.walk ds = corner') ∧
        ∀ ds : List Direction, corner.walk ds = corner' →
          covered stamp corner' = (fun h : Hex => h.walk ds) '' covered stamp corner := by
  constructor
  · rw [superimpose?_eq hcanvas hne hstamp]
    cases haccepted : canvas.superimpose stamp corner paint with
    | none => exact ⟨false, canvas, rfl, rfl, fun _ => rfl, by simp⟩
    | some painted =>
      exact ⟨true, painted, rfl, rfl, by simp,
        fun _ => putDown_of_superimpose hcanvas hstamp haccepted⟩
  · intro canvas' other other' corner' paint' haccepted haccepted'
    have hroom := (superimpose_eq_some haccepted).1
    have hroom' := (superimpose_eq_some haccepted').1
    obtain ⟨ds, -, hwalk⟩ := (Hex.isLeast_distance corner corner').1
    exact ⟨⟨ds, hwalk⟩, fun ds hwalk => covered_walk hroom hroom' hwalk⟩

/-- A piece of rock is put down with its corner on an odd row and on the even row below, where its
odd lines are moved to the left; what it covers has made one step. Across the edge it is refused. -/
theorem superimpose_checked_rock :
    let canvas := walled 9 9
    let stamp := Stamp.ofPicture [".++..", ".+O+.", "+OO+.", ".+++."]
    canvas.WellFormed ∧ stamp ≠ [] ∧ stamp.Rectangular ∧
      (∃ canvas', canvas.superimpose? stamp ⟨3, 2⟩ .wetRock = some (true, canvas') ∧
        PutDown canvas canvas' stamp ⟨3, 2⟩ .wetRock) ∧
      canvas.superimpose? stamp ⟨3, 5⟩ .wetRock = some (false, canvas) ∧
      (canvas.superimpose stamp ⟨4, 3⟩ .wetRock).isSome = true ∧
      covered stamp ⟨4, 3⟩ = (fun h : Hex => h.walk [.southEast]) '' covered stamp ⟨3, 2⟩ := by
  intro canvas stamp
  have hcanvas : canvas.WellFormed := Array.size_ofFn
  have hne : stamp ≠ [] := by decide
  have hstamp : stamp.Rectangular := by decide +kernel
  have hodd : (canvas.superimpose stamp ⟨3, 2⟩ .wetRock).isSome = true := by decide +kernel
  have heven : (canvas.superimpose stamp ⟨4, 3⟩ .wetRock).isSome = true := by decide +kernel
  have hedge : (canvas.superimpose stamp ⟨3, 5⟩ .wetRock).isSome = false := by decide +kernel
  obtain ⟨painted, hpainted⟩ := Option.isSome_iff_exists.1 hodd
  obtain ⟨painted', hpainted'⟩ := Option.isSome_iff_exists.1 heven
  obtain ⟨⟨accepted, canvas', hrun, hsame, -, hput⟩, hcovered⟩ :=
    superimpose_checked hcanvas hne hstamp ⟨3, 2⟩ .wetRock
  obtain ⟨⟨refused, canvas'', hrun', hsame', hkept, -⟩, -⟩ :=
    superimpose_checked hcanvas hne hstamp ⟨3, 5⟩ .wetRock
  refine ⟨hcanvas, hne, hstamp, ?_, ?_, heven, ?_⟩
  · cases accepted with
    | false => rw [hsame] at hodd; cases hodd
    | true => exact ⟨canvas', hrun, hput rfl⟩
  · cases refused with
    | false => rw [hrun', hkept rfl]
    | true => rw [hsame'] at hedge; cases hedge
  · exact (hcovered _ _ _ _ _ hpainted hpainted').2 [.southEast] rfl

end Canvas

end Formicary
