/-!
# Silhouettes

The silhouette of a region is its picture in the smallest box that holds it, together with the
grid row of the box's first line: the same region looks different on paper when it begins on an
odd row. `Silhouette.overlay` cuts a stencil out of a silhouette, and
`Silhouette.isLegalHill` and `Silhouette.hasLegalFood` recognise the shapes that the contest rules
allow.
-/

namespace Formicary

/-- A pattern to be cut out of a silhouette, row by row; `true` belongs to the pattern. -/
abbrev Stencil := List (List Bool)

/-- A row of a picture. Every `x` is a cell; of other characters there are as many empty places
as the character takes bytes. -/
def pictureRow (line : String) : List Bool :=
  line.toList.flatMap fun c => if c = 'x' then [true] else List.replicate c.utf8Size false

/-- The stencil drawn by a picture. -/
def Stencil.ofPicture (lines : List String) : Stencil := lines.map pictureRow

/-- A region seen as a picture. -/
structure Silhouette where
  /-- The lines of the picture; `true` belongs to the region. -/
  rows : List (List Bool)
  /-- The grid row of the first line. -/
  top : Nat
  deriving DecidableEq

namespace Silhouette

/-- The silhouette of a collection of cells, given by row and column. -/
def ofCells (cells : List (Nat × Nat)) : Silhouette :=
  match cells with
  | [] => ⟨[], 0⟩
  | (row, col) :: rest =>
    let top := rest.foldl (fun r cell => min r cell.1) row
    let bottom := rest.foldl (fun r cell => max r cell.1) row
    let left := rest.foldl (fun c cell => min c cell.2) col
    let right := rest.foldl (fun c cell => max c cell.2) col
    let width := right - left + 1
    let height := bottom - top + 1
    let marks := cells.foldl
      (fun marks cell => marks.setIfInBounds ((cell.1 - top) * width + (cell.2 - left)) true)
      (Array.replicate (height * width) false)
    let line r := (List.range width).map fun c => marks.getD (r * width + c) false
    ⟨(List.range height).map line, top⟩

/-- The silhouette drawn by a picture whose first line lies on row `top`. -/
def ofPicture (lines : List String) (top : Nat) : Silhouette := ⟨lines.map pictureRow, top⟩

/-- The number of lines. -/
def height (s : Silhouette) : Nat := s.rows.length

/-- The length of the first line. -/
def width (s : Silhouette) : Nat := (s.rows.headD []).length

/-- Whether there is no line, or the first line has no place. -/
def isEmpty (s : Silhouette) : Bool := (s.rows.headD []).isEmpty

/-- The number of cells. -/
def cellCount (s : Silhouette) : Nat := s.rows.flatten.count true

/-! ### Cropping -/

/-- Whether a line has places but no cell. -/
def blankLine (line : List Bool) : Bool := !line.isEmpty && !line.any id

/-- The number of lines without a cell at the top. -/
def blankTop (rows : List (List Bool)) : Nat := (rows.takeWhile blankLine).length

/-- The number of columns without a cell at the left. -/
def blankLeft (rows : List (List Bool)) : Nat :=
  (rows.map fun line => (line.takeWhile (!·)).length).min?.getD 0

/-- Remove the lines without a cell at the bottom. -/
def cropBottom (rows : List (List Bool)) : List (List Bool) :=
  if (rows.headD []).isEmpty then rows
  else (rows.reverse.dropWhile fun line => !line.any id).reverse

/-- Remove the columns without a cell at the left. -/
def cropLeft (rows : List (List Bool)) : List (List Bool) :=
  let blank := blankLeft rows
  rows.map (·.drop blank)

/-- Remove the columns without a cell at the right. -/
def cropRight (rows : List (List Bool)) : List (List Bool) :=
  (cropLeft (rows.map List.reverse)).map List.reverse

/-- Remove the lines and columns without a cell on all four sides. -/
def crop (s : Silhouette) : Silhouette :=
  let dropped := blankTop s.rows
  ⟨cropRight (cropLeft (cropBottom (s.rows.drop dropped))), s.top + dropped⟩

/-! ### Stencils -/

/-- Clear the cells of a line that a stencil's line covers; it must cover cells only. -/
def cutLine : List Bool → List Bool → Option (List Bool)
  | line, [] => some line
  | [], mask => if mask.any id then none else some []
  | b :: line, m :: mask =>
    if m && !b then none else (cutLine line mask).map ((b && !m) :: ·)

/-- Clear the cells that a stencil covers, its lines moved to the right by `shift`. -/
def cutRows (shift : Nat) : List (List Bool) → Stencil → Option (List (List Bool))
  | rows, [] => some rows
  | [], _ :: _ => none
  | line :: rows, mask :: stencil =>
    match cutLine line (List.replicate shift false ++ mask), cutRows shift rows stencil with
    | some line, some rows => some (line :: rows)
    | _, _ => none

/-- Lay a stencil over the silhouette so that the first cells of their first lines coincide. If
the stencil stays inside the box and covers cells only, these cells are cleared and what remains
is returned, cropped. -/
def overlay (s : Silhouette) (stencil : Stencil) : Option Silhouette := do
  let mask ← stencil.head?
  let line ← s.rows.head?
  -- The stencil is moved to the right until the first cells of the first lines coincide.
  let col ← line.findIdx? id
  let maskCol ← mask.findIdx? id
  if s.height < stencil.length ∨ col < maskCol ∨ s.width < col - maskCol + mask.length then none
  else
    let rows ← cutRows (col - maskCol) s.rows stencil
    return crop ⟨rows, s.top⟩

/-! ### Hills -/

/-- The number of lines, and the length of each, of a legal hill: a hexagon of radius six. -/
def hillSize : Nat := 13

/-- The picture of a legal hill. Line `n` is as many cells short of `hillSize` as it is away from
the middle line, and they are missing on both sides in equal numbers; where the number is odd,
the side that is one short depends on the parity of the row. -/
def hillRows (oddTop : Bool) : List (List Bool) :=
  (List.range hillSize).map fun (n : Nat) =>
    -- The distance from the middle line.
    let away := ((n : Int) - 6).natAbs
    let first := away / 2 + (if oddTop && n % 2 == 1 then 1 else 0)
    (List.range hillSize).map fun i => first ≤ i && i < first + (hillSize - away)

/-- Whether the silhouette is exactly a legal hill. -/
def isLegalHill (s : Silhouette) : Bool := s.rows == hillRows (s.top % 2 == 1)

/-! ### Food -/

/-- The number of cells of one food blob. -/
def blobCells : Nat := 25

/-- The legal food blobs as they look when their first line lies on an odd or an even row: three
rhombi of five by five cells. -/
def foodStencils (oddTop : Bool) : List Stencil :=
  if oddTop then
    [ .ofPicture ["xxxxx..", ".xxxxx.", ".xxxxx.", "..xxxxx", "..xxxxx"],
      .ofPicture ["..xxxxx", "..xxxxx", ".xxxxx.", ".xxxxx.", "xxxxx.."],
      .ofPicture ["..x..", "..xx.", ".xxx.", ".xxxx", "xxxxx", ".xxxx", ".xxx.", "..xx.",
        "..x.."] ]
  else
    [ .ofPicture ["xxxxx..", "xxxxx..", ".xxxxx.", ".xxxxx.", "..xxxxx"],
      .ofPicture ["..xxxxx", ".xxxxx.", ".xxxxx.", "xxxxx..", "xxxxx.."],
      .ofPicture ["..x..", ".xx..", ".xxx.", "xxxx.", "xxxxx", "xxxx.", ".xxx.", ".xx..",
        "..x.."] ]

/-- Cut out the first food blob that fits; blobs are tried in the order of `foodStencils`. -/
def cutBlob (s : Silhouette) : Option Silhouette :=
  (foodStencils (s.top % 2 == 1)).findSome? s.overlay

/-- Cut out blobs for a number of rounds; the answer is whether nothing is left. A choice of a
blob is never taken back. -/
def consume : Nat → Silhouette → Bool
  | 0, _ => false
  | rounds + 1, s =>
    if s.rows.isEmpty then true
    else match s.cutBlob with
      | some rest => consume rounds rest
      | none => false

/-- Whether the silhouette can be cut up into food blobs. Each blob takes `blobCells` cells, which
bounds the number of rounds. -/
def hasLegalFood (s : Silhouette) : Bool :=
  s.cellCount % blobCells == 0 && consume (s.cellCount / blobCells + 1) s

end Silhouette

end Formicary
