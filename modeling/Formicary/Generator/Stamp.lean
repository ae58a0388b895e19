/-!
# Stamps

A stamp is a small picture that is put down on a canvas: its body is painted, and its margin must
land on free ground, which keeps what is painted apart from what is there already. Stamps are
drawn as they look when their first line lies on an odd row.
-/

namespace Formicary

/-- What one place of a stamp does. -/
inductive StampPart where
  /-- The place is painted. -/
  | body
  /-- The place must be free and is left as it is. -/
  | margin
  /-- The place does not matter. -/
  | gap
  deriving DecidableEq

/-- A stamp, line by line. -/
abbrev Stamp := List (List StampPart)

namespace Stamp

/-- The part that a character of a picture stands for. -/
def partOf (c : Char) : StampPart :=
  if c = 'O' then .body else if c = '.' then .gap else .margin

/-- The stamp drawn by a picture: `O` is the body, a full stop a gap, and all else the margin. -/
def ofPicture (lines : List String) : Stamp := lines.map fun line => line.toList.map partOf

/-- The length of the first line. -/
def width (stamp : Stamp) : Nat := (stamp.headD []).length

/-- The places of a stamp that matter, each with its line and its place on the line. -/
def places (stamp : Stamp) : List (Nat × Nat × StampPart) :=
  stamp.zipIdx.flatMap fun (line, r) =>
    line.zipIdx.filterMap fun (part, c) => if part = .gap then none else some (r, c, part)

/-- A hill, with a margin all around. -/
def hill : Stamp := ofPicture
  [ "...********....",
    "...*OOOOOOO*...",
    "..*OOOOOOOO*...",
    "..*OOOOOOOOO*..",
    ".*OOOOOOOOOO*..",
    ".*OOOOOOOOOOO*.",
    "*OOOOOOOOOOOO*.",
    "*OOOOOOOOOOOOO*",
    "*OOOOOOOOOOOO*.",
    ".*OOOOOOOOOOO*.",
    ".*OOOOOOOOOO*..",
    "..*OOOOOOOOO*..",
    "..*OOOOOOOO*...",
    "...*OOOOOOO*...",
    "...********...." ]

/-- The food blobs. They need no margin. -/
def foods : List Stamp :=
  [ ofPicture ["..OOOOO", "..OOOOO", ".OOOOO.", ".OOOOO.", "OOOOO.."],
    ofPicture ["OOOOO..", ".OOOOO.", ".OOOOO.", "..OOOOO", "..OOOOO"],
    ofPicture ["..O..", "..OO.", ".OOO.", ".OOOO", "OOOOO", ".OOOO", ".OOO.", "..OO.", "..O.."] ]

/-- The pieces of rock, with a margin all around. -/
def rocks : List Stamp :=
  [ ofPicture [".++..", ".+O+.", "+OO+.", ".+++."],
    ofPicture [".+++.", ".+OO+", "+OOO+", ".+OO+", ".+++."],
    ofPicture
      [".++++..", ".+OOO+.", "+OOOO+.", "+OOOOO+", "+OOOO+.", ".+OOO+.", ".++++.."] ]

end Stamp

end Formicary
