import Formicary.Color

/-!
# Tiles

A world is drawn with one symbol for each cell.
-/

namespace Formicary

/-- What a world's drawing says about one cell. -/
inductive Tile where
  /-- Rock, which nothing can enter. -/
  | rock
  /-- Open ground without food. -/
  | clear
  /-- A cell of a colony's hill. -/
  | hill (color : Color)
  /-- Open ground with food on it. -/
  | food (amount : Nat)
  deriving DecidableEq

namespace Tile

/-- Whether two tiles are of one kind: the amount of food does not count, the colour of a hill
does. -/
def sameKind : Tile → Tile → Bool
  | rock, rock => true
  | clear, clear => true
  | hill a, hill b => a = b
  | food _, food _ => true
  | _, _ => false

/-- Whether there is food on a tile. -/
def isFood : Tile → Bool
  | food _ => true
  | _ => false

/-- The symbol of a tile. -/
def symbol : Tile → Char
  | rock => '#'
  | clear => '.'
  | hill .red => '+'
  | hill .black => '-'
  | food amount => Char.ofNat ('0'.toNat + amount)

/-- The tile that a symbol stands for. Food is drawn by its amount, from one to nine. -/
def ofSymbol? (c : Char) : Option Tile :=
  if c = '#' then some rock
  else if c = '.' then some clear
  else if c = '+' then some (hill .red)
  else if c = '-' then some (hill .black)
  else if '1' ≤ c ∧ c ≤ '9' then some (food (c.toNat - '0'.toNat))
  else none

end Tile

end Formicary
