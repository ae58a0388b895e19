import Formicary.Game.Basic

/-!
# Scores

A colony scores the food that lies on its hill; whoever has more wins, and deaths do not count.
-/

namespace Formicary

/-- What one colony has achieved. -/
structure TeamScore where
  /-- The food on the cells of the colony's hill. -/
  food : UInt32
  /-- The number of the colony's ants that died. -/
  deaths : Nat
  deriving DecidableEq

/-- What both colonies have achieved. -/
structure Score where
  /-- The red colony's score. -/
  red : TeamScore
  /-- The black colony's score. -/
  black : TeamScore
  deriving DecidableEq

namespace Score

/-- The score of a colony. -/
def team (score : Score) : Color → TeamScore
  | .red => score.red
  | .black => score.black

/-- The colony with more food, unless both have the same. -/
def winner (score : Score) : Option Color :=
  if score.black.food < score.red.food then some .red
  else if score.red.food < score.black.food then some .black
  else none

/-- The score in one line of text. -/
def text (score : Score) : String :=
  let red := s!"red: {score.red.food.toNat} food, {score.red.deaths} dead"
  let black := s!"black: {score.black.food.toNat} food, {score.black.deaths} dead"
  red ++ " | " ++ black

end Score

namespace Game

/-- The food on a colony's hill. -/
def hillFood (game : Game) (color : Color) : UInt32 :=
  (game.board.hillCells color).foldl
    (fun sum i => match game.board.cell? i with
      | some cell => sum + cell.food
      | none => sum)
    0

/-- The number of a colony's ants that died. -/
def deaths (game : Game) (color : Color) : Nat :=
  game.ants.countP fun ant => !ant.alive && ant.color = color

/-- The score of a colony. -/
def teamScore (game : Game) (color : Color) : TeamScore :=
  ⟨game.hillFood color, game.deaths color⟩

/-- The score as it stands. -/
def score (game : Game) : Score := ⟨game.teamScore .red, game.teamScore .black⟩

end Game

end Formicary
