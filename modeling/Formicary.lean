import Formicary.Ant
import Formicary.Board.Basic
import Formicary.Board.Cell
import Formicary.Brain.Basic
import Formicary.Brain.Compile
import Formicary.Brain.Error
import Formicary.Brain.Instruction
import Formicary.Brain.Line
import Formicary.Color
import Formicary.CommandLine.Arguments
import Formicary.CommandLine.Execute
import Formicary.CommandLine.FileError
import Formicary.CommandLine.Request
import Formicary.Direction
import Formicary.Frame
import Formicary.Game.Basic
import Formicary.Game.Combat
import Formicary.Game.Event
import Formicary.Game.Score
import Formicary.Game.Step
import Formicary.Generator.Canvas
import Formicary.Generator.Generate
import Formicary.Generator.Sketch
import Formicary.Generator.Stamp
import Formicary.Region.Fill
import Formicary.Region.Silhouette
import Formicary.Rng
import Formicary.Text.Blank
import Formicary.Text.CaseTable
import Formicary.Text.Lines
import Formicary.Text.Lowercase
import Formicary.Text.Numeral
import Formicary.Word
import Formicary.World.Contest
import Formicary.World.Error
import Formicary.World.Map
import Formicary.World.Source
import Formicary.World.Tile
import Formicary.Main
import Formicary.Proofs.Board.Ground
import Formicary.Proofs.Game.Change
import Formicary.Proofs.Game.Occupancy
import Formicary.Proofs.Game.Constancy
import Formicary.Proofs.Game.Start
import Formicary.Proofs.Game.Census
import Formicary.Proofs.Board.Links
import Formicary.Proofs.Game.Combat
import Formicary.Proofs.Game.Checked
import Formicary.Proofs.Game.Food
import Formicary.Proofs.Generator.Bitmap
import Formicary.Proofs.Generator.Draft
import Formicary.Proofs.Generator.Attempt
import Formicary.Proofs.Generator.Canonical
import Formicary.Proofs.Brain.Grammar
import Formicary.Proofs.Text.Lines
import Formicary.Proofs.Brain.Reference
import Formicary.Proofs.Brain.RoundTrip
import Formicary.Proofs.Game.Strict
import Formicary.Proofs.Game.Progress
import Formicary.Proofs.Board.Contents
import Formicary.Proofs.Board.History
import Formicary.Proofs.Board.Replay
import Formicary.Proofs.Game.Observer
import Formicary.Proofs.Game.Events
import Formicary.Proofs.Region.Depiction
import Formicary.Proofs.Region.Hexagon
import Formicary.Proofs.Region.Distance
import Formicary.Proofs.World.Regions
import Formicary.Proofs.World.Rule
import Formicary.Proofs.World.ContestRules
import Formicary.Proofs.World.Reference
import Formicary.Proofs.World.RoundTrip
import Formicary.Proofs.Game.Encirclement
import Formicary.Proofs.Board.Transfer
import Formicary.Proofs.Game.Comparison
import Formicary.Proofs.Game.Recolor
import Formicary.Proofs.Game.Chance
import Formicary.Proofs.Board.Margin
import Formicary.Proofs.Game.Edge
import Formicary.Proofs.Game.Confinement
import Formicary.Proofs.Game.Enclosure
import Formicary.Proofs.Game.Footprint
import Formicary.Proofs.Game.Separation
import Formicary.Proofs.Game.Hills
import Formicary.Proofs.Region.Food
import Formicary.Proofs.World.Reach
import Formicary.Proofs.Generator.Superimpose
import Formicary.Proofs.Board.Adjacency
import Formicary.Proofs.Game.Move
import Formicary.Proofs.Game.Touch
import Formicary.Proofs.Game.Commute
import Formicary.Proofs.Game.Rest
import Formicary.Proofs.Region.Walk
import Formicary.Proofs.Region.CutOut
import Formicary.Proofs.Text.Spacing
import Formicary.Proofs.Generator.Stroke
