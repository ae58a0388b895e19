import Formicary.Brain.Compile
import Formicary.CommandLine.FileError
import Formicary.CommandLine.Request
import Formicary.Game.Score
import Formicary.Game.Step
import Formicary.Generator.Generate

/-!
# Executing requests

A request is executed on the contents of the files that it names. The outcome says everything
that is to be printed and written; how long a game took is told to it when it is printed.
-/

namespace Formicary.CommandLine

/-- Why a request cannot be fulfilled. -/
inductive Failure where
  /-- A file cannot be read or written. -/
  | file (error : FileError)
  /-- A brain does not compile. -/
  | brain (error : CompileError)
  /-- A world is refused. -/
  | world (error : WorldError)

/-- The failure in words. -/
def Failure.message : Failure → String
  | file error => "IO error: " ++ error.message
  | brain error => "brain error: " ++ error.message
  | world error => "world error: " ++ error.message

/-- What a request needs from outside. -/
structure Surroundings where
  /-- The bytes of a file. -/
  read : String → Except FileError ByteArray
  /-- The seed for when none is asked for. -/
  seed : UInt64

/-- What comes of a request. -/
inductive Outcome where
  /-- A game has been played. -/
  | played (game : Game) (quiet : Bool)
  /-- A world has been generated, for a file or for printing. -/
  | generated (source : String) (out : Option String)
  /-- A brain compiles. -/
  | brainAccepted (states : Nat)
  /-- A world is accepted. -/
  | worldAccepted (width height : Nat) (contest : Bool)

namespace Surroundings

/-- The text of a file. -/
def text (surroundings : Surroundings) (path : String) : Except Failure String :=
  match surroundings.read path with
  | .ok bytes =>
    match String.fromUTF8? bytes with
    | some text => .ok text
    | none => .error (.file .notText)
  | .error e => .error (.file e)

/-- Load a brain from a file. -/
def loadBrain (surroundings : Surroundings) (path : String) : Except Failure Brain := do
  let source ← surroundings.text path
  (Brain.compile source).mapError .brain

/-- Load a world from a file. -/
def loadWorld (surroundings : Surroundings) (path : String) (contest : Bool) :
    Except Failure WorldMap := do
  let source ← surroundings.text path
  (WorldMap.parse source contest).mapError .world

/-- The generator for a request. -/
def generator (surroundings : Surroundings) (seed : Option UInt64) : Rng :=
  .ofSeed (seed.getD surroundings.seed)

end Surroundings

/-- Play a game: the red brain is loaded first, then the black one, then the world. -/
def play (surroundings : Surroundings) (request : RunRequest) : Except Failure Game := do
  -- The order shows when several files are at fault.
  let red ← surroundings.loadBrain request.red
  let black ← surroundings.loadBrain request.black
  let world ← surroundings.loadWorld request.world request.contest
  let rng := surroundings.generator request.seed
  return (Game.start red black (.ofMap world) rng).run request.rounds

/-- Execute a command. -/
def execute (surroundings : Surroundings) : Command → Except Failure Outcome
  | .run request => do return .played (← play surroundings request) request.quiet
  | .generate seed out =>
    match generateWorld (surroundings.generator seed) with
    | some (source, _) => .ok (.generated source out)
    | none => .error (.file (.system "no contest world can be generated"))
  | .checkBrain file => do return .brainAccepted (← surroundings.loadBrain file).size
  | .checkWorld file contest => do
    let world ← surroundings.loadWorld file contest
    return .worldAccepted world.width world.height contest

/-- The score after a game, in words; `elapsed` is the time that the game took. -/
def summary (game : Game) (elapsed : String) : String :=
  let score := game.score
  let verdict := match score.winner with
    | some color => color.name ++ " wins"
    | none => "draw"
  let team (color : Color) : String :=
    let team := score.team color
    s!"{color.name} {team.food.toNat} food / {team.deaths} dead"
  s!"\n===\n🐜 Score after {game.ticks} rounds: " ++ team .red ++ " " ++ team .black ++
    s!"\n{verdict} | {elapsed} ms\n"

namespace Outcome

/-- What is printed; `elapsed` is the time that the request took, in milliseconds. -/
def output (elapsed : String) : Outcome → String
  | played game quiet => if quiet then game.score.text ++ "\n" else summary game elapsed
  | generated _ (some path) => s!"✓ world written to {path}\n"
  | generated source none => source
  | brainAccepted states => s!"✓ brain ok: {states} states\n"
  | worldAccepted width height contest =>
    let rules := if contest then "contest rules" else "basic rules"
    s!"✓ world ok: {width}x{height} ({rules})\n"

/-- The file that is written, with its contents. -/
def file? : Outcome → Option (String × String)
  | generated source (some path) => some (path, source)
  | _ => none

end Outcome

/-- What is printed when a request fails. -/
def Failure.output (failure : Failure) : String := s!"✗ {failure.message}\n"

end Formicary.CommandLine
