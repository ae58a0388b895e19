import Formicary.CommandLine.Request
import Formicary.Text.Numeral

/-!
# Reading the command line

A command line is read from left to right. Options may be written in full or, where they have
one, by a letter; letters may be run together; a value may follow in the same word or in the
next. Two dashes end the options. A value is only looked at when the next argument shows that it
is complete, so an unknown option behind a bad value is what gets reported.
-/

namespace Formicary.CommandLine

open Text

/-- The arguments of all commands. -/
inductive Argument where
  /-- Ask for a log. -/
  | verbose
  /-- Ask for help. -/
  | help
  /-- The file of the red brain. -/
  | red
  /-- The file of the black brain. -/
  | black
  /-- The file of the world. -/
  | world
  /-- The number of ticks. -/
  | rounds
  /-- The seed of the generator. -/
  | seed
  /-- Ask for the contest rules. -/
  | contest
  /-- Ask for the score only. -/
  | quiet
  /-- The file to be written. -/
  | out
  /-- The file to be checked. -/
  | file
  deriving DecidableEq

/-- What an argument may be given. -/
inductive ValueKind where
  /-- Nothing: the argument is present or not. -/
  | switch
  /-- The path of a file. -/
  | path
  /-- A number of ticks, which fits a word of 32 bits. -/
  | rounds
  /-- A seed, which fits a word of 64 bits. -/
  | seed
  deriving DecidableEq

/-- The value of an argument. -/
inductive Value where
  /-- The argument is there and has no value. -/
  | present
  /-- The path of a file. -/
  | path (name : String)
  /-- A number. -/
  | number (n : Nat)

/-- How an option is written. -/
structure OptionForm where
  /-- The argument that the option gives. -/
  argument : Argument
  /-- The name of the option. -/
  name : String
  /-- The letter of the option, if it has one. -/
  letter : Option Char

/-- The arguments that a command takes. -/
structure Signature where
  /-- The options. -/
  options : List OptionForm
  /-- The argument that a plain word gives. -/
  word : Option Argument
  /-- The arguments that must be there. -/
  required : List Argument

/-- The options that are understood before and after every command. -/
def commonOptions : List OptionForm :=
  [⟨.verbose, "verbose", some 'v'⟩, ⟨.help, "help", some 'h'⟩]

/-- What may stand in front of the command. -/
def rootSignature : Signature := ⟨commonOptions, none, []⟩

/-- The arguments of `run`. -/
def runSignature : Signature where
  options :=
    [ ⟨.red, "red", none⟩, ⟨.black, "black", none⟩,
      ⟨.world, "world", some 'w'⟩, ⟨.rounds, "rounds", some 'r'⟩,
      ⟨.seed, "seed", none⟩, ⟨.contest, "contest", none⟩,
      ⟨.quiet, "quiet", some 'q'⟩ ] ++ commonOptions
  word := none
  required := [.red, .black, .world]

/-- The arguments of `generate`. -/
def generateSignature : Signature where
  options := [⟨.seed, "seed", none⟩, ⟨.out, "out", some 'o'⟩] ++ commonOptions
  word := none
  required := []

/-- The arguments of `check-brain`. -/
def checkBrainSignature : Signature := ⟨commonOptions, some .file, [.file]⟩

/-- The arguments of `check-world`. -/
def checkWorldSignature : Signature where
  options := ⟨.contest, "contest", none⟩ :: commonOptions
  word := some .file
  required := [.file]

/-- What an argument may be given, whether it comes as an option or as a word. -/
def Argument.kind : Argument → ValueKind
  | verbose => .switch
  | help => .switch
  | red => .path
  | black => .path
  | world => .path
  | rounds => .rounds
  | seed => .seed
  | contest => .switch
  | quiet => .switch
  | out => .path
  | file => .path

/-- Read the value of an argument. -/
def readValue (kind : ValueKind) (text : List Char) : Except UsageError Value :=
  match kind with
  | .switch => .ok .present
  | .path => if text.isEmpty then .error .emptyValue else .ok (.path (String.ofList text))
  | .rounds =>
    match signed? text with
    | some n => if 0 ≤ n ∧ n < UInt32.size then .ok (.number n.toNat) else .error .badNumber
    | none => .error .badNumber
  | .seed =>
    match count? text with
    | some n => .ok (.number n)
    | none => .error .badNumber

/-- An argument whose value is not yet looked at. -/
structure Pending where
  /-- The argument. -/
  argument : Argument
  /-- Its value, unless that is still to come. -/
  text : Option (List Char)

/-- How far a command line is read. -/
structure Progress where
  /-- The arguments read, with their values. -/
  settled : List (Argument × Value) := []
  /-- The argument read last, if its value is not yet looked at. -/
  pending : Option Pending := none
  /-- Whether a plain word has been read. -/
  wordSeen : Bool := false

namespace Progress

/-- The value of an argument that has been read. -/
def value? (progress : Progress) (argument : Argument) : Option Value :=
  (progress.settled.find? (·.1 = argument)).map (·.2)

/-- Whether an argument has been read. -/
def has (progress : Progress) (argument : Argument) : Bool := (progress.value? argument).isSome

/-- The path given for an argument. -/
def path? (progress : Progress) (argument : Argument) : Option String :=
  match progress.value? argument with
  | some (.path name) => some name
  | _ => none

/-- The number given for an argument. -/
def number? (progress : Progress) (argument : Argument) : Option Nat :=
  match progress.value? argument with
  | some (.number n) => some n
  | _ => none

/-- Note an argument, which must be new, with a complete value. -/
def accept (progress : Progress) (argument : Argument) (text : List Char) :
    Except UsageError Progress := do
  if progress.has argument then throw .repeatedArgument
  let value ← readValue argument.kind text
  return { progress with settled := (argument, value) :: progress.settled }

/-- Look at the value that is not yet looked at, if there is one. -/
def settle (progress : Progress) : Except UsageError Progress :=
  match progress.pending with
  | none => .ok progress
  | some ⟨_, none⟩ => .error .emptyValue
  | some ⟨argument, some text⟩ => { progress with pending := none }.accept argument text

/-- Note an option that takes no value. -/
def raise (progress : Progress) (argument : Argument) : Except UsageError Progress := do
  -- A bad value in front of the request for help is reported first.
  let progress ← progress.settle
  if argument = .help then throw .helpRequested
  progress.accept argument []

/-- Note an option with a value in the same word. -/
def attach (progress : Progress) (argument : Argument) (text : List Char) :
    Except UsageError Progress := do
  (← progress.settle).accept argument text

/-- Note an option whose value is still to come. -/
def await (progress : Progress) (argument : Argument) : Except UsageError Progress := do
  return { (← progress.settle) with pending := some ⟨argument, none⟩ }

/-- Note a plain word, which is not the value of an option. -/
def takeWord (progress : Progress) (signature : Signature) (text : List Char) :
    Except UsageError Progress :=
  match signature.word with
  | some argument =>
    -- One word too many is reported before the value of the first is looked at.
    if progress.wordSeen then .error .unknownArgument
    else do
      let progress ← progress.settle
      return { progress with pending := some ⟨argument, some text⟩, wordSeen := true }
  | none => .error .unknownArgument

/-- Read an option written in full, given without its dashes and with the value that is attached
to it by an equals sign. -/
def takeName (progress : Progress) (signature : Signature) (name : List Char)
    (attached : Option (List Char)) : Except UsageError Progress :=
  match signature.options.find? (·.name = String.ofList name) with
  | none => .error .unknownArgument
  | some option =>
    match option.argument.kind, attached with
    | .switch, none => progress.raise option.argument
    | .switch, some _ => .error .surplusValue
    | _, some text => progress.attach option.argument text
    | _, none => progress.await option.argument

/-- Read options written as letters; a value takes the rest of the word. -/
def takeLetters (signature : Signature) : Progress → List Char → Except UsageError Progress
  | progress, [] => .ok progress
  | progress, c :: rest =>
    match signature.options.find? (·.letter = some c) with
    | none => .error .unknownArgument
    | some option =>
      match option.argument.kind, rest with
      | .switch, _ => do takeLetters signature (← progress.raise option.argument) rest
      | _, [] => progress.await option.argument
      | _, '=' :: text => progress.attach option.argument text
      | _, text => progress.attach option.argument text

/-- Read an argument that has the form of an option. The answer is nothing for a plain word; a
single dash is one. -/
def takeOption? (progress : Progress) (signature : Signature) (arg : List Char) :
    Except UsageError (Option Progress) :=
  match arg with
  | '-' :: '-' :: body =>
    let name := body.takeWhile (· ≠ '=')
    let attached := body.dropWhile (· ≠ '=')
    let value := if attached.isEmpty then none else some attached.tail
    some <$> progress.takeName signature name value
  | '-' :: c :: rest => some <$> takeLetters signature progress (c :: rest)
  | _ => .ok none

/-- Read the arguments behind two dashes: plain words all of them. -/
def takeWords (signature : Signature) : Progress → List String → Except UsageError Progress
  | progress, [] => progress.settle
  | progress, arg :: rest => do
    takeWords signature (← progress.takeWord signature arg.toList) rest

/-- Read the arguments of a command. -/
def takeArguments (signature : Signature) : Progress → List String → Except UsageError Progress
  | progress, [] => progress.settle
  | progress, arg :: rest =>
    if arg = "--" then takeWords signature progress rest
    else do
      match ← progress.takeOption? signature arg.toList with
      | some progress => takeArguments signature progress rest
      | none =>
        -- A plain word is the value of the option in front of it, if that waits for one.
        match progress.pending with
        | some ⟨argument, none⟩ =>
          let pending := some ⟨argument, some arg.toList⟩
          takeArguments signature { progress with pending } rest
        | _ => takeArguments signature (← progress.takeWord signature arg.toList) rest

end Progress

/-- Read all arguments of a command, of which none that is required may be missing. -/
def readArguments (signature : Signature) (args : List String) : Except UsageError Progress := do
  let progress ← Progress.takeArguments signature {} args
  if !signature.required.all progress.has then throw .missingArgument
  return progress

/-- The number of ticks that a game has by default. -/
def defaultRounds : Nat := 100000

/-- The seed among the arguments of a command. -/
def Progress.seed? (progress : Progress) : Option UInt64 :=
  (progress.number? .seed).map UInt64.ofNat

/-- What a command asks for by its arguments. -/
def commandOf (name : String) (args : List String) : Except UsageError Request := do
  match name with
  | "run" =>
    let given ← readArguments runSignature args
    return ⟨given.has .verbose, .run
      { red := (given.path? .red).getD ""
        black := (given.path? .black).getD ""
        world := (given.path? .world).getD ""
        rounds := (given.number? .rounds).getD defaultRounds
        seed := given.seed?
        contest := given.has .contest
        quiet := given.has .quiet }⟩
  | "generate" =>
    let given ← readArguments generateSignature args
    return ⟨given.has .verbose, .generate given.seed? (given.path? .out)⟩
  | "check-brain" =>
    let given ← readArguments checkBrainSignature args
    return ⟨given.has .verbose, .checkBrain ((given.path? .file).getD "")⟩
  | "check-world" =>
    let given ← readArguments checkWorldSignature args
    return ⟨given.has .verbose, .checkWorld ((given.path? .file).getD "") (given.has .contest)⟩
  | _ => throw .unknownCommand

/-- The names of the commands. -/
def commandNames : List String := ["run", "generate", "check-brain", "check-world"]

/-- What a request for help comes to: the help on a command, if there is such a command, or on the
help itself. -/
def helpOf : List String → UsageError
  | [] => .helpRequested
  | [name] =>
    if name ∈ commandNames ∨ name = "help" then .helpRequested else .unknownCommand
  | _ => .unknownCommand

/-- Read what stands in front of the command, and then the command. -/
def takeCommand : Progress → List String → Except UsageError Request
  | progress, [] =>
    .error (if progress.settled.isEmpty then .nothingGiven else .missingCommand)
  | progress, arg :: rest =>
    if arg = "help" then .error (helpOf rest)
    else if arg ∈ commandNames then do
      -- All that follows belongs to the command, which knows the common options too.
      let request ← commandOf arg rest
      return { request with verbose := request.verbose || progress.has .verbose }
    else if arg = "--" then
      match rest with
      | [] => takeCommand progress []
      | word :: _ =>
        .error (if word ∈ "help" :: commandNames then .unknownArgument else .unknownCommand)
    else do
      match ← progress.takeOption? rootSignature arg.toList with
      | some progress => takeCommand progress rest
      | none => .error .unknownCommand

/-- Read a command line, given without the name of the program. -/
def parse (args : List String) : Except UsageError Request := takeCommand {} args

end Formicary.CommandLine
