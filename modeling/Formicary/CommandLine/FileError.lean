/-!
# Failures of files

The ways in which a file can fail to be read or written. Most of them are failures of the system,
which numbers them: `FileError.number?` gives the number, `FileError.ofNumber?` the failure with a
number, and a message quotes the number.
-/

namespace Formicary.CommandLine

/-- Why a file cannot be read or written. -/
inductive FileError where
  /-- There is no such file. -/
  | missing
  /-- The device fails. -/
  | inputOutput
  /-- There is no device behind the file. -/
  | noDevice
  /-- The file may not be accessed. -/
  | denied
  /-- A part of the path that should be a directory is a file. -/
  | notDirectory
  /-- The file is a directory. -/
  | directory
  /-- The file cannot be accessed in this way. -/
  | invalid
  /-- The file is a program that runs. -/
  | busy
  /-- The file would grow too large. -/
  | tooLarge
  /-- There is no space for the file. -/
  | noSpace
  /-- The file lies where nothing can be written. -/
  | readOnly
  /-- A name in the path is longer than the system allows. -/
  | nameTooLong
  /-- The path leads through too many links. -/
  | linkLoop
  /-- The file does not hold text. -/
  | notText
  /-- Anything else, in the words of the system. -/
  | system (message : String)
  deriving DecidableEq

namespace FileError

/-- The failures that the system numbers. -/
def numbered : List FileError :=
  [ missing, inputOutput, noDevice, denied, notDirectory, directory, invalid, busy, tooLarge,
    noSpace, readOnly, nameTooLong, linkLoop ]

/-- The system's number of a failure. -/
def number? : FileError → Option Nat
  | missing => some 2
  | inputOutput => some 5
  | noDevice => some 6
  | denied => some 13
  | notDirectory => some 20
  | directory => some 21
  | invalid => some 22
  | busy => some 26
  | tooLarge => some 27
  | noSpace => some 28
  | readOnly => some 30
  | nameTooLong => some 36
  | linkLoop => some 40
  | notText => none
  | system _ => none

/-- The failure with a number. -/
def ofNumber? (n : Nat) : Option FileError := numbered.find? (·.number? = some n)

/-- What has gone wrong, in words. -/
def description : FileError → String
  | missing => "No such file or directory"
  | inputOutput => "Input/output error"
  | noDevice => "No such device or address"
  | denied => "Permission denied"
  | notDirectory => "Not a directory"
  | directory => "Is a directory"
  | invalid => "Invalid argument"
  | busy => "Text file busy"
  | tooLarge => "File too large"
  | noSpace => "No space left on device"
  | readOnly => "Read-only file system"
  | nameTooLong => "File name too long"
  | linkLoop => "Too many levels of symbolic links"
  | notText => "stream did not contain valid UTF-8"
  | system message => message

/-- The failure in words, with the system's number if it has one. -/
def message (error : FileError) : String :=
  match error.number? with
  | some n => s!"{error.description} (os error {n})"
  | none => error.description

end FileError

end Formicary.CommandLine
