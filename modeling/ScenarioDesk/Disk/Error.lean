import ScenarioDesk.Disk.Path
import ScenarioDesk.Text.Utf8

/-!
Why the disk refuses an operation, and the words for it.
-/

namespace ScenarioDesk

/-- The system's reason. Some follow from what lies on the disk, the others from the device. -/
inductive DiskCause where
  | missing
  | deviceFailure
  | denied
  | busy
  | alreadyThere
  | notDirectory
  | isDirectory
  | noSpace
  | readOnly
  | nameTooLong
  deriving DecidableEq, Repr

/-- A refusal of the system: its reason and the path it was asked for, with the target if there is
one. A write to an open file names no path. -/
structure SystemError where
  cause : DiskCause
  path : Option Text := none
  target : Option Text := none
  deriving DecidableEq, Repr

/-- Why an operation on the disk fails. -/
inductive DiskError where
  | system (error : SystemError)
  /-- The path holds a zero character and is never given to the system. -/
  | nulInPath
  /-- The text to be written cannot be encoded. -/
  | unencodable (fault : Utf8.Unencodable)
  deriving DecidableEq, Repr

/-- The number the system gives a reason. -/
def DiskCause.number : DiskCause → Nat
  | .missing => 2
  | .deviceFailure => 5
  | .denied => 13
  | .busy => 16
  | .alreadyThere => 17
  | .notDirectory => 20
  | .isDirectory => 21
  | .noSpace => 28
  | .readOnly => 30
  | .nameTooLong => 36

/-- The words the system gives a reason. -/
def DiskCause.words : DiskCause → Text
  | .missing => "No such file or directory"
  | .deviceFailure => "Input/output error"
  | .denied => "Permission denied"
  | .busy => "Device or resource busy"
  | .alreadyThere => "File exists"
  | .notDirectory => "Not a directory"
  | .isDirectory => "Is a directory"
  | .noSpace => "No space left on device"
  | .readOnly => "Read-only file system"
  | .nameTooLong => "File name too long"

/-- The message for a refusal: number, words, and the paths in quotes. -/
def SystemError.message (error : SystemError) : Text :=
  let place : Text := match error.path, error.target with
    | none, _ => []
    | some path, none => ": " ++ Text.quote path
    | some path, some target => ": " ++ Text.quote path ++ " -> " ++ Text.quote target
  "[Errno " ++ Text.ofNat error.cause.number ++ "] " ++ error.cause.words ++ place

/-- The message for an error. -/
def DiskError.message : DiskError → Text
  | .system error => error.message
  | .nulInPath => "embedded null byte"
  | .unencodable fault => fault.message

end ScenarioDesk
