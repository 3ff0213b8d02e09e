import Literate.Path
import Literate.Text.Quoted

/-!
# Faults of the file system

The reasons why an operation on a path fails, with the number and the wording
that the operating system gives them.
-/

namespace Literate

/-- Why an operation on a path fails. -/
inductive Fault
  /-- There is nothing at the path. -/
  | notFound
  /-- Something is already at the path. -/
  | alreadyExists
  /-- A component before the last one is not a directory. -/
  | notDirectory
  /-- The path leads to a directory. -/
  | isDirectory
  /-- A component is longer than a file name may be. -/
  | nameTooLong
  /-- The path holds a null character, so that no file can be asked for. -/
  | nullCharacter
  /-- The operating system has another reason, such as a missing permission. -/
  | other (number : Nat) (reason : Text)
deriving DecidableEq, Inhabited

namespace Fault

/-- The number of the fault. -/
def number : Fault → Nat
  | notFound => 2
  | alreadyExists => 17
  | notDirectory => 20
  | isDirectory => 21
  | nameTooLong => 36
  | nullCharacter => 0
  | other number _ => number

/-- The wording of the fault. -/
def reason : Fault → Text
  | notFound => "No such file or directory"
  | alreadyExists => "File exists"
  | notDirectory => "Not a directory"
  | isDirectory => "Is a directory"
  | nameTooLong => "File name too long"
  | nullCharacter => "embedded null byte"
  | other _ reason => reason

/-- The fault with a number, when the operating system gives it this wording. -/
def ofNumber (number : Nat) (wording : Text) : Fault :=
  (([notFound, alreadyExists, notDirectory, isDirectory, nameTooLong] : List Fault).find?
    (·.number = number)).getD (other number wording)

/-- Whether the fault says that nothing is there, so that a mere test answers no. -/
def meansAbsent : Fault → Bool
  | notFound => true
  | notDirectory => true
  | nullCharacter => true
  -- a descriptor that is not open, and links that lead round in a circle
  | other number _ => number = 9 || number = 40
  | _ => false

end Fault

/-- A fault at a path. -/
structure PathFault where
  /-- What went wrong. -/
  fault : Fault
  /-- The path that was asked for. -/
  path : Path
deriving DecidableEq

/-- The wording of a fault at a path. -/
def PathFault.message (e : PathFault) : Text :=
  "[Errno " ++ Text.ofNat e.fault.number ++ "] " ++ e.fault.reason ++ ": " ++
    Text.quoted e.path.toText

end Literate
