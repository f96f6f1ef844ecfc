import AstLink.Fault.Numbered

namespace AstLink
namespace Machine

/-!
What a program is told when the machine does not do what it asked for.
-/

/-- Why the machine does not do what was asked of it. -/
inductive Obstacle where
  | notPermitted
  | noEntry
  | noProcess
  | interrupted
  | noDevice
  | argumentsTooLong
  | noProgram
  | badDescriptor
  | noChild
  | noResource
  | noAccess
  | busy
  | isThere
  | otherDevice
  | noDirectory
  | isDirectory
  | invalid
  | noSpace
  | noSeek
  | noReader
  | nameTooLong
  | notEmpty
  | tooManyLevels
  deriving DecidableEq, Repr

namespace Obstacle

def number : Obstacle -> Nat
  | .notPermitted => 1
  | .noEntry => 2
  | .noProcess => 3
  | .interrupted => 4
  | .noDevice => 6
  | .argumentsTooLong => 7
  | .noProgram => 8
  | .badDescriptor => 9
  | .noChild => 10
  | .noResource => 11
  | .noAccess => 13
  | .busy => 16
  | .isThere => 17
  | .otherDevice => 18
  | .noDirectory => 20
  | .isDirectory => 21
  | .invalid => 22
  | .noSpace => 28
  | .noSeek => 29
  | .noReader => 32
  | .nameTooLong => 36
  | .notEmpty => 39
  | .tooManyLevels => 40

def text (obstacle : Obstacle) : String :=
  match Fault.numbered.lookup (Int.ofNat obstacle.number) with
  | some (_, text) => text
  | none => ""

def fault (obstacle : Obstacle) : Fault := Fault.ofNumber (Int.ofNat obstacle.number)

end Obstacle

end Machine
end AstLink
