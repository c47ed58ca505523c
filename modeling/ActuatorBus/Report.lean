import ActuatorBus.Value.Basic

/-!
# Reports

What the faults of the bus are about: the stage of an exchange, the count that
a reply should have had. A report is such a fault made from values of any
kind, as a caller may do to raise it on its own.
-/

namespace ActuatorBus

inductive Stage where
  /-- At no particular stage. -/
  | communicate
  /-- Before anything was sent. -/
  | discard
  /-- While the instruction was sent. -/
  | write
  /-- While the reply was read. -/
  | read
  /-- The deadline passed before a whole reply was there. -/
  | deadline
deriving DecidableEq, Repr

/-- What could not be done at a stage. -/
def Stage.activity : Stage → String
  | communicate => "communicate"
  | discard => "discard input buffer"
  | write => "write instruction"
  | read => "read response"
  | deadline => "read response before deadline"

inductive ExpectedCount.Bound where
  | exactly
  | atMost
  | atLeast
deriving DecidableEq, Repr

/-- A number of parameters that a reply should have had. -/
structure ExpectedCount where
  /-- How the count is bounded. -/
  bound : ExpectedCount.Bound
  count : Int
deriving DecidableEq, Repr

def ExpectedCount.Bound.text : ExpectedCount.Bound → String
  | exactly => "exactly"
  | atMost => "at most"
  | atLeast => "at least"

def ExpectedCount.admits (expected : ExpectedCount) (actual : Int) : Bool :=
  match expected.bound with
  | .exactly => actual == expected.count
  | .atMost => actual ≤ expected.count
  | .atLeast => expected.count ≤ actual

/-- An expected count whose parts may be of any kind. -/
structure Requirement where
  bound : Value
  count : Value
deriving DecidableEq, Repr

namespace Requirement

def text (requirement : Requirement) : String :=
  requirement.bound.text ++ " " ++ requirement.count.text

def representation (requirement : Requirement) : String :=
  "ExpectedCount(" ++ requirement.bound.representation ++ ", " ++
    requirement.count.text ++ ")"

def same (first second : Requirement) : Bool :=
  first.bound.same second.bound && first.count.same second.count

end Requirement

/-- An expected count as a requirement. -/
def ExpectedCount.requirement (expected : ExpectedCount) : Requirement :=
  ⟨.words expected.bound.text, .integer expected.count⟩

/-- What a report about a parameter count says was expected. -/
inductive Expectation where
  | requirement (expected : Requirement)
  | value (expected : Value)
deriving DecidableEq, Repr

def Expectation.text : Expectation → String
  | requirement expected => expected.text
  | value expected => expected.text

/-- A fault of the bus that is made from values of any kind. -/
inductive Report where
  /-- A message is larger than the buffer for it. -/
  | bufferTooSmall (required total : Value)
  /-- The line failed at a stage of an exchange. -/
  | line (stage : Stage) (error : Value)
  /-- The checksum of a message is not the one of its bytes. -/
  | checksum (received computed : Value.Whole)
  /-- A packet comes from another motor. -/
  | packetId (actual : Value.Whole) (expected : Option Value.Whole)
  /-- A packet has not as many parameters as it should. -/
  | parameterCount (actual : Value) (expected : Expectation)
  /-- The motor reported an error. -/
  | motorError (flags : Value)
deriving DecidableEq, Repr

def Report.text : Report → String
  | bufferTooSmall required total =>
    "buffer is too small: need " ++ required.text ++
      " bytes, but the size is " ++ total.text
  | line stage error =>
    "failed to " ++ stage.activity ++ ": " ++ error.text
  | checksum received computed =>
    "invalid checksum, message claims " ++ Text.hexNumber received.toInt ++
      ", computed " ++ Text.hexNumber computed.toInt
  | packetId actual none =>
    "invalid packet ID: " ++ Text.hexNumber actual.toInt
  | packetId actual (some expected) =>
    "invalid packet ID, expected " ++ Text.hexNumber expected.toInt ++
      ", got " ++ Text.hexNumber actual.toInt
  | parameterCount actual expected =>
    "invalid parameter count, expected " ++ expected.text ++ ", got " ++
      actual.text
  | motorError flags => "motor reported an error: " ++ flags.text

end ActuatorBus
