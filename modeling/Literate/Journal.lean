import Literate.Text.Basic

/-!
# The journal

A run reports what it does by records.  A record has a level and names the part
of the program that wrote it.
-/

namespace Literate

/-- The weight of a record. -/
inductive Level
  | debug
  | info
  | warning
deriving DecidableEq, Inhabited

namespace Level

/-- The rank of a level. -/
def rank : Level → Nat
  | debug => 0
  | info => 1
  | warning => 2

/-- The word for a level. -/
def name : Level → Text
  | debug => "DEBUG"
  | info => "INFO"
  | warning => "WARNING"

end Level

/-- The part of the program that writes a record. -/
inductive Origin
  | document
  | collection
  | expansion
  | placement
  | emission
  | tangling
  | cleaning
deriving DecidableEq, Inhabited

/-- The name under which a part of the program writes. -/
def Origin.name : Origin → Text
  | document => "orgtangle.document"
  | collection => "orgtangle.collector"
  | expansion => "orgtangle.expander"
  | placement => "orgtangle.grouper"
  | emission => "orgtangle.emitter"
  | tangling => "orgtangle.orchestrator"
  | cleaning => "orgtangle.cleaner"

/-- One report. -/
structure Record where
  /-- Its weight. -/
  level : Level
  /-- Who wrote it. -/
  origin : Origin
  /-- What it says. -/
  message : Text
deriving DecidableEq, Inhabited

namespace Record

/-- Whether the record is at least as heavy as a level. -/
def atLeast (level : Level) (record : Record) : Bool :=
  decide (level.rank ≤ record.level.rank)

/-- The line shown on the console. -/
def consoleLine (record : Record) : Text :=
  "[orgtangle] " ++ record.level.name ++ " " ++ record.message ++ "\n"

/-- The line written to a log file at a time. -/
def fileLine (time : Text) (record : Record) : Text :=
  time ++ " " ++ record.level.name ++ " " ++ record.origin.name ++ ": " ++ record.message ++ "\n"

/-- The record on one line with its level and its origin. -/
def summary (record : Record) : Text :=
  record.level.name ++ " " ++ record.origin.name ++ " " ++ record.message

end Record

end Literate
