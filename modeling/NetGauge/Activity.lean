import NetGauge.Json.Value
import NetGauge.Recent

set_option autoImplicit false

/-! # The activity log

What the user is told, newest last. The log keeps two hundred entries. -/

namespace NetGauge

open Json (Value)

inductive LogLevel where
  | info
  | success
  | error
  deriving DecidableEq

def LogLevel.name : LogLevel → String
  | .info => "info"
  | .success => "success"
  | .error => "error"

/-- A line of the log, stamped with the label of its tick. -/
structure LogEntry where
  label : String
  level : LogLevel
  message : String
  deriving DecidableEq

def LogEntry.toValue (e : LogEntry) : Value :=
  .object [("label", .string e.label), ("level", .string e.level.name), ("message", .string e.message)]

/-- How many entries the log keeps. -/
def activityCapacity : Nat := 200

/-- The newest entries. -/
abbrev ActivityLog := Recent activityCapacity LogEntry

namespace ActivityLog

/-- Adds an entry. -/
def record (log : ActivityLog) (label : String) (level : LogLevel) (message : String) : ActivityLog :=
  log.push ⟨label, level, message⟩

/-- An entry goes behind the others; in a full log the oldest makes room. -/
theorem toList_record (log : ActivityLog) (label : String) (level : LogLevel) (message : String) :
    (log.record label level message).toList =
      (if log.toList.length = activityCapacity then log.toList.tail else log.toList) ++
        [⟨label, level, message⟩] :=
  log.toList_push_of_pos _ (by decide)

def last? (log : ActivityLog) : Option LogEntry := log.toList.getLast?

/-- The entries that tell of errors. -/
def errors (log : ActivityLog) : List LogEntry :=
  log.toList.filter (fun e => e.level == .error)

def toValue (log : ActivityLog) : Value :=
  .object [("capacity", .nat activityCapacity), ("entries", .ofList LogEntry.toValue log.toList)]

end ActivityLog

end NetGauge
