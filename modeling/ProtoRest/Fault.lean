/-! # Faults
What can go wrong while files are generated. A **fault** says what is wrong and where; several
faults can be joined into one, and `Fault.leaves` takes them apart again. A fault is fatal when it
concerns the whole run and not one file. Work can also stop without any report, which is a `Failure`
of its own. -/

namespace ProtoRest

/-- A cause that a run reports. -/
inductive Fault
  /-- The request cannot be decoded. -/
  | decode (message : String)
  /-- The settings cannot be used. -/
  | setting (message : String)
  /-- The options of a file cannot be understood. -/
  | options (file message : String)
  /-- The annotation of a method does not fit its messages. -/
  | schema (file method message : String)
  /-- The generated code is not well formed. -/
  | template (message : String)
  /-- Reading or writing failed. -/
  | io (message : String)
  /-- Several faults in the order they were found. -/
  | several (faults : List Fault)
  deriving Repr, Inhabited

namespace Fault

mutual

/-- Whether a fault concerns the whole run. -/
def isFatal : Fault → Bool
  | .decode _ | .setting _ | .template _ | .io _ => true
  | .options _ _ | .schema _ _ _ => false
  | .several faults => anyFatal faults

/-- Whether one of several faults concerns the whole run. -/
def anyFatal : List Fault → Bool
  | [] => false
  | fault :: faults => fault.isFatal || anyFatal faults

end

/-- The check for a fatal fault runs over all faults of a list. -/
theorem anyFatal_eq_any (faults : List Fault) : anyFatal faults = faults.any isFatal := by
  induction faults with
  | nil => rw [anyFatal]; rfl
  | cons fault faults ih => rw [anyFatal, ih, List.any_cons]

mutual

/-- The text shown for a fault; joined faults are shown one per line. -/
def message : Fault → String
  | .decode text => "Decode error: " ++ text
  | .setting text => "Invalid configuration: " ++ text
  | .options file text => file ++ ": failed to parse options: " ++ text
  | .schema file method text => file ++ ": " ++ method ++ ": " ++ text
  | .template text => "Template error: " ++ text
  | .io text => "I/O error: " ++ text
  | .several faults => messageLines faults

/-- The texts of several faults with a line feed between two neighbours. -/
def messageLines : List Fault → String
  | [] => ""
  | [fault] => fault.message
  | fault :: next :: faults => fault.message ++ "\n" ++ messageLines (next :: faults)

end

/-- The lines of several faults are their messages, joined by line feeds. -/
theorem messageLines_eq_intercalate (faults : List Fault) :
    messageLines faults = "\n".intercalate (faults.map message) := by
  induction faults with
  | nil => rw [messageLines, List.map_nil, String.intercalate_nil]
  | cons fault faults ih =>
    cases faults with
    | nil => rw [messageLines, List.map_cons, List.map_nil, String.intercalate_singleton]
    | cons next faults =>
      rw [messageLines, ih]
      simp only [List.map_cons, String.intercalate_cons_cons]

mutual

/-- The faults in a fault that are not joined ones, from left to right. -/
def leaves : Fault → List Fault
  | .several faults => leavesOfAll faults
  | fault => [fault]

/-- The faults in several faults that are not joined ones. -/
def leavesOfAll : List Fault → List Fault
  | [] => []
  | fault :: faults => fault.leaves ++ leavesOfAll faults

end

/-- The leaves of a joined fault are those of all its faults. -/
@[simp] theorem leaves_several (faults : List Fault) :
    (Fault.several faults).leaves = leavesOfAll faults := by
  rw [leaves]

/-- The leaves of several faults are those of each, in order. -/
theorem leavesOfAll_eq_flatMap (faults : List Fault) :
    leavesOfAll faults = faults.flatMap leaves := by
  induction faults with
  | nil => rw [leavesOfAll]; rfl
  | cons fault faults ih => rw [leavesOfAll, ih, List.flatMap_cons]

/-- The faults joined into one; nothing when there is none. -/
def joined? (faults : List Fault) : Option Fault :=
  if faults.isEmpty then none else some (.several faults)

@[simp] theorem joined?_nil : joined? [] = none := rfl

@[simp] theorem joined?_cons (fault : Fault) (faults : List Fault) :
    joined? (fault :: faults) = some (.several (fault :: faults)) := rfl

/-- Joined faults, if there are any, read as their messages in lines. -/
theorem map_message_joined? (faults : List Fault) :
    (joined? faults).map message =
      if faults = [] then none else some ("\n".intercalate (faults.map message)) := by
  rw [← messageLines_eq_intercalate]
  cases faults with
  | nil => rfl
  | cons fault faults => rfl

end Fault

/-- How a piece of work fails. -/
inductive Failure
  /-- It reports a fault. -/
  | fault (fault : Fault)
  /-- It stops without a report. -/
  | crash
  deriving Repr

/-- Whether a failure ends the whole run. -/
def Failure.isFatal : Failure → Bool
  | .fault cause => cause.isFatal
  | .crash => true

end ProtoRest
