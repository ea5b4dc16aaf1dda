import SuiteEngine.Host.Program
import SuiteEngine.Report.Attachment

/-!
# Trials

A `Trial` is a program that may fail and that records attachments on its way. What was recorded before a
failure stays recorded.
-/

namespace SuiteEngine.Host

open Report (Attachment)

/-- A program that may fail and records attachments. -/
abbrev Trial := ExceptT Failure (StateT (List Attachment) Program)

namespace Trial

variable {α : Type}

/-- The result of a program that does not fail. -/
def ofProgram (p : Program α) : Trial α := ExceptT.lift (StateT.lift p)

/-- A result or a failure that is known already. -/
def ofExcept (r : Except Failure α) : Trial α := ExceptT.mk (pure r)

/-- The result of a program that may fail. -/
def ofFallible (f : Fallible α) : Trial α := ExceptT.mk (StateT.lift f.run)

/-- Asks a question whose answer may be a failure. -/
def ofAnswer (p : Program (Except Failure α)) : Trial α := ofFallible (Fallible.ofAnswer p)

/-- Records an attachment. -/
def attach (a : Attachment) : Trial Unit := ExceptT.lift (modify (· ++ [a]))

/-- How a trial ends, as a result. -/
def outcome (t : Trial α) : Trial (Except Failure α) := ExceptT.lift t.run

/-- Runs a trial with nothing recorded yet, and gives how it ended and what it recorded. -/
def perform (t : Trial α) : Program (Except Failure α × List Attachment) := t.run.run []

/-- The seconds on the clock. -/
def clock : Trial Float := ofProgram Program.clock

end Trial

end SuiteEngine.Host
