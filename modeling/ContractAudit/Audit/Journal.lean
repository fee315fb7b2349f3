import ContractAudit.Failure

/-!
# The journal

The parts of the program keep a journal of what they do.  A step of work yields the entries it made
and either its result or the failure that stopped it; the entries that were made before a failure
remain.

* `Journal.Entry` -- one line of the journal;
* `Journaled` -- a step of work with its entries.
-/

namespace ContractAudit

namespace Journal

/-- How important an entry is. -/
inductive Level where
  | debug
  | info
  | error
  deriving DecidableEq, Repr

/-- The name of a level. -/
def Level.name : Level → String
  | debug => "DEBUG"
  | info => "INFO"
  | error => "ERROR"

/-- The place of a level on the scale of importance. -/
def Level.rank : Level → Nat
  | debug => 10
  | info => 20
  | error => 40

/-- The part of the program that made an entry. -/
inductive Origin where
  | segmentation
  | detectors
  | auditor
  | assistant
  | commandLine
  deriving DecidableEq, Repr

/-- The name under which a part of the program signs. -/
def Origin.name : Origin → String
  | segmentation => "risk_scanner.services.code_analyzer"
  | detectors => "risk_scanner.services.detectors"
  | auditor => "risk_scanner.services.auditor"
  | assistant => "risk_scanner.services.copilot"
  | commandLine => "risk_scanner.main"

/-- One entry. -/
structure Entry where
  origin : Origin
  level : Level
  message : String
  deriving DecidableEq, Repr

/-- The line that an entry takes, written at a given time. -/
def Entry.line (time : String) (entry : Entry) : String :=
  time ++ " - " ++ entry.origin.name ++ " - " ++ entry.level.name ++ " - " ++ entry.message ++ "\n"

end Journal

/-- The entries that a step of work made, and what came of it. -/
structure Journaled (α : Type) where
  entries : List Journal.Entry
  outcome : Except Failure α

namespace Journaled

variable {α β : Type}

/-- Work without entries. -/
def of (outcome : Except Failure α) : Journaled α :=
  ⟨[], outcome⟩

/-- One entry and nothing else. -/
def note (origin : Journal.Origin) (level : Journal.Level) (message : String) : Journaled Unit :=
  ⟨[⟨origin, level, message⟩], .ok ()⟩

/-- One step of work after another. -/
def bind (work : Journaled α) (next : α → Journaled β) : Journaled β :=
  match work.outcome with
  | .ok a => ⟨work.entries ++ (next a).entries, (next a).outcome⟩
  | .error failure => ⟨work.entries, .error failure⟩

instance : Monad Journaled where
  pure a := ⟨[], .ok a⟩
  bind := bind

instance : MonadLift (Except Failure) Journaled := ⟨of⟩

end Journaled

end ContractAudit
