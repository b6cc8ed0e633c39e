import DataPath.Fault
import DataPath.Radio

/-!
# Commands to the modem and signals from it

A switch submits commands to the modem and hears back by signals.  Each command
carries a *token*, a number that the switch never uses twice, and the signal that the
command has ended repeats it.
-/

namespace DataPath

/-- What the modem is told to do for one tenant. -/
inductive Command where
  /-- Bring up a class. -/
  | enable (dataClass : DataClass)
  /-- Take down a class. -/
  | disable (dataClass : DataClass)
  /-- Let go of everything. -/
  | forceIdle
  deriving DecidableEq, Repr

/-- What the modem reports to the switch of one tenant. -/
inductive Signal where
  /-- The command with this token has ended, with a fault if it failed. -/
  | completed (token : Nat) (fault : Option ModemFault)
  /-- A class now carries data. -/
  | classConnected (dataClass : DataClass)
  /-- The radio of the slot is in this state. -/
  | radio (state : Radio)
  deriving DecidableEq, Repr

end DataPath
