import DataPath.DataClass
import DataPath.Tenant

/-!
# What can go wrong

Three kinds of failure are kept apart by who reports them.  A `ModemFault` comes
from the modem or from the way to it.  A `Refusal` says why one request did not
succeed; it is carried in the answer and harms nothing else.  A `ServiceFault`
belongs to the plumbing: a mailbox, a switch or a configuration.

Each has a message for a reader; the first two also appear in dumped values.
-/

namespace DataPath

open Text

/-- A failure reported by the modem, or on the way to it. -/
inductive ModemFault where
  /-- The text is not a label of a data class. -/
  | invalidClass (label : String)
  /-- The radio of the slot can never carry this class. -/
  | unsupported (tenant : Tenant) (dataClass : DataClass)
  /-- The radio of the slot is off. -/
  | radioOff (tenant : Tenant)
  /-- Another slot holds the data path. -/
  | busy (holder : Tenant)
  /-- The command was refused, with an explanation. -/
  | commandFailed (text : String)
  /-- The modem is gone. -/
  | closed
  deriving DecidableEq, Repr

namespace ModemFault

/-- The message for a reader. -/
def message : ModemFault → String
  | .invalidClass label => "invalid data class: " ++ quoted label
  | .unsupported tenant c => c.label ++ " not supported on " ++ tenant.name
  | .radioOff tenant => "radio off on " ++ tenant.name
  | .busy holder => "data path busy (held by " ++ holder.name ++ ")"
  | .commandFailed text => "command failed: " ++ text
  | .closed => "modem channel closed"

/-- The dumped form. -/
def dump : ModemFault → String
  | .invalidClass label => dumpTuple "InvalidClass" [quoted label]
  | .unsupported tenant c =>
    dumpRecord "Unsupported" [("tenant", tenant.dump), ("class", c.dump)]
  | .radioOff tenant => dumpTuple "RadioOff" [tenant.dump]
  | .busy holder => dumpRecord "Busy" [("holder", holder.dump)]
  | .commandFailed text => dumpTuple "CommandFailed" [quoted text]
  | .closed => "Closed"

end ModemFault

/-- The class a text names, or else the fault that the text is no label. -/
def DataClass.parse (text : String) : Except ModemFault DataClass :=
  match parse? text with
  | some c => .ok c
  | none => .error (.invalidClass text)

/-- Why one request did not succeed. -/
inductive Refusal where
  /-- There is no such slot. -/
  | unknownTenant (tenant : Tenant)
  /-- The radio of the tenant is off. -/
  | radioOff (tenant : Tenant)
  /-- Another tenant holds a class other than the default one. -/
  | conflict (dataClass : DataClass) (holder : Tenant)
  /-- The modem reported a failure. -/
  | transport (fault : ModemFault)
  /-- The request was dropped before an answer came. -/
  | noReply
  /-- The answer belongs to another request. -/
  | mismatchedReply
  deriving DecidableEq, Repr

namespace Refusal

/-- The message for a reader. -/
def message : Refusal → String
  | .unknownTenant tenant => "unknown tenant " ++ tenant.name
  | .radioOff tenant => "radio off on " ++ tenant.name
  | .conflict c holder => c.label ++ " rejected: " ++ holder.name ++ " holds a non-default class"
  | .transport fault => "modem: " ++ fault.message
  | .noReply => "no reply"
  | .mismatchedReply => "mismatched reply"

/-- The dumped form. -/
def dump : Refusal → String
  | .unknownTenant tenant => dumpTuple "UnknownTenant" [tenant.dump]
  | .radioOff tenant => dumpTuple "RadioOff" [tenant.dump]
  | .conflict c holder => dumpRecord "Conflict" [("class", c.dump), ("holder", holder.dump)]
  | .transport fault => dumpTuple "Transport" [fault.dump]
  | .noReply => "NoReply"
  | .mismatchedReply => "MismatchedReply"

end Refusal

/-- A failure of the plumbing. -/
inductive ServiceFault where
  /-- The mailbox of a tenant has no room for a message nobody waits for. -/
  | mailboxFull (tenant : Tenant)
  /-- The switch of a tenant has stopped. -/
  | closed (tenant : Tenant)
  /-- The arbiter has stopped. -/
  | arbiterClosed
  /-- The configuration cannot be used. -/
  | invalidConfig (text : String)
  /-- The modem failed. -/
  | modem (fault : ModemFault)
  deriving DecidableEq, Repr

/-- The message for a reader. -/
def ServiceFault.message : ServiceFault → String
  | .mailboxFull tenant => "mailbox full for " ++ tenant.name
  | .closed tenant => "switch actor for " ++ tenant.name ++ " has stopped"
  | .arbiterClosed => "arbitrator has stopped"
  | .invalidConfig text => "invalid configuration: " ++ text
  | .modem fault => "modem error: " ++ fault.message

/-- The answer to a request that asks for a change. -/
inductive Outcome where
  /-- Accepted; how it ends is reported later. -/
  | started
  /-- The class is connected already. -/
  | alreadyActive
  /-- There was nothing to let go. -/
  | alreadyInactive
  /-- Refused. -/
  | failed (reason : Refusal)
  deriving DecidableEq, Repr

namespace Outcome

/-- Whether the request was refused. -/
def isFailed : Outcome → Bool
  | .failed _ => true
  | _ => false

/-- The dumped form. -/
def dump : Outcome → String
  | .started => "Started"
  | .alreadyActive => "AlreadyActive"
  | .alreadyInactive => "AlreadyInactive"
  | .failed reason => dumpTuple "Failed" [reason.dump]

end Outcome

end DataPath
