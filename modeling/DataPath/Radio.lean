/-!
# Radio states

The radio of a slot is off, or it is powered and then in service, out of service or
restricted to emergency calls.  The data path only cares whether it is off.
-/

namespace DataPath

/-- Power and service state of the radio of one slot. -/
inductive Radio where
  | off
  | on
  | outOfService
  | emergencyOnly
  deriving DecidableEq, Repr

namespace Radio

/-- A radio is on until something else is reported. -/
instance : Inhabited Radio := ⟨.on⟩

/-- Every radio state. -/
def all : List Radio := [.off, .on, .outOfService, .emergencyOnly]

/-- Whether the radio is powered off. -/
def isOff (r : Radio) : Bool := r = .off

/-- Whether the radio is registered for ordinary service. -/
def isInService (r : Radio) : Bool := r = .on

/-- The name shown to a reader. -/
def name : Radio → String
  | .off => "off"
  | .on => "on"
  | .outOfService => "out-of-service"
  | .emergencyOnly => "emergency-only"

/-- The name used in data. -/
def label : Radio → String
  | .off => "off"
  | .on => "on"
  | .outOfService => "out_of_service"
  | .emergencyOnly => "emergency_only"

/-- The dumped form. -/
def dump : Radio → String
  | .off => "Off"
  | .on => "On"
  | .outOfService => "OutOfService"
  | .emergencyOnly => "EmergencyOnly"

/-- The state with exactly this name in data. -/
def ofLabel? (label : String) : Option Radio := all.find? fun r => r.label = label

end Radio

end DataPath
