import DataPath.Text.Dump

/-!
# Tenants

A *tenant* is one of the subscriber slots that share the modem.  It is known by the
number of its slot, from zero.
-/

namespace DataPath

/-- One of the subscriber slots that share the modem. -/
structure Tenant where
  slot : Nat
  deriving DecidableEq, Repr, Inhabited

namespace Tenant

/-- The name of a tenant: `slot` and its number. -/
def name (t : Tenant) : String := "slot" ++ toString t.slot

/-- The dumped form of a tenant. -/
def dump (t : Tenant) : String := Text.dumpTuple "TenantId" [toString t.slot]

/-- The tenants of the first `n` slots. -/
def firsts (n : Nat) : List Tenant := (List.range n).map Tenant.mk

/-- The highest slot number there is. -/
def maxSlot : Nat := 255

end Tenant

end DataPath
