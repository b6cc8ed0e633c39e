import DataPath.Fault
import DataPath.Json.Vocabulary

/-!
# Configuration of the arbiter

How many slots there are, which tenant is preferred for the default class and what
happens when its radio comes back, and how much room mailboxes have.
-/

namespace DataPath

/-- Configuration of the arbiter. -/
structure ArbiterConfig where
  /-- The number of slots. -/
  tenantCount : Nat := 2
  /-- The tenant preferred for the default class. -/
  defaultTenant : Option Tenant := some ⟨0⟩
  /-- The class that is activated on the preferred tenant when its radio comes back. -/
  defaultClass : DataClass := .default
  /-- How many messages a mailbox holds. -/
  mailboxCapacity : Nat := 64
  /-- Whether the preferred tenant is activated when its radio comes back. -/
  autoRecoverDefault : Bool := true
  deriving DecidableEq, Repr

namespace ArbiterConfig

instance : Inhabited ArbiterConfig := ⟨{}⟩

/-- The configured tenants, in the order of their slots. -/
def tenants (config : ArbiterConfig) : List Tenant := Tenant.firsts config.tenantCount

/-- What makes a configuration unusable, if anything does. -/
def fault? (config : ArbiterConfig) : Option ServiceFault :=
  if config.tenantCount = 0 then some (.invalidConfig "tenant_count must be at least 1")
  else if config.mailboxCapacity = 0 then
    some (.invalidConfig "mailbox_capacity must be at least 1")
  else match config.defaultTenant with
    | some t =>
      if config.tenantCount ≤ t.slot then
        some (.invalidConfig
          ("default tenant " ++ t.name ++ " outside " ++ toString config.tenantCount ++ " slots"))
      else none
    | none => none

/-- The JSON form of a configuration. -/
def toJson (config : ArbiterConfig) : Json :=
  .record [("tenant_count", .nat config.tenantCount),
    ("default_tenant", Json.orNull Tenant.toJson config.defaultTenant),
    ("default_class", config.defaultClass.toJson),
    ("mailbox_capacity", .nat config.mailboxCapacity),
    ("auto_recover_default", .bool config.autoRecoverDefault)]

/-- The configuration a JSON value stands for; a field that is left out has its
default. -/
def ofJson? (v : Json) : Option ArbiterConfig := do
  let d : ArbiterConfig := {}
  match ← Json.pick? ["tenant_count", "default_tenant", "default_class", "mailbox_capacity",
      "auto_recover_default"] v with
  | [count, tenant, dataClass, capacity, recover] =>
    return {
      tenantCount := ← Json.orDefault? Json.byte? d.tenantCount count
      defaultTenant := ← Json.orDefault? (Json.nullable? Tenant.ofJson?) d.defaultTenant tenant
      defaultClass := ← Json.orDefault? DataClass.ofJson? d.defaultClass dataClass
      mailboxCapacity := ← Json.orDefault? Json.word? d.mailboxCapacity capacity
      autoRecoverDefault := ← Json.orDefault? Json.bool? d.autoRecoverDefault recover }
  | _ => none

end ArbiterConfig

end DataPath
