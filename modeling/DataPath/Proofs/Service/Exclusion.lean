import DataPath.Proofs.Service.Invariant

/-!
# Mutual exclusion

However many slots there are, whatever is asked of the service from outside and in whatever
order moves are made: at most one switch is not idle, and it is that of the owner.  Nothing on
the modem or on its way there belongs to anybody else, and the modem never has to refuse a class
because another slot carries data.
-/

namespace DataPath.Service

/-- The data path is used by one tenant at a time, the owner. -/
structure Exclusive (s : Service) : Prop where
  /-- At most one switch is not idle. -/
  alone : ∀ t u p q, s.post? t = some p → s.post? u = some q →
    p.station.switch.phase ≠ .idle → q.station.switch.phase ≠ .idle → t = u
  /-- A switch that is not idle is the owner's. -/
  busy : ∀ t p, s.post? t = some p → p.station.switch.phase ≠ .idle → s.arbiter.owner = some t
  /-- A slot with connected classes is the owner's. -/
  carrying : ∀ t classes, s.pipeline.modem.connected? t = some classes → classes ≠ ∅ →
    s.arbiter.owner = some t
  /-- A command to bring up a class is the owner's. -/
  enabling : ∀ job ∈ s.pipeline.jobs, ∀ c, job.command = .enable c →
    s.arbiter.owner = some job.tenant
  /-- A connect that carries a grant stands in the mailbox of the owner. -/
  acquiring : ∀ t p, s.post? t = some p → ∀ m ∈ p.channel.mailbox, m.isAcquire = true →
    s.arbiter.owner = some t
  /-- The modem has counted no violation. -/
  lawful : s.pipeline.modem.violations = 0

variable {s : Service}

/-- What always holds implies exclusion. -/
theorem Invariant.exclusive (h : Invariant s) : Exclusive s where
  alone t u p q hp hq hpne hqne := by
    have ht := h.owned.busy t p hp hpne
    have hu := h.owned.busy u q hq hqne
    rw [ht, Option.some.injEq] at hu
    exact hu
  busy := h.owned.busy
  carrying t classes hclasses hne := by
    obtain ⟨c, hc⟩ : ∃ c, c ∈ classes := by
      by_contra hno
      exact hne (ClassSet.eq_empty_iff.2 fun c hc => hno ⟨c, hc⟩)
    refine h.lined.owner_of_up h.owned (c := c) ?_
    unfold Modem.up
    rw [hclasses]
    exact hc
  enabling job hjob c hc := h.lined.owner_of_enable h.wired h.owned hjob hc
  acquiring := h.owned.mail
  lawful := h.lined.lawful

/-- The data path is used by one tenant at a time, in every state that can be reached. -/
theorem exclusive_of_reachable {config : ArbiterConfig} {modem : ModemConfig}
    (h : Reachable config modem s) : Exclusive s := h.invariant.exclusive

/-- A modem that takes no time. -/
def promptModem (slots : Nat) : ModemConfig where
  latency := 0
  slots := List.replicate slots {}

/-- Moves until the arbiter has subscribed to two switches. -/
def enrolling : List Move := [.read ⟨0⟩, .read ⟨1⟩, .notice, .notice]

/-- Two slots, of which both are asked for: the first is being brought up, and the second has to
wait. -/
theorem exclusive_contended : ∃ s, Reachable {} (promptModem 2) s ∧
    s.arbiter.owner = some ⟨0⟩ ∧ s.arbiter.pendingOwner = some ⟨1⟩ ∧
    (s.pipeline.jobs.map Modem.Job.command) = [.enable .default] ∧ Exclusive s := by
  have hstart : Service.start {} (promptModem 2) = .ok (ofConfig {} (promptModem 2)) := rfl
  have hreach := (((Reachable.start hstart).accept 0 (.activate ⟨0⟩ .default) rfl).accept 1
    (.activate ⟨1⟩ .mms) rfl)
  have hrun : ((((ofConfig {} (promptModem 2)).accept 0 (.activate ⟨0⟩ .default)).accept 1
      (.activate ⟨1⟩ .mms)).follow? (enrolling ++ [.command, .read ⟨0⟩, .notice, .command])).map
        (fun s => (s.arbiter.owner, s.arbiter.pendingOwner, s.pipeline.jobs.map Modem.Job.command)) =
      some (some ⟨0⟩, some ⟨1⟩, [.enable .default]) := by decide +kernel
  obtain ⟨s, hs, heq⟩ := Option.map_eq_some_iff.1 hrun
  simp only [Prod.mk.injEq] at heq
  obtain ⟨howner, hpending, hjobs⟩ := heq
  have hmoved := hreach.follow hs
  exact ⟨s, hmoved, howner, hpending, hjobs, exclusive_of_reachable hmoved⟩

end DataPath.Service
