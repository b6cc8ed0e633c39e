import DataPath.Proofs.Service.Reachable
import DataPath.Proofs.Service.Scale

/-!
# Where a grant is

A grant is on its way from when the arbiter sends it until the arbiter takes the answer.  In
between it may wait with a letter, with a parked connect, with an errand, or with a command:
whoever waits for an answer may wait for somebody who waits for a grant, so that the whole
chain of callers and clients is searched (`Caller.chain`).

`Scale.held` counts the places where a grant is.  A move of a switch or of a courier moves
grants and does not lose or multiply them, and the arbiter sends each new grant to exactly
one place.  So the grants under way are those that are outstanding (`Counted`).
-/

namespace DataPath.Service

/-! ## Chains of callers -/

mutual

/-- What a caller and everybody behind him weigh, with a weight for what is tracked and one
for every connect that was passed on. -/
def Caller.chain (w : Option Arbiter.Tracked → Nat) (b : Nat) : Caller → Nat
  | .relay _ _ tracked client => w tracked + client.chain w b
  | .nobody | .call .. | .subscription .. => 0

/-- What a client and everybody behind him weigh. -/
def Client.chain (w : Option Arbiter.Tracked → Nat) (b : Nat) : Client → Nat
  | .ask _ _ caller => b + caller.chain w b
  | .nobody | .call .. => 0

end

variable {w : Option Arbiter.Tracked → Nat} {b : Nat}

@[simp] theorem Caller.chain_nobody : Caller.nobody.chain w b = 0 := by
  unfold Caller.chain
  rfl

@[simp] theorem Caller.chain_call (n id : Nat) (e : Expect) : (Caller.call n id e).chain w b = 0 := by
  unfold Caller.chain
  rfl

@[simp] theorem Caller.chain_subscription (n : Nat) (t : Tenant) :
    (Caller.subscription n t).chain w b = 0 := by
  unfold Caller.chain
  rfl

@[simp] theorem Caller.chain_relay (t : Tenant) (id : Nat) (tracked : Option Arbiter.Tracked)
    (client : Client) :
    (Caller.relay t id tracked client).chain w b = w tracked + client.chain w b := by
  rw [Caller.chain]

@[simp] theorem Client.chain_nobody : Client.nobody.chain w b = 0 := by
  unfold Client.chain
  rfl

@[simp] theorem Client.chain_call (n : Nat) : (Client.call n).chain w b = 0 := by
  unfold Client.chain
  rfl

@[simp] theorem Client.chain_ask (t : Tenant) (id : Nat) (caller : Caller) :
    (Client.ask t id caller).chain w b = b + caller.chain w b := by
  rw [Client.chain]

/-- The weight of whoever may wait for an answer. -/
def handleChain (w : Option Arbiter.Tracked → Nat) (b : Nat) (handle : Option Caller) : Nat :=
  handle.elim 0 fun caller => caller.chain w b

@[simp] theorem handleChain_some (caller : Caller) :
    handleChain w b (some caller) = caller.chain w b := rfl

theorem chain_getD (handle : Option Caller) :
    (handle.getD .nobody).chain w b = handleChain w b handle := by
  cases handle with
  | none => exact Caller.chain_nobody
  | some caller => rfl

/-- Answers weigh as much as whoever waits for them. -/
structure Chained (σ : Scale) (w : Option Arbiter.Tracked → Nat) (b : Nat) : Prop where
  settle : ∀ t id tracked client outcome,
    σ.errand (.settle t id tracked client outcome) = w tracked + client.chain w b
  answer : ∀ t id caller outcome, σ.errand (.answer t id caller outcome) = b + caller.chain w b

variable {σ : Scale}

theorem Chained.load_caller (h : Chained σ w b) (caller : Caller) (r : Option Reply) :
    σ.load (caller.errands r) = caller.chain w b := by
  cases caller <;> simp [Caller.errands, h.settle]

theorem Chained.load_outcome (h : Chained σ w b) (client : Client) (o : Outcome) :
    σ.load (client.errands (.outcome o)) = client.chain w b := by
  cases client <;> simp [Client.errands, h.answer]

theorem Chained.load_client_le (h : Chained σ w b) (client : Client) (a : Answer) :
    σ.load (client.errands a) ≤ client.chain w b := by
  cases a with
  | outcome o => exact Nat.le_of_eq (h.load_outcome client o)
  | _ => cases client <;> simp [Client.errands]

/-- A reply weighs as much as whoever waits for it. -/
theorem Chained.load_replyTo (h : Chained σ w b) (t : Tenant) (handle : Option Caller) (id : Nat)
    (body : ReplyBody) :
    σ.load ((Switch.replyTo handle id body).flatMap (errandsOf t)) = handleChain w b handle := by
  cases handle with
  | none => rfl
  | some caller => simp [Switch.replyTo, errandsOf, h.load_caller]

/-! ## Moves of a switch -/

/-- What a switch does with a request that it takes when its outbox is empty. -/
theorem read_cases {sw : Switch Caller} (harb : sw.arbitrated = true) (hout : sw.outbox = [])
    (id : Nat) (request : Request) (handle : Option Caller) :
    (sw.handle id request handle).tenant = sw.tenant ∧
    (sw.handle id request handle).arbitrated = true ∧
    (sw.handle id request handle).inflight =
      sw.inflight ++ Switch.submissions (sw.handle id request handle).outbox ∧
    Switch.TellsChange sw (sw.handle id request handle) (sw.handle id request handle).outbox ∧
    sw.phase.Follows (sw.handle id request handle).phase ∧
    Switch.Handled sw id request handle (sw.handle id request handle)
      (sw.handle id request handle).outbox := by
  obtain ⟨new, hadds, htells, hfollows, hcase⟩ := Switch.handle_cases harb id request handle
  have hnew : (sw.handle id request handle).outbox = new := by
    rw [hadds.outbox, hout, List.nil_append]
  rw [hnew]
  exact ⟨hadds.tenant, hadds.arbitrated.trans harb, hadds.inflight, htells, hfollows, hcase⟩

/-- What a switch does with a signal that it takes when its outbox is empty. -/
theorem hear_cases {sw : Switch Caller} (harb : sw.arbitrated = true) (hout : sw.outbox = [])
    (signal : Signal) :
    (sw.hear signal).tenant = sw.tenant ∧ (sw.hear signal).arbitrated = true ∧
    (sw.hear signal).inflight =
      (sw.ended signal).inflight ++ Switch.submissions (sw.hear signal).outbox ∧
    Switch.Heard sw signal (sw.hear signal) (sw.hear signal).outbox := by
  obtain ⟨new, hadds, hcase⟩ := Switch.hear_cases harb signal
  have hnew : (sw.hear signal).outbox = new := by
    rw [hadds.outbox, Switch.ended_outbox, hout, List.nil_append]
  rw [hnew]
  refine ⟨?_, ?_, hadds.inflight, hcase⟩
  · rw [hadds.tenant, Switch.ended_tenant]
  · rw [hadds.arbitrated, Switch.ended_arbitrated, harb]

/-- The weight of a post with another switch. -/
theorem post_put (σ : Scale) (p : Post) (switch : Switch Caller) :
    σ.post { p with station := p.station.put switch } =
      σ.mail switch.phase p.channel.mailbox + σ.kept switch.parked + σ.told p.signals +
        σ.phase switch.tenant switch.phase := rfl

/-! ## Counting a grant -/

/-- Whether this grant is tracked. -/
def isTracked (g : Grant) : Option Arbiter.Tracked → Nat
  | some (.grant k) => if k = g then 1 else 0
  | _ => 0

/-- How often a caller and everybody behind him hold a grant. -/
def Caller.holds (g : Grant) (caller : Caller) : Nat := caller.chain (isTracked g) 0

/-- How often a client and everybody behind him hold a grant. -/
def Client.holds (g : Grant) (client : Client) : Nat := client.chain (isTracked g) 0

/-- The places where a grant is. -/
def Scale.held (g : Grant) : Scale where
  letter _ m := match m with
    | .request _ _ handle => handleChain (isTracked g) 0 handle
    | _ => 0
  parked p := handleChain (isTracked g) 0 p.handle
  signal _ := 0
  phase _ _ := 0
  job := 0
  control _ := 0
  notice _ := 0
  tidings t := isTracked g (some t.tracked)
  command c := match c with
    | .activate _ _ client | .deactivate _ _ client => client.holds g
    | _ => 0
  errand e := match e with
    | .ask _ _ _ caller | .answer _ _ caller _ => caller.holds g
    | .settle _ _ tracked client _ => isTracked g tracked + client.holds g
  anonymous _ _ _ _ _ _ _ := by simp

theorem chained_held (g : Grant) : Chained (Scale.held g) (isTracked g) 0 where
  settle _ _ _ _ _ := rfl
  answer _ _ _ _ := (Nat.zero_add _).symm

/-- The outstanding grants are those under way, and each is in one place. -/
def Counted (s : Service) (a : Arbiter) : Prop :=
  ∀ g, weigh (Scale.held g) s = a.outstanding.count g

end DataPath.Service
