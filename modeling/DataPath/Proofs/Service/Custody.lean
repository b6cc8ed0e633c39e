import DataPath.Proofs.Service.Scale
import DataPath.Proofs.Service.Tidy
import DataPath.Proofs.Switch.Ledger

/-!
# Who has a call in custody

A call from outside is in somebody's custody until it is answered.  It may stand in a mailbox, in a
parked connect, in an effect of a switch, in a command for the arbiter or in an errand; there it
may be deep behind a chain of callers and clients, each of whom waits on behalf of the next.  In
the end it is in the journal, with its answer.

`custody` counts the places where a call is.  Two counts are kept.  The *lenient* one counts every
place.  The *strict* one counts a place only if an outcome that is given out there will reach the
call as it is: along the whole chain the numbers of requests fit the numbers that are waited for,
and what has been given out is a decision, not the failure to get one.  Both counts obey the same
laws, as long as nothing is lost because somebody has stopped; then only the lenient one does.

How a call gets from one place to another is said here for every operation by itself.
-/

namespace DataPath

/-- Whether an answer is no failure to get an outcome. -/
def Answer.isDecision : Answer → Bool
  | .outcome o => o.isDecision
  | _ => true

/-- The number that a caller must wait for, to believe a reply, if the reply has a decision. -/
def Reply.stamp (r : Reply) : Option Nat := if r.body.isDecision then some r.id else none

/-- A caller is given a decision exactly when it waits for the number that stands in the reply. -/
theorem isDecision_outcomeFrom (id : Nat) (r : Option Reply) :
    (outcomeFrom id r).isDecision = true ↔ r.bind Reply.stamp = some id := by
  cases r with
  | none => simp [outcomeFrom, Outcome.isDecision]
  | some r =>
    obtain ⟨k, body⟩ := r
    cases body with
    | outcome o =>
      have hstamp : Reply.stamp ⟨k, .outcome o⟩ = if o.isDecision then some k else none := rfl
      rw [Option.bind_some, hstamp]
      by_cases hk : k = id
      · cases ho : o.isDecision <;> simp [outcomeFrom, hk, ho]
      · have hmismatch : outcomeFrom id (some ⟨k, .outcome o⟩) = .failed .mismatchedReply :=
          if_neg hk
        rw [hmismatch]
        cases ho : o.isDecision <;> simp [hk, Outcome.isDecision]
    | flag v => simp [outcomeFrom, Reply.stamp, ReplyBody.isDecision, Outcome.isDecision]
    | snapshot v => simp [outcomeFrom, Reply.stamp, ReplyBody.isDecision, Outcome.isDecision]

namespace Service

variable {strict : Bool} {n : Nat} {s s' : Service} {t : Tenant} {p q : Post}

/-! ## Where a call is -/

mutual

/-- Whether the call with a number is behind a caller who is given a decision on the request with
some number, or something else. -/
def Caller.stake (strict : Bool) (n : Nat) : Caller → Option Nat → Nat
  | .nobody, _ => 0
  | .call number id expect, k =>
    if number = n ∧ (strict = true → expect = .outcome → k = some id) then 1 else 0
  | .subscription number _, _ => if number = n then 1 else 0
  | .relay _ id _ client, k => client.stake strict n (k = some id)

/-- Whether the call with a number is behind a client who is given a decision, or none. -/
def Client.stake (strict : Bool) (n : Nat) : Client → Bool → Nat
  | .nobody, _ => 0
  | .call number, good => if number = n ∧ (strict = true → good = true) then 1 else 0
  | .ask _ id caller, good => caller.stake strict n (if good then some id else none)

end

mutual

/-- The lenient count does not look at what a caller is given. -/
theorem Caller.stake_lenient (n : Nat) (k k' : Option Nat) :
    ∀ caller : Caller, caller.stake false n k = caller.stake false n k'
  | .nobody => by rw [Caller.stake, Caller.stake]
  | .call .. => by rw [Caller.stake, Caller.stake]; simp
  | .subscription .. => by rw [Caller.stake, Caller.stake]
  | .relay _ _ _ client => by
    rw [Caller.stake, Caller.stake]
    exact Client.stake_lenient n _ _ client

theorem Client.stake_lenient (n : Nat) (good good' : Bool) :
    ∀ client : Client, client.stake false n good = client.stake false n good'
  | .nobody => by rw [Client.stake, Client.stake]
  | .call _ => by rw [Client.stake, Client.stake]; simp
  | .ask _ _ caller => by
    rw [Client.stake, Client.stake]
    exact Caller.stake_lenient n _ _ caller

end

mutual

/-- The strict count counts nothing that the lenient one does not. -/
theorem Caller.stake_strict_le (n : Nat) :
    ∀ (caller : Caller) (k : Option Nat), caller.stake true n k ≤ caller.stake false n k
  | .nobody, _ => by rw [Caller.stake, Caller.stake]
  | .call .., _ => by
    rw [Caller.stake, Caller.stake]
    split <;> simp_all
  | .subscription .., _ => by rw [Caller.stake, Caller.stake]
  | .relay _ _ _ client, _ => by
    rw [Caller.stake, Caller.stake]
    exact Client.stake_strict_le n client _

theorem Client.stake_strict_le (n : Nat) :
    ∀ (client : Client) (good : Bool), client.stake true n good ≤ client.stake false n good
  | .nobody, _ => by rw [Client.stake, Client.stake]
  | .call _, _ => by
    rw [Client.stake, Client.stake]
    split <;> simp_all
  | .ask _ _ caller, _ => by
    rw [Client.stake, Client.stake]
    exact Caller.stake_strict_le n caller _

end

/-- A client of the arbiter who is not answered with an outcome. -/
def Client.plainStake (n : Nat) : Client → Nat
  | .call number => if number = n then 1 else 0
  | .nobody | .ask .. => 0

/-- Whether a call is behind somebody who is owed an answer by a switch. -/
def owedStake (strict : Bool) (n : Nat) (o : Switch.Owed Caller) : Nat :=
  o.handle.stake strict n (if o.decision then some o.id else none)

/-- How often a call is behind those who are owed answers by a switch. -/
def owedStakes (strict : Bool) (n : Nat) (os : List (Switch.Owed Caller)) : Nat :=
  (os.map (owedStake strict n)).sum

/-- Whether a call is behind a message. -/
def messageStake (strict : Bool) (n : Nat) : Message Caller Sink → Nat
  | .request id request handle => owedStakes strict n (Switch.owed handle id request.wantsDecision)
  | .subscribe _ _ (.subscription number _) => if number = n then 1 else 0
  | .subscribe .. | .unsubscribe .. | .shutdown => 0

/-- How often a call is behind messages. -/
def mailStake (strict : Bool) (n : Nat) (ms : List (Message Caller Sink)) : Nat :=
  (ms.map (messageStake strict n)).sum

/-- How often a call is in the custody of a switch.  A switch that has stopped has let go of
everybody it kept waiting. -/
def Post.stake (strict : Bool) (n : Nat) (p : Post) : Nat :=
  (if p.channel.isOpen then
    mailStake strict n p.channel.mailbox + owedStakes strict n p.station.switch.held else 0) +
    owedStakes strict n (Switch.given p.station.switch.outbox)

/-- Whether a call is behind a command. -/
def commandStake (strict : Bool) (n : Nat) : Arbiter.Command Client → Nat
  | .activate _ _ client | .deactivate _ _ client => client.stake strict n true
  | .status client | .setDefaultTenant _ client => client.plainStake n
  | .shutdown => 0

/-- Whether a call is behind an errand. -/
def Errand.stake (strict : Bool) (n : Nat) : Errand → Nat
  | .ask _ id _ caller => caller.stake strict n (some id)
  | .answer _ id caller outcome =>
    caller.stake strict n (if outcome.isDecision then some id else none)
  | .settle _ _ _ client outcome => client.stake strict n outcome.isDecision

/-- Whether a call has ended. -/
def endedStake (strict : Bool) (n : Nat) (ended : Nat × Answer) : Nat :=
  if ended.1 = n ∧ (strict = true → ended.2.isDecision = true) then 1 else 0

/-- How often a call is somewhere. -/
def custody (strict : Bool) (n : Nat) (s : Service) : Nat :=
  (s.posts.map (Post.stake strict n)).sum + (s.commands.map (commandStake strict n)).sum +
    (s.errands.map (Errand.stake strict n)).sum +
    (s.journal.finished.map (endedStake strict n)).sum

/-! ## Small steps -/

@[simp] theorem custody_wake (party : Party) :
    custody strict n (s.wake party) = custody strict n s := by
  unfold wake
  split <;> rfl

@[simp] theorem custody_publish (e : Event) :
    custody strict n (s.publish e) = custody strict n s := rfl

@[simp] theorem custody_finish (number : Nat) (a : Answer) :
    custody strict n (s.finish number a) = custody strict n s + endedStake strict n (number, a) := by
  unfold custody finish
  simp only [List.map_append, List.sum_append, List.map_cons, List.map_nil, List.sum_cons,
    List.sum_nil]
  omega

@[simp] theorem custody_dispatch (e : Errand) :
    custody strict n (s.dispatch e) = custody strict n s + e.stake strict n := by
  unfold dispatch
  rw [custody_wake]
  unfold custody
  simp only [List.map_append, List.sum_append, List.map_cons, List.map_nil, List.sum_cons,
    List.sum_nil]
  omega

/-- The answer that a caller reads off a reply ends its call. -/
theorem endedStake_read (number id : Nat) (expect : Expect) (r : Option Reply) :
    endedStake strict n (number, expect.read id r) =
      (Caller.call number id expect).stake strict n (r.bind Reply.stamp) := by
  rw [endedStake, Caller.stake]
  have hiff : (expect.read id r).isDecision = true ↔
      (expect = .outcome → r.bind Reply.stamp = some id) := by
    cases expect with
    | outcome =>
      rw [← isDecision_outcomeFrom]
      simp [Expect.read, Answer.isDecision]
    | flag => simp [Expect.read, Answer.isDecision]
    | snapshot => simp [Expect.read, Answer.isDecision]
  simp only [hiff]

/-- A reply takes a call on, to whoever is next, or into the journal. -/
theorem custody_reply (caller : Caller) (r : Option Reply) :
    custody strict n (s.reply caller r) =
      custody strict n s + caller.stake strict n (r.bind Reply.stamp) := by
  cases caller with
  | nobody =>
    rw [Caller.stake]
    rfl
  | call number id expect =>
    rw [reply, custody_finish, endedStake_read]
  | subscription number t =>
    rw [reply, custody_finish, Caller.stake]
    simp [endedStake, Answer.isDecision]
  | relay t id tracked client =>
    rw [reply, custody_dispatch, Caller.stake, Errand.stake]
    congr 2
    rw [Bool.eq_iff_iff, isDecision_outcomeFrom]
    exact decide_eq_true_iff.symm

/-- So does an outcome for a client. -/
theorem custody_answer_outcome (client : Client) (o : Outcome) :
    custody strict n (s.answer client (.outcome o)) =
      custody strict n s + client.stake strict n o.isDecision := by
  cases client with
  | nobody =>
    rw [Client.stake]
    rfl
  | call number =>
    rw [Service.answer, custody_finish, Client.stake]
    rfl
  | ask t id caller =>
    rw [Service.answer, custody_dispatch, Client.stake]
    rfl

/-- Any other answer ends a call, or leads to nothing. -/
theorem custody_answer_plain (client : Client) {a : Answer} (h : ∀ o, a ≠ .outcome o) :
    custody strict n (s.answer client a) = custody strict n s + client.plainStake n := by
  have hdecision : a.isDecision = true := by
    cases a with
    | outcome o => exact absurd rfl (h o)
    | _ => rfl
  cases client with
  | nobody => rfl
  | call number =>
    rw [Service.answer, custody_finish, Client.plainStake, endedStake]
    simp [hdecision]
  | ask t id caller =>
    cases a with
    | outcome o => exact absurd rfl (h o)
    | _ => rfl

theorem custody_refuse (c : Arbiter.Command Client) :
    custody false n (s.refuse c) = custody false n s + commandStake false n c := by
  cases c with
  | activate t d client | deactivate t d client =>
    rw [commandStake, Client.stake_lenient n true false]
    exact custody_answer_outcome client (.failed .noReply)
  | status client => exact custody_answer_plain client nofun
  | setDefaultTenant t client => exact custody_answer_plain client nofun
  | shutdown => rfl

/-- A command reaches the arbiter, or is refused. -/
theorem custody_command (hrun : strict = true → s.arbiterRuns = true)
    (c : Arbiter.Command Client) :
    custody strict n (s.command c) = custody strict n s + commandStake strict n c := by
  unfold command
  split
  · rw [custody_wake]
    unfold custody
    simp only [List.map_append, List.sum_append, List.map_cons, List.map_nil, List.sum_cons,
      List.sum_nil]
    omega
  · next hstopped =>
    have hlenient : strict = false := by
      by_contra hs
      exact hstopped (hrun (by simpa using hs))
    subst hlenient
    exact custody_refuse c

/-- An outcome that the arbiter was to pass on reaches the client. -/
theorem custody_settle (t : Tenant) (tracked : Option Arbiter.Tracked) (client : Client)
    (o : Outcome) :
    custody strict n (s.settle t tracked client o) =
      custody strict n s + client.stake strict n o.isDecision := by
  unfold Service.settle
  simp only
  rw [custody_answer_outcome]
  congr 1
  split
  · split
    · rw [custody_wake]
      rfl
    · rfl
  · rfl

/-! ## Posts -/

variable (strict n) in
/-- A post becomes another one. -/
theorem custody_put (hp : s.post? t = some p) (q : Post) :
    custody strict n (s.put t q) + p.stake strict n = custody strict n s + q.stake strict n := by
  have h := sum_map_set (Post.stake strict n) s.posts hp q
  unfold custody put
  simp only
  omega

variable (strict n) in
theorem custody_amend (hp : s.post? t = some p) (f : Post → Post) :
    custody strict n (s.amend t f) + p.stake strict n =
      custody strict n s + (f p).stake strict n := by
  rw [amend_eq hp]
  exact custody_put strict n hp (f p)

/-- Changes that nobody at a post cares about. -/
theorem custody_amend_same (t : Tenant) {f : Post → Post}
    (hf : ∀ p, (f p).stake strict n = p.stake strict n) :
    custody strict n (s.amend t f) = custody strict n s := by
  cases hp : s.post? t with
  | none => rw [amend_of_none hp]
  | some p =>
    have h := custody_amend strict n hp f
    rw [hf p] at h
    omega

theorem mailStake_append (ms ms' : List (Message Caller Sink)) :
    mailStake strict n (ms ++ ms') = mailStake strict n ms + mailStake strict n ms' := by
  simp [mailStake]

theorem owedStakes_append (os os' : List (Switch.Owed Caller)) :
    owedStakes strict n (os ++ os') = owedStakes strict n os + owedStakes strict n os' := by
  simp [owedStakes]

variable (strict n) in
/-- It does not matter in which order switches owe answers. -/
theorem owedStakes_perm {os os' : List (Switch.Owed Caller)} (h : os.Perm os') :
    owedStakes strict n os = owedStakes strict n os' := (h.map _).sum_eq

variable (strict n) in
/-- A message is put into a mailbox that is open. -/
theorem stake_mailed (hopen : p.channel.isOpen = true) (nextId : Nat) (m : Message Caller Sink) :
    Post.stake strict n { p with channel := { p.channel with
        nextId := nextId, mailbox := p.channel.mailbox ++ [m] } } =
      p.stake strict n + messageStake strict n m := by
  have hone : mailStake strict n [m] = messageStake strict n m := by simp [mailStake]
  unfold Post.stake
  simp only [hopen, if_true, mailStake_append, hone]
  omega

variable (strict n) in
/-- The number of the next request does not matter. -/
theorem stake_used (p : Post) (nextId : Nat) :
    Post.stake strict n { p with channel := { p.channel with nextId := nextId } } =
      p.stake strict n := rfl

/-- Signals do not matter. -/
theorem stake_addSignal (p : Post) (signal : Signal) :
    (p.addSignal signal).stake strict n = p.stake strict n := by
  unfold Post.addSignal
  split <;> rfl

@[simp] theorem custody_signal (sent : List (Modem.Sent Unit)) :
    custody strict n (s.signal sent) = custody strict n s := by
  induction sent generalizing s with
  | nil => rfl
  | cons x sent ih =>
    have hstep : s.signal (x :: sent) =
      (((s.amend x.tenant fun post => post.addSignal x.signal).wake
        (.station x.tenant)).signal sent) := rfl
    rw [hstep, ih, custody_wake, custody_amend_same x.tenant fun p => stake_addSignal p x.signal]

variable (strict n) in
/-- A request is put into a mailbox, if that is there, and whoever waits for it with it. -/
theorem custody_call (hp : s.post? t = some p) (request : Request) (handle : Nat → Caller) :
    custody strict n (s.amend t fun post => { post with
        channel := (p.channel.call request handle).1 }) =
      custody strict n s + if p.channel.isOpen then
        (handle p.channel.nextId).stake strict n
          (if request.wantsDecision then some p.channel.nextId else none) else 0 := by
  have hamend : custody strict n (s.amend t fun post => { post with
        channel := (p.channel.call request handle).1 }) + p.stake strict n =
      custody strict n s + Post.stake strict n { p with
        channel := (p.channel.call request handle).1 } := custody_amend strict n hp _
  have hcall : Post.stake strict n { p with channel := (p.channel.call request handle).1 } =
      p.stake strict n + if p.channel.isOpen then
        (handle p.channel.nextId).stake strict n
          (if request.wantsDecision then some p.channel.nextId else none) else 0 := by
    by_cases hopen : p.channel.isOpen = true
    · rw [call_eq hopen, if_pos hopen]
      refine (stake_mailed strict n hopen (p.channel.nextId + 1) _).trans ?_
      simp [messageStake, Switch.owed, owedStakes, owedStake]
    · have hclosed : p.channel.call request handle =
          ({ p.channel with nextId := p.channel.nextId + 1 }, false) := if_neg hopen
      rw [hclosed, if_neg hopen]
      exact stake_used strict n p (p.channel.nextId + 1)
  omega

/-- The arbiter passes a request on to a switch.  A switch that has stopped loses it. -/
theorem custody_send (t : Tenant) {request : Request} (hrequest : request.wantsDecision = true)
    (tracked : Option Arbiter.Tracked) (client : Client)
    (hrun : strict = true → ∀ p, s.post? t = some p → p.channel.isOpen = true) :
    custody strict n (s.send t request tracked client) =
      custody strict n s + client.stake strict n true := by
  cases hp : s.post? t with
  | none =>
    unfold send
    rw [hp]
    exact custody_settle t tracked client (.failed (.unknownTenant t))
  | some p =>
    have hcall := custody_call strict n hp request fun id => .relay t id tracked client
    rw [send_eq hp]
    by_cases hopen : p.channel.isOpen = true
    · simp only [hopen, if_true, hrequest] at hcall ⊢
      rw [custody_wake, custody_wake, hcall, Caller.stake]
      simp
    · have hlenient : strict = false := by
        by_contra hs
        exact hopen (hrun (by simpa using hs) p hp)
      subst hlenient
      simp only [hopen, Bool.false_eq_true, if_false, Nat.add_zero] at hcall ⊢
      rw [custody_settle, hcall, Client.stake_lenient n _ true]

/-! ## What a switch does -/

/-- Whether a call is behind an action of a switch. -/
def actionStake (strict : Bool) (n : Nat) : Station.Action Caller Sink → Nat
  | .reply caller r => caller.stake strict n r.stamp
  | .askOwnership id _ caller => owedStakes strict n (Switch.owed caller id true)
  | .subscribed (.subscription number _) _ => if number = n then 1 else 0
  | .subscribed .. | .submit .. | .deliver .. | .publish _ | .unsubscribed .. => 0

/-- An action of a switch takes a call on. -/
theorem custody_enact (t : Tenant) (action : Station.Action Caller Sink) :
    custody strict n (enact t s action) = custody strict n s + actionStake strict n action := by
  cases action with
  | submit token command =>
    unfold enact
    rw [custody_wake]
    rfl
  | deliver sink notice =>
    cases sink with
    | arbiter =>
      unfold enact
      rw [custody_wake]
      rfl
    | observer k => rfl
  | publish event => rfl
  | reply caller r => exact custody_reply caller (some r)
  | askOwnership id c caller =>
    unfold enact
    rw [custody_dispatch, Errand.stake, actionStake]
    cases caller with
    | none => simp [Switch.owed, owedStakes, Caller.stake]
    | some caller => simp [Switch.owed, owedStakes, owedStake]
  | subscribed caller id =>
    cases caller with
    | subscription number t =>
      unfold enact
      rw [custody_finish]
      simp [actionStake, endedStake, Answer.isDecision]
    | nobody | call | relay => rfl
  | unsubscribed caller known => rfl

theorem custody_foldl_enact (t : Tenant) (actions : List (Station.Action Caller Sink)) :
    custody strict n (actions.foldl (enact t) s) =
      custody strict n s + (actions.map (actionStake strict n)).sum := by
  induction actions generalizing s with
  | nil => rfl
  | cons action actions ih =>
    rw [List.foldl_cons, ih, custody_enact, List.map_cons, List.sum_cons, Nat.add_assoc]

variable (strict n) in
/-- The actions of a station take on those whom its switch answers. -/
theorem stake_perform (world : Station.Surroundings Sink) (st : Station Caller Sink)
    (e : Switch.Effect Caller) :
    ((st.perform world e).2.map (actionStake strict n)).sum = owedStakes strict n e.owed := by
  cases e with
  | submit token command =>
    have hperform : (st.perform world (.submit token command)).2 =
        if world.accepts token then [.submit token command] else [] := rfl
    rw [hperform]
    split <;> rfl
  | notice notice =>
    have hzero : ∀ x ∈ (st.perform world (.notice notice)).2.map (actionStake strict n), x = 0 := by
      intro x hx
      obtain ⟨action, haction, rfl⟩ := List.mem_map.1 hx
      obtain ⟨sub, -, rfl⟩ := List.mem_map.1 haction
      rfl
    exact List.sum_eq_zero hzero
  | event event => rfl
  | reply caller r =>
    simp [Station.perform, actionStake, Switch.Effect.owed, owedStakes, owedStake, Reply.stamp]
  | askOwnership id c caller =>
    simp [Station.perform, actionStake, Switch.Effect.owed]

variable (strict n) in
theorem stake_performAll (world : Station.Surroundings Sink) (st : Station Caller Sink)
    (es : List (Switch.Effect Caller)) :
    ((st.performAll world es).2.map (actionStake strict n)).sum =
      owedStakes strict n (Switch.given es) := by
  induction es generalizing st with
  | nil => rfl
  | cons e es ih =>
    unfold Station.performAll
    simp only [List.map_append, List.sum_append, Switch.given_cons, owedStakes_append, ih,
      stake_perform]

variable (strict n) in
/-- A station that carries out what its switch wants done loses nobody. -/
theorem stake_settle (world : Station.Surroundings Sink) (st : Station Caller Sink) :
    owedStakes strict n (st.settle world).1.switch.accounts +
        ((st.settle world).2.map (actionStake strict n)).sum =
      owedStakes strict n st.switch.accounts := by
  have hperm := owedStakes_perm strict n (Switch.perm_carryOut world.accepts st.switch)
  unfold Station.settle
  simp only
  rw [Station.switch_performAll, stake_performAll, ← owedStakes_append]
  exact hperm

end Service

end DataPath
