import DataPath.Proofs.Service.Custody

/-!
# Nobody who calls is lost

A move hands the calls that it touches on, and none is lost or doubled: `custody` is the same
before and after it (`keeps_move`).

The lenient count needs little for that, only that mailboxes are tidy.  For the strict count nobody
may have stopped, or be about to, because whoever stops gives out failures in the place of
decisions.  That is tidiness in the strict sense, so the two counts share their laws.
-/

namespace DataPath

namespace Arbiter

variable {a : Arbiter} {t : Tenant} {c : DataClass} {o : Outcome}

/-- A refusal by the arbiter is a decision. -/
theorem isDecision_refusal {reason : Refusal} (h : a.refusal? t c = some reason) :
    (Outcome.failed reason).isDecision = true := by
  unfold refusal? at h
  split at h
  · cases h
    rfl
  · split at h
    · cases h
      rfl
    · split at h
      · cases h
      · obtain ⟨holder, -, rfl⟩ := Option.map_eq_some_iff.1 h
        rfl

/-- An activation that is answered at once is decided. -/
theorem isDecision_activate (h : (a.activate t c).2 = .reply o) : o.isDecision = true := by
  unfold activate at h
  split at h
  · next reason hreason =>
    cases h
    exact isDecision_refusal hreason
  · split at h
    · cases h
    · split at h
      · unfold activateOwner at h
        split at h <;> cases h
        rfl
      · cases h
        rfl

/-- So is a deactivation. -/
theorem isDecision_deactivate (h : (a.deactivate t c).2 = .reply o) : o.isDecision = true := by
  unfold deactivate at h
  split at h
  · cases h
    rfl
  · cases h

end Arbiter

namespace Service

variable {strict : Bool} {n : Nat} {s s' : Service} {t : Tenant} {p q : Post}

/-! ## The switches -/

variable (strict n) in
/-- A switch goes on with another station. -/
theorem custody_proceed (hp : s.post? t = some p)
    (result : Station Caller Sink × List (Station.Action Caller Sink)) :
    custody strict n (s.proceed t result) + p.stake strict n =
      custody strict n s + Post.stake strict n { p with station := result.1 } +
        (result.2.map (actionStake strict n)).sum := by
  unfold proceed
  rw [custody_foldl_enact]
  have hamend : custody strict n (s.amend t fun post => { post with station := result.1 }) +
      p.stake strict n = custody strict n s +
        Post.stake strict n { p with station := result.1 } := custody_amend strict n hp _
  omega

variable (strict n) in
/-- A switch that has not stopped has a mailbox and accounts. -/
theorem stake_of_isOpen (hopen : p.channel.isOpen = true) :
    p.stake strict n = mailStake strict n p.channel.mailbox +
      owedStakes strict n p.station.switch.accounts := by
  unfold Post.stake Switch.accounts
  rw [if_pos hopen, owedStakes_append]
  omega

variable (strict n) in
/-- A switch that has become another one, with more to answer for, carries out what it wants
done. -/
theorem custody_proceed_settle (hp : s.post? t = some p) (hopen : p.channel.isOpen = true)
    (world : Station.Surroundings Sink) (st : Station Caller Sink) {due : List (Switch.Owed Caller)}
    (hgrows : Switch.Grows p.station.switch st.switch due) :
    custody strict n (s.proceed t (st.settle world)) =
      custody strict n s + owedStakes strict n due := by
  have hproceed := custody_proceed strict n hp (st.settle world)
  have hsettle := stake_settle strict n world st
  have haccounts := owedStakes_perm strict n hgrows.perm_accounts
  rw [owedStakes_append] at haccounts
  have hstake := stake_of_isOpen strict n hopen
  have hstake' : Post.stake strict n { p with station := (st.settle world).1 } =
      mailStake strict n p.channel.mailbox +
        owedStakes strict n (st.settle world).1.switch.accounts := stake_of_isOpen strict n hopen
  omega

/-- What a switch that stops leaves behind in its mailbox. -/
theorem sum_lost_mail {ms : List (Message Caller Sink)} (h : ∀ m ∈ ms, IsTidy false m) :
    ((ms.filterMap Message.handle?).map fun caller => caller.stake false n none).sum =
      mailStake false n ms := by
  induction ms with
  | nil => rfl
  | cons m ms ih =>
    have hrest := ih fun k hk => h k (List.mem_cons_of_mem _ hk)
    have hsplit : mailStake false n (m :: ms) = messageStake false n m + mailStake false n ms := by
      simp [mailStake]
    have hm := h m List.mem_cons_self
    rw [hsplit, ← hrest]
    cases m with
    | request id request handle =>
      cases handle with
      | none =>
        simp [List.filterMap_cons, Message.handle?, messageStake, Switch.owed, owedStakes]
      | some caller =>
        simp only [Message.handle?, messageStake, Switch.owed, owedStakes, owedStake,
          List.filterMap_cons, Option.map_some, Option.toList_some, List.map_cons, List.map_nil,
          List.sum_cons, List.sum_nil, Nat.add_zero]
        rw [Caller.stake_lenient n none]
    | subscribe filter sink caller =>
      rcases hm with rfl | ⟨number, t, rfl⟩ <;>
        simp [Message.handle?, messageStake, Caller.stake]
    | unsubscribe => exact hm.elim
    | shutdown => simp [List.filterMap_cons, Message.handle?, messageStake]

/-- And what it leaves behind of those it kept waiting. -/
theorem sum_lost_parked (ps : List (Switch.Parked Caller)) :
    ((ps.filterMap Switch.Parked.handle).map fun caller => caller.stake false n none).sum =
      owedStakes false n (ps.flatMap Switch.Parked.owed) := by
  induction ps with
  | nil => rfl
  | cons parked ps ih =>
    rw [List.flatMap_cons, owedStakes_append, ← ih]
    obtain ⟨id, c, handle⟩ := parked
    cases handle with
    | none => simp [Switch.Parked.owed, Switch.owed, owedStakes]
    | some caller =>
      simp only [Switch.Parked.owed, Switch.owed, owedStakes, owedStake, List.filterMap_cons,
        Option.map_some, Option.toList_some, List.map_cons, List.map_nil, List.sum_cons,
        List.sum_nil, Nat.add_zero]
      rw [Caller.stake_lenient n none]

theorem custody_foldl_reply (s : Service) (callers : List Caller) :
    custody strict n (callers.foldl (fun s caller => s.reply caller none) s) =
      custody strict n s + (callers.map fun caller => caller.stake strict n none).sum := by
  induction callers generalizing s with
  | nil => rfl
  | cons caller callers ih =>
    rw [List.foldl_cons, ih, custody_reply, List.map_cons, List.sum_cons, Nat.add_assoc]
    rfl

/-- A switch that stops tells everybody who waits for it. -/
theorem custody_stopSwitch (h : p.Tidy false) (hopen : p.channel.isOpen = true)
    (hp : s.post? t = some p) : custody false n (s.stopSwitch t p) = custody false n s := by
  have hamend := custody_amend false n hp Post.stopped
  have hstopped : p.stopped.stake false n =
      owedStakes false n (Switch.given p.station.switch.outbox) := by
    simp [Post.stake, Post.stopped, Channel.close]
  have hmail := sum_lost_mail (n := n) h.mail
  have hparked : ((p.station.waiting).map fun caller => caller.stake false n none).sum =
      owedStakes false n p.station.switch.held := sum_lost_parked p.station.switch.parked
  have hstake := stake_of_isOpen false n hopen
  unfold Switch.accounts at hstake
  rw [owedStakes_append] at hstake
  rw [stopSwitch_eq, custody_wake, custody_foldl_reply, List.map_append, List.sum_append]
  omega

/-- A switch takes a message, and takes charge of whoever is behind it. -/
theorem custody_receive (hp : s.post? t = some p) (htidy : p.Tidy strict)
    (hopen : p.channel.isOpen = true) {m : Message Caller Sink} (hm : IsTidy strict m) :
    custody strict n (s.receive t p m) = custody strict n s + messageStake strict n m := by
  cases m with
  | request id request handle =>
    have hreceive : s.receive t p (.request id request handle) = s.proceed t
        ({ p.station with switch := p.station.switch.handle id request handle }.settle
          s.surroundings) := rfl
    have hgrows := Switch.grows_handle p.station.switch id request handle
    rw [hreceive, messageStake]
    exact custody_proceed_settle strict n hp hopen s.surroundings
      { p.station with switch := p.station.switch.handle id request handle } hgrows
  | subscribe filter sink caller =>
    have hproceed := custody_proceed strict n hp
      (p.station.subscribe s.surroundings filter sink caller)
    have hgreeting : (((p.station.subscribe s.surroundings filter sink caller).2).map
        (actionStake strict n)).sum = messageStake strict n (.subscribe filter sink caller) := by
      have hsum : ∀ acts : List (Station.Action Caller Sink),
          (acts = [] ∨ ∃ notice, acts = [.deliver sink notice]) → ∀ k,
          ((acts ++ [Station.Action.subscribed caller k]).map (actionStake strict n)).sum =
            messageStake strict n (.subscribe filter sink caller) := by
        rintro acts (rfl | ⟨notice, rfl⟩) k <;> cases caller <;> simp [actionStake, messageStake]
      refine hsum _ ?_ _
      split
      · exact .inr ⟨_, rfl⟩
      · exact .inl rfl
    have hstake : Post.stake strict n { p with
        station := (p.station.subscribe s.surroundings filter sink caller).1 } =
      p.stake strict n := rfl
    have hreceive : s.receive t p (.subscribe filter sink caller) =
      s.proceed t (p.station.subscribe s.surroundings filter sink caller) := rfl
    rw [hreceive]
    omega
  | unsubscribe => exact hm.elim
  | shutdown =>
    have hlenient : strict = false := hm
    subst hlenient
    exact custody_stopSwitch htidy hopen hp

/-! ## The arbiter -/

/-- Whether a call is behind a client who is given an answer. -/
def Client.answerStake (strict : Bool) (n : Nat) (client : Client) : Answer → Nat
  | .outcome o => client.stake strict n o.isDecision
  | _ => client.plainStake n

theorem custody_answer (client : Client) (a : Answer) :
    custody strict n (s.answer client a) =
      custody strict n s + client.answerStake strict n a := by
  cases a with
  | outcome o => exact custody_answer_outcome client o
  | _ => exact custody_answer_plain client nofun

/-- Whether a call is behind an action of the arbiter. -/
def decreeStake (strict : Bool) (n : Nat) : Arbiter.Action Client → Nat
  | .send _ _ _ client => (client.getD .nobody).stake strict n true
  | .publish _ => 0
  | .answer client a => client.answerStake strict n a

/-- A request that the arbiter sends asks for a decision. -/
def AsksDecision : Arbiter.Action Client → Prop
  | .send _ request _ _ => request.wantsDecision = true
  | .publish _ | .answer .. => True

theorem custody_decree (h : s.Tidy strict) {act : Arbiter.Action Client} (hact : AsksDecision act) :
    custody strict n (decree s act) = custody strict n s + decreeStake strict n act := by
  cases act with
  | send t request tracked client =>
    exact custody_send t hact tracked _ fun hs p hp => (h.post hp).running hs
  | publish event => rfl
  | answer client a => exact custody_answer client a

theorem custody_foldl_decree (h : s.Tidy strict) {acts : List (Arbiter.Action Client)}
    (hacts : ∀ act ∈ acts, AsksDecision act) :
    custody strict n (acts.foldl decree s) =
      custody strict n s + (acts.map (decreeStake strict n)).sum := by
  induction acts generalizing s with
  | nil => rfl
  | cons act acts ih =>
    rw [List.foldl_cons, ih (h.decree act) fun a ha => hacts a (List.mem_cons_of_mem _ ha),
      custody_decree h (hacts act List.mem_cons_self), List.map_cons, List.sum_cons, Nat.add_assoc]

/-- The arbiter goes on with what it wants done, after some other actions.  For what it wants
itself nobody waits. -/
theorem custody_conclude (h : s.Tidy strict) (a : Arbiter) (acts : List (Arbiter.Action Client))
    (hacts : ∀ act ∈ acts, AsksDecision act) :
    custody strict n (s.resume (a.conclude acts)) =
      custody strict n s + (acts.map (decreeStake strict n)).sum := by
  have hsame : ({ s with arbiter := (a.conclude acts).1 } : Service).Tidy strict :=
    h.of_eq rfl rfl fun _ hc => .inl hc
  have hperformed : ∀ es : List Arbiter.Effect,
      (∀ act ∈ es.map (Arbiter.perform (κ := Client)), AsksDecision act) ∧
        ((es.map Arbiter.perform).map (decreeStake strict n)).sum = 0 := by
    intro es
    induction es with
    | nil => exact ⟨nofun, rfl⟩
    | cons e es ih =>
      refine ⟨fun act hact => ?_, ?_⟩
      · rcases List.mem_cons.1 hact with rfl | hact
        · cases e <;> trivial
        · exact ih.1 act hact
      · rw [List.map_cons, List.map_cons, List.sum_cons, ih.2]
        cases e <;> rfl
  have hsplit : (a.conclude acts).2 = acts ++ a.outbox.map Arbiter.perform := rfl
  have hasks : ∀ act ∈ (a.conclude acts).2, AsksDecision act := by
    intro act hact
    rw [hsplit] at hact
    exact (List.mem_append.1 hact).elim (hacts act) ((hperformed a.outbox).1 act)
  have hfold := custody_foldl_decree (n := n) hsame hasks
  rw [hsplit, List.map_append, List.sum_append, (hperformed a.outbox).2, Nat.add_zero] at hfold
  exact hfold

/-- A verdict is for whoever asked. -/
theorem decreeStake_execute (t : Tenant) (request : Option Grant → Request) (client : Client)
    {verdict : Arbiter.Verdict} (h : ∀ o, verdict = .reply o → o.isDecision = true) :
    decreeStake strict n (Arbiter.execute t request client verdict) =
      client.stake strict n true := by
  cases verdict with
  | reply o =>
    have hanswer : decreeStake strict n (Arbiter.execute t request client (.reply o)) =
        client.stake strict n o.isDecision := rfl
    rw [hanswer, h o rfl]
  | forward g => rfl

theorem asksDecision_execute (t : Tenant) {request : Option Grant → Request}
    (h : ∀ g, (request g).wantsDecision = true) (client : Client) (verdict : Arbiter.Verdict) :
    AsksDecision (Arbiter.execute t request client verdict) := by
  cases verdict with
  | reply o => trivial
  | forward g => exact h g

/-- The arbiter decides a request, or passes it on to be decided. -/
theorem custody_execute (h : s.Tidy strict) (a : Arbiter) (t : Tenant)
    {request : Option Grant → Request} (hrequest : ∀ g, (request g).wantsDecision = true)
    (client : Client) {verdict : Arbiter.Verdict}
    (hverdict : ∀ o, verdict = .reply o → o.isDecision = true) :
    custody strict n (s.resume (a.conclude [Arbiter.execute t request client verdict])) =
      custody strict n s + client.stake strict n true := by
  rw [custody_conclude h, List.map_singleton, List.sum_singleton,
    decreeStake_execute t request client hverdict]
  intro act hact
  rw [List.mem_singleton.1 hact]
  exact asksDecision_execute t hrequest client verdict

theorem custody_foldl_refuse (s : Service) (cs : List (Arbiter.Command Client)) :
    custody false n (cs.foldl refuse s) =
      custody false n s + (cs.map (commandStake false n)).sum := by
  induction cs generalizing s with
  | nil => rfl
  | cons c cs ih =>
    rw [List.foldl_cons, ih, custody_refuse, List.map_cons, List.sum_cons, Nat.add_assoc]

/-- An arbiter that stops tells everybody who waits for it. -/
theorem custody_stopArbiter (s : Service) : custody false n s.stopArbiter = custody false n s := by
  rw [stopArbiter_eq, custody_foldl_refuse]
  unfold custody
  simp only [List.map_nil, List.sum_nil]
  omega

/-- The arbiter takes a command, and takes charge of whoever is behind it. -/
theorem custody_serve (h : s.Tidy strict) {c : Arbiter.Command Client}
    (hc : strict = true → c ≠ .shutdown) :
    custody strict n (s.serve c) = custody strict n s + commandStake strict n c := by
  cases c with
  | activate t c client =>
    have hforwarded : ∀ g, (Arbiter.forwarded c g).wantsDecision = true := by
      intro g
      cases g <;> rfl
    exact custody_execute h _ t hforwarded client fun o => Arbiter.isDecision_activate
  | deactivate t c client =>
    have hdisconnect : ∀ g : Option Grant, (Request.disconnect c).wantsDecision = true :=
      fun _ => rfl
    exact custody_execute h _ t hdisconnect client fun o => Arbiter.isDecision_deactivate
  | status client =>
    exact custody_conclude h s.arbiter [.answer client (.status s.arbiter.status)]
      fun act hact => List.mem_singleton.1 hact ▸ trivial
  | setDefaultTenant t client =>
    unfold serve Arbiter.serve
    simp only
    split
    · next a _ =>
      exact custody_conclude h a [.answer client .done]
        fun act hact => List.mem_singleton.1 hact ▸ trivial
    · next reason _ =>
      exact custody_conclude h s.arbiter
        [.answer client (.fault (.invalidConfig reason.message))]
        fun act hact => List.mem_singleton.1 hact ▸ trivial
  | shutdown =>
    have hlenient : strict = false := by
      by_contra hs
      exact hc (by simpa using hs) rfl
    subst hlenient
    exact custody_stopArbiter s

/-! ## Moves -/

/-- Nobody who calls is lost, and mailboxes stay tidy. -/
def Keeps (strict : Bool) (s s' : Service) : Prop :=
  s'.Tidy strict ∧ ∀ n, custody strict n s' = custody strict n s

theorem Keeps.trans {s₁ s₂ s₃ : Service} (h : Keeps strict s₁ s₂) (h' : Keeps strict s₂ s₃) :
    Keeps strict s₁ s₃ := ⟨h'.1, fun n => (h'.2 n).trans (h.2 n)⟩

theorem keeps_hear (h : s.Tidy strict) (hm : s.move? (.hear t) = some s') : Keeps strict s s' := by
  obtain ⟨p, signal, rest, hp, -, hopen, rfl⟩ := exists_hear hm
  have hput : (s.put t { p with signals := rest }).Tidy strict :=
    h.put t ((h.post hp).of_eq rfl rfl)
  refine ⟨hput.proceed t _, fun n => ?_⟩
  have hhear := custody_proceed_settle strict n (post?_put hp { p with signals := rest }) hopen
    s.surroundings { p.station with switch := p.station.switch.hear signal }
    (Switch.grows_hear p.station.switch signal)
  have hcustody := custody_put strict n hp { p with signals := rest }
  have hstake : Post.stake strict n { p with signals := rest } = p.stake strict n := rfl
  have hnobody : owedStakes strict n [] = 0 := rfl
  refine hhear.trans ?_
  omega

theorem keeps_read (h : s.Tidy strict) (hm : s.move? (.read t) = some s') : Keeps strict s s' := by
  obtain ⟨p, message, rest, hp, hmail, rfl⟩ := exists_read hm
  have htidy := h.post hp
  have hopen : p.channel.isOpen = true := by
    by_contra hclosed
    have hempty := htidy.closed (by simpa using hclosed)
    rw [hmail] at hempty
    cases hempty
  have hunread : (p.unread rest).Tidy strict :=
    ⟨fun m hm => htidy.mail m (hmail ▸ List.mem_cons_of_mem _ hm),
      fun hclosed => absurd hopen (by simpa [Post.unread] using hclosed), htidy.running⟩
  have hmessage : IsTidy strict message := htidy.mail message (hmail ▸ List.mem_cons_self)
  have hp' : (s.put t (p.unread rest)).post? t = some (p.unread rest) := post?_put hp _
  refine ⟨(h.put t hunread).receive t _ hmessage, fun n => ?_⟩
  have hreceive := custody_receive (n := n) hp' hunread hopen hmessage
  have hcustody := custody_put strict n hp (p.unread rest)
  have hstake : p.stake strict n =
      (p.unread rest).stake strict n + messageStake strict n message := by
    have hstake' : (p.unread rest).stake strict n = mailStake strict n rest +
        owedStakes strict n p.station.switch.accounts := stake_of_isOpen strict n hopen
    rw [stake_of_isOpen strict n hopen, hmail, hstake']
    simp only [mailStake, List.map_cons, List.sum_cons]
    omega
  refine hreceive.trans ?_
  omega

theorem keeps_signal (h : s.Tidy strict) (sent : List (Modem.Sent Unit)) :
    Keeps strict s (s.signal sent) := ⟨h.signal sent, fun _ => custody_signal sent⟩

theorem keeps_steer (h : s.Tidy strict) (hm : s.move? .steer = some s') : Keeps strict s s' := by
  have hcontrol : ∀ (x : Service), x.Tidy strict → ∀ control, Keeps strict x (x.control control) := by
    intro x hx control
    cases control with
    | radio t radio =>
      have hset : ({ x with pipeline := (x.pipeline.setRadio t radio).1 } : Service).Tidy strict :=
        hx.of_eq rfl rfl fun _ hc => .inl hc
      exact keeps_signal hset _
    | failNextEnable | failNextDisable | hold | shutdown =>
      exact ⟨hx.of_eq rfl rfl fun _ hc => .inl hc, fun _ => rfl⟩
  obtain ⟨control, rest, -, rfl⟩ := exists_steer hm
  have htaken : ({ s with controls := rest } : Service).Tidy strict :=
    h.of_eq rfl rfl fun _ hc => .inl hc
  exact hcontrol _ htaken control

theorem keeps_execute (h : s.Tidy strict) (hm : s.move? .execute = some s') :
    Keeps strict s s' := by
  obtain ⟨pipeline, sent, -, rfl⟩ := exists_execute hm
  have hexecuted : ({ s with pipeline := pipeline } : Service).Tidy strict :=
    h.of_eq rfl rfl fun _ hc => .inl hc
  exact keeps_signal hexecuted sent

/-- Nobody waits for what the arbiter learns. -/
theorem keeps_conclude (h : s.Tidy strict) (a : Arbiter) :
    Keeps strict s (s.resume (a.conclude [])) :=
  ⟨h.conclude a [], fun _ => custody_conclude h a [] nofun⟩

/-- Somebody is there, in the strict sense. -/
theorem Tidy.not_isDeserted (h : s.Tidy true) : s.isDeserted = false := by
  obtain ⟨p, hp⟩ := List.exists_mem_of_ne_nil s.posts (h.nonempty rfl)
  by_contra hdeserted
  have hall : s.isDeserted = true := by simpa using hdeserted
  have hclosed := List.all_eq_true.1 hall p hp
  rw [(h.posts p hp).running rfl] at hclosed
  cases hclosed

theorem keeps_notice (h : s.Tidy strict) (hm : s.move? .notice = some s') : Keeps strict s s' := by
  rcases notice_cases hm with ⟨notice, rest, -, rfl⟩ | ⟨hdeserted, rfl⟩
  · have htaken : ({ s with notices := rest } : Service).Tidy strict :=
      h.of_eq rfl rfl fun _ hc => .inl hc
    exact keeps_conclude htaken (s.arbiter.hear notice)
  · cases strict with
    | true =>
      rw [h.not_isDeserted] at hdeserted
      cases hdeserted
    | false => exact ⟨h.stopArbiter, fun _ => custody_stopArbiter s⟩

theorem keeps_tidings (h : s.Tidy strict) (hm : s.move? .tidings = some s') :
    Keeps strict s s' := by
  obtain ⟨⟨t, tracked, outcome⟩, rest, -, -, rfl⟩ := exists_tidings hm
  have htaken : ({ s with tidings := rest } : Service).Tidy strict :=
    h.of_eq rfl rfl fun _ hc => .inl hc
  cases tracked with
  | grant g => exact keeps_conclude htaken (s.arbiter.grantAnswered g)
  | cleanup => exact keeps_conclude htaken (s.arbiter.cleanupAnswered t outcome)

theorem keeps_command (h : s.Tidy strict) (hm : s.move? .command = some s') :
    Keeps strict s s' := by
  obtain ⟨command, rest, -, -, hcommands, rfl⟩ := exists_command hm
  have htaken : ({ s with commands := rest } : Service).Tidy strict :=
    h.of_eq rfl rfl fun c hc => .inl (hcommands ▸ List.mem_cons_of_mem _ hc)
  have hgo : strict = true → command ≠ .shutdown :=
    fun hs => h.commands hs command (hcommands ▸ List.mem_cons_self)
  refine ⟨htaken.serve hgo, fun n => ?_⟩
  rw [custody_serve htaken hgo]
  unfold custody
  rw [hcommands]
  simp only [List.map_cons, List.sum_cons]
  omega

/-- A courier takes a call on. -/
theorem custody_carry (h : s.Tidy strict) (e : Errand) :
    custody strict n (s.carry e) = custody strict n s + e.stake strict n := by
  cases e with
  | ask t id c caller =>
    have hcommand := custody_command (n := n) h.arbiter (.activate t c (.ask t id caller))
    rw [commandStake, Client.stake, if_pos rfl] at hcommand
    exact hcommand
  | answer t id caller outcome => exact custody_reply caller (some ⟨id, .outcome outcome⟩)
  | settle t id tracked client outcome => exact custody_settle t tracked client outcome

theorem keeps_carry (h : s.Tidy strict) {courier : Courier}
    (hm : s.move? (.carry courier) = some s') : Keeps strict s s' := by
  obtain ⟨before, errand, after, herrands, rfl⟩ := exists_carry hm
  have htaken : ({ s with errands := before ++ after } : Service).Tidy strict :=
    h.of_eq rfl rfl fun _ hc => .inl hc
  refine ⟨htaken.clerical (clerical_carry _ errand), fun n => ?_⟩
  rw [custody_carry htaken errand]
  unfold custody
  rw [herrands]
  simp only [List.map_append, List.sum_append, List.map_cons, List.sum_cons]
  omega

/-- A move takes the calls that it touches on, and no call is lost. -/
theorem keeps_move (h : s.Tidy strict) {move : Move} (hm : s.move? move = some s') :
    Keeps strict s s' := by
  cases move with
  | steer => exact keeps_steer h hm
  | execute => exact keeps_execute h hm
  | hear t => exact keeps_hear h hm
  | read t => exact keeps_read h hm
  | notice => exact keeps_notice h hm
  | tidings => exact keeps_tidings h hm
  | command => exact keeps_command h hm
  | carry courier => exact keeps_carry h hm

end Service

end DataPath
