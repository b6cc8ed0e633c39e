import DataPath.Proofs.Service.Reachable

/-!
# Tidy mailboxes

Much of what goes on in the service is paper work: errands are given out, commands are handed in,
calls end.  It leaves the switches and the modem as they are (`Clerical`).

What stands in a mailbox is `Tidy` at any time: nobody but subscribers waits to be subscribed,
nobody unsubscribes, and the mailbox of a switch that has stopped is empty.  As long as nobody is
told to stop, everybody goes on, too; that is tidiness in the strict sense.

Nothing is assumed here of the runs: everybody may have stopped, or may stop.
-/

namespace DataPath.Service

variable {strict : Bool} {s s' : Service} {t : Tenant} {p q : Post}

/-! ## Papers -/

/-- Papers have changed hands, and that is all: everybody goes on as before, and nobody was told
to stop. -/
structure Clerical (s s' : Service) : Prop where
  posts : s'.posts = s.posts
  pipeline : s'.pipeline = s.pipeline
  modem : s'.modemRuns = s.modemRuns
  controls : s'.controls = s.controls
  arbiter : s'.arbiterRuns = s.arbiterRuns
  commands : ∀ c ∈ s'.commands, c ∈ s.commands ∨ c ≠ .shutdown

theorem Clerical.refl (s : Service) : Clerical s s := ⟨rfl, rfl, rfl, rfl, rfl, fun _ h => .inl h⟩

theorem Clerical.trans {s₁ s₂ s₃ : Service} (h : Clerical s₁ s₂) (h' : Clerical s₂ s₃) :
    Clerical s₁ s₃ where
  posts := h'.posts.trans h.posts
  pipeline := h'.pipeline.trans h.pipeline
  modem := h'.modem.trans h.modem
  controls := h'.controls.trans h.controls
  arbiter := h'.arbiter.trans h.arbiter
  commands c hc := (h'.commands c hc).elim (h.commands c) .inr

theorem clerical_wake (s : Service) (party : Party) : Clerical s (s.wake party) := by
  unfold wake
  split
  · exact .refl s
  · exact ⟨rfl, rfl, rfl, rfl, rfl, fun _ h => .inl h⟩

theorem clerical_finish (s : Service) (number : Nat) (a : Answer) :
    Clerical s (s.finish number a) := ⟨rfl, rfl, rfl, rfl, rfl, fun _ h => .inl h⟩

theorem clerical_dispatch (s : Service) (e : Errand) : Clerical s (s.dispatch e) :=
  have hgiven : Clerical s { s with errands := s.errands ++ [e] } :=
    ⟨rfl, rfl, rfl, rfl, rfl, fun _ h => .inl h⟩
  hgiven.trans (clerical_wake _ _)

theorem clerical_reply (s : Service) (caller : Caller) (r : Option Reply) :
    Clerical s (s.reply caller r) := by
  cases caller with
  | nobody => exact .refl s
  | call => exact clerical_finish s _ _
  | subscription => exact clerical_finish s _ _
  | relay => exact clerical_dispatch s _

theorem clerical_answer (s : Service) (client : Client) (a : Answer) :
    Clerical s (s.answer client a) := by
  cases client with
  | nobody => exact .refl s
  | call => exact clerical_finish s _ _
  | ask =>
    cases a with
    | outcome => exact clerical_dispatch s _
    | _ => exact .refl s

theorem clerical_settle (s : Service) (t : Tenant) (tracked : Option Arbiter.Tracked)
    (client : Client) (o : Outcome) : Clerical s (s.settle t tracked client o) := by
  unfold Service.settle
  refine Clerical.trans ?_ (clerical_answer _ client _)
  split
  · split
    · next x _ =>
      have htold : Clerical s { s with tidings := s.tidings ++ [⟨t, x, o⟩] } :=
        ⟨rfl, rfl, rfl, rfl, rfl, fun _ h => .inl h⟩
      exact htold.trans (clerical_wake _ _)
    · exact .refl s
  · exact .refl s

theorem clerical_command (s : Service) {c : Arbiter.Command Client} (hc : c ≠ .shutdown) :
    Clerical s (s.command c) := by
  unfold command
  split
  · have hgiven : Clerical s { s with commands := s.commands ++ [c] } := by
      refine ⟨rfl, rfl, rfl, rfl, rfl, fun d hd => ?_⟩
      rcases List.mem_append.1 hd with hd | hd
      · exact .inl hd
      · exact .inr (List.mem_singleton.1 hd ▸ hc)
    exact hgiven.trans (clerical_wake _ _)
  · split
    · exact clerical_answer s _ _
    · exact .refl s

/-- A courier does nothing but that. -/
theorem clerical_carry (s : Service) (e : Errand) : Clerical s (s.carry e) := by
  cases e with
  | ask => exact clerical_command s nofun
  | answer => exact clerical_reply s _ _
  | settle => exact clerical_settle s _ _ _ _

theorem clerical_foldl_reply (s : Service) (callers : List Caller) :
    Clerical s (callers.foldl (fun s caller => s.reply caller none) s) := by
  induction callers generalizing s with
  | nil => exact .refl s
  | cons caller callers ih => exact (clerical_reply s caller none).trans (ih _)

/-- A command that nobody will serve is answered all the same. -/
def refuse (s : Service) (c : Arbiter.Command Client) : Service :=
  match c.client? with
  | some client => s.answer client c.refused
  | none => s

theorem clerical_refuse (s : Service) (c : Arbiter.Command Client) : Clerical s (s.refuse c) := by
  unfold refuse
  split
  · exact clerical_answer s _ _
  · exact .refl s

theorem clerical_foldl_refuse (s : Service) (cs : List (Arbiter.Command Client)) :
    Clerical s (cs.foldl refuse s) := by
  induction cs generalizing s with
  | nil => exact .refl s
  | cons c cs ih => exact (clerical_refuse s c).trans (ih _)

/-! ## Tidy mailboxes -/

/-- What may stand in a mailbox.  Where nobody is to stop, nobody is told to. -/
def IsTidy (strict : Bool) : Message Caller Sink → Prop
  | .request .. => True
  | .subscribe _ _ caller => caller = .nobody ∨ ∃ number t, caller = .subscription number t
  | .unsubscribe .. => False
  | .shutdown => strict = false

/-- The mailbox of a switch is tidy, and it is empty when the switch has stopped. -/
structure Post.Tidy (strict : Bool) (p : Post) : Prop where
  mail : ∀ m ∈ p.channel.mailbox, IsTidy strict m
  closed : p.channel.isOpen = false → p.channel.mailbox = []
  running : strict = true → p.channel.isOpen = true

/-- All mailboxes are tidy.  In the strict sense everybody goes on, too. -/
structure Tidy (strict : Bool) (s : Service) : Prop where
  posts : ∀ p ∈ s.posts, p.Tidy strict
  arbiter : strict = true → s.arbiterRuns = true
  commands : strict = true → ∀ c ∈ s.commands, c ≠ .shutdown
  nonempty : strict = true → s.posts ≠ []

theorem Tidy.post (h : s.Tidy strict) (hp : s.post? t = some p) : p.Tidy strict :=
  h.posts p (List.mem_of_getElem? hp)

theorem Tidy.of_eq (h : s.Tidy strict) (hposts : s'.posts = s.posts)
    (harbiter : s'.arbiterRuns = s.arbiterRuns)
    (hcommands : ∀ c ∈ s'.commands, c ∈ s.commands ∨ c ≠ .shutdown) : s'.Tidy strict where
  posts p hp := h.posts p (hposts ▸ hp)
  arbiter hs := harbiter.trans (h.arbiter hs)
  commands hs c hc := (hcommands c hc).elim (h.commands hs c) id
  nonempty hs := hposts ▸ h.nonempty hs

theorem Tidy.clerical (h : s.Tidy strict) (hc : Clerical s s') : s'.Tidy strict :=
  h.of_eq hc.posts hc.arbiter hc.commands

theorem Tidy.put (h : s.Tidy strict) (t : Tenant) (hq : q.Tidy strict) :
    (s.put t q).Tidy strict where
  posts p hp := (List.mem_or_eq_of_mem_set hp).elim (h.posts p) fun heq => heq ▸ hq
  arbiter := h.arbiter
  commands := h.commands
  nonempty hs hnil := h.nonempty hs (by simpa [Service.put] using hnil)

theorem Tidy.amend (h : s.Tidy strict) (t : Tenant) {f : Post → Post}
    (hf : ∀ p, s.post? t = some p → (f p).Tidy strict) : (s.amend t f).Tidy strict := by
  cases hp : s.post? t with
  | none =>
    rw [amend_of_none hp]
    exact h
  | some p =>
    rw [amend_eq hp]
    exact h.put t (hf p hp)

/-- Only the mailbox matters, and whether it is there. -/
theorem Post.Tidy.of_eq (h : p.Tidy strict) (hmail : q.channel.mailbox = p.channel.mailbox)
    (hopen : q.channel.isOpen = p.channel.isOpen) : q.Tidy strict where
  mail := hmail ▸ h.mail
  closed := hopen ▸ hmail ▸ h.closed
  running hs := hopen.trans (h.running hs)

theorem Post.Tidy.mailed (h : p.Tidy strict) (hopen : p.channel.isOpen = true) (nextId : Nat)
    {m : Message Caller Sink} (hm : IsTidy strict m) :
    Post.Tidy strict { p with channel := { p.channel with
      nextId := nextId, mailbox := p.channel.mailbox ++ [m] } } where
  mail k hk := (List.mem_append.1 hk).elim (h.mail k) fun hk => List.mem_singleton.1 hk ▸ hm
  closed hclosed := absurd hopen (by
    have hclosed' : p.channel.isOpen = false := hclosed
    simp [hclosed'])
  running := h.running

theorem Post.Tidy.addSignal (h : p.Tidy strict) (signal : Signal) :
    (p.addSignal signal).Tidy strict := by
  unfold Post.addSignal
  split
  · exact h.of_eq rfl rfl
  · exact h

/-- A request is put into a mailbox that is there, and its number is used up otherwise. -/
theorem Post.Tidy.call (h : p.Tidy strict) (request : Request) (handle : Nat → Caller) :
    Post.Tidy strict { p with channel := (p.channel.call request handle).1 } := by
  by_cases hopen : p.channel.isOpen = true
  · rw [call_eq hopen]
    exact h.mailed hopen _ trivial
  · have hclosed : p.channel.call request handle =
        ({ p.channel with nextId := p.channel.nextId + 1 }, false) := if_neg hopen
    rw [hclosed]
    exact h.of_eq rfl rfl

theorem Tidy.called (h : s.Tidy strict) (hp : s.post? t = some p) (request : Request)
    (handle : Nat → Caller) : (s.amend t fun post => { post with
      channel := (p.channel.call request handle).1 }).Tidy strict := by
  refine h.amend t fun p' hp' => ?_
  rw [hp, Option.some.injEq] at hp'
  exact hp' ▸ (h.post hp).call request handle

/-- A message for a switch that may have stopped. -/
theorem Post.Tidy.put (h : p.Tidy strict) {m : Message Caller Sink} (hm : IsTidy strict m) :
    Post.Tidy strict { p with channel := (p.channel.put m).1 } := by
  by_cases hopen : p.channel.isOpen = true
  · rw [put_eq hopen]
    exact h.mailed hopen p.channel.nextId hm
  · have hclosed : p.channel.put m = (p.channel, false) := if_neg hopen
    rw [hclosed]
    exact h

/-! ## Messages -/

theorem Tidy.signal (h : s.Tidy strict) (sent : List (Modem.Sent Unit)) :
    (s.signal sent).Tidy strict := by
  induction sent generalizing s with
  | nil => exact h
  | cons x sent ih =>
    have hamend : (s.amend x.tenant fun post => post.addSignal x.signal).Tidy strict :=
      h.amend x.tenant fun p hp => (h.post hp).addSignal x.signal
    exact ih (hamend.clerical (clerical_wake _ _))

theorem Tidy.mail (h : s.Tidy strict) (t : Tenant) {m : Message Caller Sink}
    (hm : IsTidy strict m) : (s.mail t m).Tidy strict := by
  have hamend : (s.amend t fun post => { post with channel := (post.channel.put m).1 }).Tidy
      strict := h.amend t fun p hp => (h.post hp).put hm
  exact hamend.clerical (clerical_wake _ _)

theorem call_snd (c : Channel Caller Sink) (request : Request) (handle : Nat → Caller) :
    (c.call request handle).2 = c.isOpen := by
  unfold Channel.call Channel.put
  split
  · next hopen => exact hopen.symm
  · next hopen => simpa using hopen

/-- A request that the arbiter sends to a switch. -/
theorem send_eq (hp : s.post? t = some p) (request : Request) (tracked : Option Arbiter.Tracked)
    (client : Client) : s.send t request tracked client =
      let sent := s.amend t fun post => { post with
        channel := (p.channel.call request fun id => .relay t id tracked client).1 }
      if p.channel.isOpen then
        (sent.wake (.station t)).wake (.courier (.relay t p.channel.nextId))
      else sent.settle t tracked client (.failed .noReply) := by
  unfold send
  rw [hp, ← call_snd p.channel request fun id => .relay t id tracked client]

theorem Tidy.send (h : s.Tidy strict) (t : Tenant) (request : Request)
    (tracked : Option Arbiter.Tracked) (client : Client) :
    (s.send t request tracked client).Tidy strict := by
  cases hp : s.post? t with
  | none =>
    unfold Service.send
    rw [hp]
    exact h.clerical (clerical_settle s _ _ _ _)
  | some p =>
    have hsent : (s.amend t fun post => { post with
        channel := (p.channel.call request fun id => .relay t id tracked client).1 }).Tidy
        strict := h.called hp request _
    rw [send_eq hp]
    simp only
    split
    · exact hsent.clerical ((clerical_wake _ _).trans (clerical_wake _ _))
    · exact hsent.clerical (clerical_settle _ _ _ _ _)

/-! ## The switches -/

theorem Tidy.enact (h : s.Tidy strict) (t : Tenant) (action : Station.Action Caller Sink) :
    (enact t s action).Tidy strict := by
  cases action with
  | submit token command =>
    have hsame : ({ s with pipeline := s.pipeline.submit s.clock t token command } :
        Service).Tidy strict := h.of_eq rfl rfl fun _ hc => .inl hc
    exact hsame.clerical (clerical_wake _ _)
  | deliver sink notice =>
    cases sink with
    | arbiter =>
      have hsame : ({ s with notices := s.notices ++ [notice] } : Service).Tidy strict :=
        h.of_eq rfl rfl fun _ hc => .inl hc
      exact hsame.clerical (clerical_wake _ _)
    | observer k => exact h.of_eq rfl rfl fun _ hc => .inl hc
  | publish event => exact h.of_eq rfl rfl fun _ hc => .inl hc
  | reply caller r => exact h.clerical (clerical_reply s caller _)
  | askOwnership id c caller => exact h.clerical (clerical_dispatch s _)
  | subscribed caller id =>
    cases caller with
    | subscription number t => exact h.clerical (clerical_finish s _ _)
    | nobody | call | relay => exact h
  | unsubscribed caller known => exact h

theorem Tidy.foldl_enact (h : s.Tidy strict) (t : Tenant)
    (actions : List (Station.Action Caller Sink)) :
    (actions.foldl (Service.enact t) s).Tidy strict := by
  induction actions generalizing s with
  | nil => exact h
  | cons action actions ih => exact ih (h.enact t action)

theorem Tidy.proceed (h : s.Tidy strict) (t : Tenant)
    (result : Station Caller Sink × List (Station.Action Caller Sink)) :
    (s.proceed t result).Tidy strict := by
  have hamend : (s.amend t fun post => { post with station := result.1 }).Tidy strict :=
    h.amend t fun p hp => (h.post hp).of_eq rfl rfl
  exact hamend.foldl_enact t result.2

/-- The post of a switch that has stopped. -/
def Post.stopped (p : Post) : Post :=
  { p with
    channel := p.channel.close
    station := { p.station with subscribers := [] }
    signals := [] }

theorem stopSwitch_eq (s : Service) (t : Tenant) (p : Post) :
    s.stopSwitch t p =
      ((p.station.waiting ++ p.channel.mailbox.filterMap Message.handle?).foldl
        (fun s caller => s.reply caller none) (s.amend t Post.stopped)).wake .arbiter := rfl

theorem Tidy.stopSwitch (h : s.Tidy false) (t : Tenant) (p : Post) :
    (s.stopSwitch t p).Tidy false := by
  have hamend : (s.amend t Post.stopped).Tidy false :=
    h.amend t fun q _ => ⟨nofun, fun _ => rfl, nofun⟩
  rw [stopSwitch_eq]
  exact (hamend.clerical (clerical_foldl_reply _ _)).clerical (clerical_wake _ _)

theorem Tidy.receive (h : s.Tidy strict) (t : Tenant) (p : Post) {m : Message Caller Sink}
    (hm : IsTidy strict m) : (s.receive t p m).Tidy strict := by
  cases m with
  | shutdown =>
    have hlenient : strict = false := hm
    subst hlenient
    exact h.stopSwitch t p
  | request | subscribe | unsubscribe => exact h.proceed t _

/-! ## The arbiter -/

theorem Tidy.decree (h : s.Tidy strict) (act : Arbiter.Action Client) :
    (Service.decree s act).Tidy strict := by
  cases act with
  | send t request tracked client => exact h.send t request tracked _
  | publish event => exact h.of_eq rfl rfl fun _ hc => .inl hc
  | answer client a => exact h.clerical (clerical_answer s client a)

theorem Tidy.foldl_decree (h : s.Tidy strict) (acts : List (Arbiter.Action Client)) :
    (acts.foldl Service.decree s).Tidy strict := by
  induction acts generalizing s with
  | nil => exact h
  | cons act acts ih => exact ih (h.decree act)

theorem Tidy.conclude (h : s.Tidy strict) (a : Arbiter) (acts : List (Arbiter.Action Client)) :
    (s.resume (a.conclude acts)).Tidy strict := by
  have hsame : ({ s with arbiter := (a.conclude acts).1 } : Service).Tidy strict :=
    h.of_eq rfl rfl fun _ hc => .inl hc
  exact hsame.foldl_decree (a.conclude acts).2

theorem stopArbiter_eq (s : Service) :
    s.stopArbiter = s.commands.foldl refuse
      { s with arbiterRuns := false, notices := [], tidings := [], commands := [] } := rfl

theorem Tidy.stopArbiter (h : s.Tidy false) : s.stopArbiter.Tidy false := by
  have hstopped : ({ s with arbiterRuns := false, notices := [], tidings := [], commands := [] } :
      Service).Tidy false := ⟨h.posts, nofun, nofun, nofun⟩
  exact hstopped.clerical (clerical_foldl_refuse _ _)

theorem Tidy.serve (h : s.Tidy strict) {c : Arbiter.Command Client}
    (hc : strict = true → c ≠ .shutdown) : (s.serve c).Tidy strict := by
  cases c with
  | shutdown =>
    have hlenient : strict = false := by
      by_contra hs
      exact hc (by simpa using hs) rfl
    subst hlenient
    exact h.stopArbiter
  | activate | deactivate | status => exact h.conclude _ _
  | setDefaultTenant t client =>
    unfold Service.serve Arbiter.serve
    simp only
    split <;> exact h.conclude _ _

/-! ## Moves, taken apart -/

theorem exists_steer (hm : s.move? .steer = some s') : ∃ control rest,
    s.controls = control :: rest ∧ s' = ({ s with controls := rest } : Service).control control := by
  unfold move? at hm
  simp only at hm
  split at hm
  · next control rest hcontrols =>
    split at hm
    · exact ⟨control, rest, hcontrols, (Option.some.inj hm).symm⟩
    · cases hm
  · cases hm

theorem exists_hear (hm : s.move? (.hear t) = some s') : ∃ p signal rest, s.post? t = some p ∧
    p.signals = signal :: rest ∧ p.channel.isOpen = true ∧
      s' = (s.put t { p with signals := rest }).proceed t
        ({ p.station with switch := p.station.switch.hear signal }.settle s.surroundings) := by
  unfold move? at hm
  simp only at hm
  split at hm
  · next p hp =>
    split at hm
    · next signal rest hsignals =>
      split at hm
      · next hopen =>
        rw [amend_eq hp, Option.some.injEq] at hm
        exact ⟨p, signal, rest, hp, hsignals, hopen, hm.symm⟩
      · cases hm
    · cases hm
  · cases hm

theorem exists_read (hm : s.move? (.read t) = some s') : ∃ p message rest,
    s.post? t = some p ∧ p.channel.mailbox = message :: rest ∧
      s' = (s.put t (p.unread rest)).receive t (p.unread rest) message := by
  unfold move? at hm
  simp only at hm
  split at hm
  · next p hp =>
    unfold Channel.take? at hm
    split at hm
    · cases hm
    · next message rest hmail =>
      rw [Option.map_some, Option.some.injEq, amend_eq hp] at hm
      exact ⟨p, message, rest, hp, hmail, hm.symm⟩
  · cases hm

/-- The arbiter takes a notice, or stops because nobody is left. -/
theorem notice_cases (hm : s.move? .notice = some s') :
    (∃ n rest, s.notices = n :: rest ∧
      s' = ({ s with notices := rest } : Service).resume ((s.arbiter.hear n).conclude [])) ∨
    s.isDeserted = true ∧ s' = s.stopArbiter := by
  unfold move? at hm
  simp only at hm
  split at hm
  · cases hm
  · split at hm
    · next n rest hnotices => exact .inl ⟨n, rest, hnotices, (Option.some.inj hm).symm⟩
    · split at hm
      · next hdeserted => exact .inr ⟨hdeserted, (Option.some.inj hm).symm⟩
      · cases hm

theorem exists_carry {courier : Courier} (hm : s.move? (.carry courier) = some s') :
    ∃ before errand after, s.errands = before ++ errand :: after ∧
      s' = ({ s with errands := before ++ after } : Service).carry errand := by
  unfold move? at hm
  obtain ⟨⟨errand, rest⟩, htake, rfl⟩ := Option.map_eq_some_iff.1 hm
  obtain ⟨before, after, herrands, rfl⟩ := exists_takeErrand? htake
  exact ⟨before, errand, after, herrands, rfl⟩

end DataPath.Service
