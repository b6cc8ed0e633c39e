import DataPath.Proofs.Service.Calls
import DataPath.Proofs.Service.Quiet
import DataPath.Proofs.Switch.Refusal

/-!
# A modem that goes on

Between moves a switch has got everything done that it wanted, also if the modem takes no more
commands.  So it keeps nobody waiting, unless it is releasing (`Attended.held_eq_nil`).

Whoever else stops, a modem that is not told to stop ends every command that it has accepted.  So
every command in flight is under way, as long as there is still a switch to hear of its end: the
modem works on it, or the switch has a signal of its end (`UnderWay`).  A release waits for such a
command, and hence in a quiet service no switch is releasing (`Attended.ne_releasing`).

A modem that stops forgets what it works on, and then a release may never end.
-/

namespace DataPath

namespace Switch

variable {ρ : Type} {s : Switch ρ}

/-- A command that has ended is no longer in flight. -/
theorem mem_inflight_ended {signal : Signal} {e : Nat × Command}
    (he : e ∈ (s.ended signal).inflight) : e ∈ s.inflight ∧ e.1 ∉ endedTokens [signal] := by
  cases signal with
  | completed token fault =>
    obtain ⟨hmem, hne⟩ := List.mem_filter.1 he
    refine ⟨hmem, ?_⟩
    simpa [endedTokens] using hne
  | classConnected | radio => exact ⟨he, nofun⟩

end Switch

namespace Station

variable {ρ σ : Type} {world : Surroundings σ}

/-- When the modem accepts every command, every command is submitted. -/
theorem mem_performAll (ha : ∀ k, world.accepts k = true) (st : Station ρ σ)
    (es : List (Switch.Effect ρ)) {e : Nat × Command} (he : e ∈ Switch.submissions es) :
    Action.submit e.1 e.2 ∈ (st.performAll world es).2 := by
  induction es generalizing st with
  | nil => cases he
  | cons effect es ih =>
    unfold performAll
    simp only
    rw [Switch.submissions_cons, List.mem_append] at he
    rcases he with he | he
    · refine List.mem_append_left _ ?_
      cases effect with
      | submit token command =>
        have hsubmit : e = (token, command) := by
          simpa [Switch.Effect.submission?] using he
        simp [perform, ha, hsubmit]
      | _ => simp [Switch.Effect.submission?] at he
    · exact List.mem_append_right _ (ih _ he)

/-- Then a station has carried out all that its switch wanted done. -/
theorem settle_accepted (ha : ∀ k, world.accepts k = true) (st : Station ρ σ) :
    (st.settle world).1.switch = { st.switch with outbox := [] } ∧
      ∀ e ∈ Switch.submissions st.switch.outbox, Action.submit e.1 e.2 ∈ (st.settle world).2 := by
  unfold settle
  simp only [Switch.carryOut_eq ha]
  refine ⟨switch_performAll world _ _, fun e he => ?_⟩
  rw [← Switch.submissions_drain] at he
  exact mem_performAll ha _ _ he

end Station

namespace Service

variable {goes : Bool} {s s' : Service} {t : Tenant} {p q : Post}

/-! ## Commands under way -/

/-- A command of a tenant is under way: the modem works on it, or signals tell of its end. -/
def UnderWay (jobs : List Modem.Job) (t : Tenant) (signals : List Signal) (token : Nat) : Prop :=
  (∃ job ∈ jobs, job.tenant = t ∧ job.token = token) ∨ token ∈ endedTokens signals

/-- A switch has got everything done that it wanted.  If the modem goes on, it attends to the
switch. -/
structure Post.Attended (goes : Bool) (pipeline : Modem.Pipeline Unit) (t : Tenant) (p : Post) :
    Prop where
  sound : p.station.switch.Sound
  outbox : p.station.switch.outbox = []
  sink : goes = true → pipeline.sinks.lookup t = some ()
  arbitrated : goes = true → p.station.switch.arbitrated = true
  underWay : goes = true → p.channel.isOpen = true → ∀ e ∈ p.station.switch.inflight,
    UnderWay pipeline.jobs t p.signals e.1

/-- All switches are attended to.  Whether the modem goes on is given. -/
structure Attended (goes : Bool) (s : Service) : Prop where
  modem : goes = true → s.modemRuns = true
  controls : goes = true → ∀ c ∈ s.controls, c ≠ .shutdown
  posts : ∀ t p, s.post? t = some p → p.Attended goes s.pipeline t

/-- The switches go on as before, and the modem may have more to do. -/
structure Busier (s s' : Service) : Prop where
  posts : s'.posts = s.posts
  modem : s'.modemRuns = s.modemRuns
  controls : s'.controls = s.controls
  sinks : s'.pipeline.sinks = s.pipeline.sinks
  jobs : s.pipeline.jobs ⊆ s'.pipeline.jobs

theorem Busier.trans {s₁ s₂ s₃ : Service} (h : Busier s₁ s₂) (h' : Busier s₂ s₃) :
    Busier s₁ s₃ where
  posts := h'.posts.trans h.posts
  modem := h'.modem.trans h.modem
  controls := h'.controls.trans h.controls
  sinks := h'.sinks.trans h.sinks
  jobs := List.Subset.trans h.jobs h'.jobs

theorem Clerical.busier (h : Clerical s s') : Busier s s' where
  posts := h.posts
  modem := h.modem
  controls := h.controls
  sinks := by rw [h.pipeline]
  jobs := by
    rw [h.pipeline]
    exact List.Subset.refl _

theorem Post.Attended.mono {pipeline pipeline' : Modem.Pipeline Unit}
    (h : p.Attended goes pipeline t) (hsinks : pipeline'.sinks = pipeline.sinks)
    (hjobs : pipeline.jobs ⊆ pipeline'.jobs) : p.Attended goes pipeline' t where
  sound := h.sound
  outbox := h.outbox
  sink := hsinks ▸ h.sink
  arbitrated := h.arbitrated
  underWay hgo hopen e he := by
    refine (h.underWay hgo hopen e he).imp (fun hjob => ?_) id
    obtain ⟨job, hmem, hwhose⟩ := hjob
    exact ⟨job, hjobs hmem, hwhose⟩

theorem Attended.busier (h : s.Attended goes) (hb : Busier s s') : s'.Attended goes where
  modem hgo := hb.modem.trans (h.modem hgo)
  controls := hb.controls ▸ h.controls
  posts u r hr := by
    refine (h.posts u r ?_).mono hb.sinks hb.jobs
    unfold post? at hr ⊢
    rw [← hb.posts]
    exact hr

theorem Attended.clerical (h : s.Attended goes) (hc : Clerical s s') : s'.Attended goes :=
  h.busier hc.busier

/-- One post becomes another one, while the modem is given more to do. -/
theorem Attended.replaced (h : s.Attended goes) (hp : s.post? t = some p)
    (hb : Busier (s.put t q) s') (hq : q.Attended goes s'.pipeline t) : s'.Attended goes where
  modem hgo := hb.modem.trans (h.modem hgo)
  controls := hb.controls ▸ h.controls
  posts u r hr := by
    have hr' : (s.put t q).post? u = some r := by
      unfold post? at hr ⊢
      rw [← hb.posts]
      exact hr
    rcases post?_of_put hp hr' with ⟨rfl, rfl⟩ | ⟨-, hsame⟩
    · exact hq
    · exact (h.posts u r hsame).mono hb.sinks hb.jobs

/-- A post goes on with the same switch, which hears no less, unless it stops. -/
structure Post.Onward (p q : Post) : Prop where
  switch : q.station.switch = p.station.switch
  isOpen : q.channel.isOpen = true → p.channel.isOpen = true
  ended : q.channel.isOpen = true → endedTokens p.signals ⊆ endedTokens q.signals

theorem Post.Onward.refl (p : Post) : p.Onward p := ⟨rfl, id, fun _ => List.Subset.refl _⟩

theorem Post.Onward.trans {p₁ p₂ p₃ : Post} (h : p₁.Onward p₂) (h' : p₂.Onward p₃) :
    p₁.Onward p₃ where
  switch := h'.switch.trans h.switch
  isOpen hopen := h.isOpen (h'.isOpen hopen)
  ended hopen := List.Subset.trans (h.ended (h'.isOpen hopen)) (h'.ended hopen)

theorem Post.Attended.onward {pipeline : Modem.Pipeline Unit} (h : p.Attended goes pipeline t)
    (ho : p.Onward q) : q.Attended goes pipeline t where
  sound := ho.switch ▸ h.sound
  outbox := ho.switch ▸ h.outbox
  sink := h.sink
  arbitrated := ho.switch ▸ h.arbitrated
  underWay hgo hopen e he := by
    rw [ho.switch] at he
    exact (h.underWay hgo (ho.isOpen hopen) e he).imp id fun hended => ho.ended hopen hended

theorem Attended.amend (h : s.Attended goes) (t : Tenant) {f : Post → Post}
    (hf : ∀ p, s.post? t = some p → p.Onward (f p)) : (s.amend t f).Attended goes := by
  cases hp : s.post? t with
  | none =>
    rw [amend_of_none hp]
    exact h
  | some p =>
    rw [amend_eq hp]
    exact h.replaced hp ⟨rfl, rfl, rfl, rfl, List.Subset.refl _⟩ ((h.posts t p hp).onward (hf p hp))

/-! ## Messages and letters -/

theorem Attended.mail (h : s.Attended goes) (t : Tenant) (m : Message Caller Sink) :
    (s.mail t m).Attended goes := by
  have hamend : (s.amend t fun post =>
      { post with channel := (post.channel.put m).1 }).Attended goes := by
    refine h.amend t fun p _ => ⟨rfl, fun hopen => ?_, fun _ => List.Subset.refl _⟩
    unfold Channel.put at hopen
    split at hopen
    · next hwas => exact hwas
    · exact hopen
  exact hamend.clerical (clerical_wake _ _)

theorem isOpen_call (c : Channel Caller Sink) (request : Request) (handle : Nat → Caller) :
    (c.call request handle).1.isOpen = c.isOpen := by
  unfold Channel.call Channel.put
  split <;> rfl

theorem Attended.called (h : s.Attended goes) (hp : s.post? t = some p) (request : Request)
    (handle : Nat → Caller) : (s.amend t fun post => { post with
      channel := (p.channel.call request handle).1 }).Attended goes := by
  refine h.amend t fun p' hp' => ⟨rfl, fun hopen => ?_, fun _ => List.Subset.refl _⟩
  rw [hp, Option.some.injEq] at hp'
  rw [← hp', ← isOpen_call p.channel request handle]
  exact hopen

theorem Attended.send (h : s.Attended goes) (t : Tenant) (request : Request)
    (tracked : Option Arbiter.Tracked) (client : Client) :
    (s.send t request tracked client).Attended goes := by
  cases hp : s.post? t with
  | none =>
    unfold Service.send
    rw [hp]
    exact h.clerical (clerical_settle s _ _ _ _)
  | some p =>
    have hsent := h.called hp request fun id => .relay t id tracked client
    rw [send_eq hp]
    simp only
    split
    · exact hsent.clerical ((clerical_wake _ _).trans (clerical_wake _ _))
    · exact hsent.clerical (clerical_settle _ _ _ _ _)

/-! ## The arbiter -/

theorem Attended.decree (h : s.Attended goes) (act : Arbiter.Action Client) :
    (Service.decree s act).Attended goes := by
  cases act with
  | send t request tracked client => exact h.send t request tracked _
  | publish event => exact ⟨h.modem, h.controls, h.posts⟩
  | answer client a => exact h.clerical (clerical_answer s client a)

theorem Attended.resume (h : s.Attended goes) (result : Arbiter × List (Arbiter.Action Client)) :
    (s.resume result).Attended goes := by
  have hfold : ∀ (acts : List (Arbiter.Action Client)) (x : Service), x.Attended goes →
      (acts.foldl Service.decree x).Attended goes := by
    intro acts
    induction acts with
    | nil => exact fun _ hx => hx
    | cons act acts ih => exact fun x hx => ih _ (hx.decree act)
  exact hfold result.2 _ ⟨h.modem, h.controls, h.posts⟩

theorem Attended.stopArbiter (h : s.Attended goes) : s.stopArbiter.Attended goes := by
  rw [stopArbiter_eq]
  have hstopped : Attended goes { s with
      arbiterRuns := false, notices := [], tidings := [], commands := [] } :=
    ⟨h.modem, h.controls, h.posts⟩
  exact hstopped.clerical (clerical_foldl_refuse _ _)

theorem Attended.serve (h : s.Attended goes) (c : Arbiter.Command Client) :
    (s.serve c).Attended goes := by
  cases c with
  | shutdown => exact h.stopArbiter
  | activate | deactivate | status | setDefaultTenant => exact h.resume _

/-! ## The switches -/

theorem busier_enact (t : Tenant) (s : Service) (action : Station.Action Caller Sink) :
    Busier s (enact t s action) := by
  have hrefl : Busier s s := (Clerical.refl s).busier
  cases action with
  | submit token command =>
    have hgiven : Busier s { s with pipeline := s.pipeline.submit s.clock t token command } :=
      ⟨rfl, rfl, rfl, rfl, List.subset_append_left _ _⟩
    exact hgiven.trans (clerical_wake _ _).busier
  | deliver sink notice =>
    cases sink with
    | arbiter =>
      have htold : Busier s { s with notices := s.notices ++ [notice] } :=
        ⟨rfl, rfl, rfl, rfl, List.Subset.refl _⟩
      exact htold.trans (clerical_wake _ _).busier
    | observer k => exact ⟨rfl, rfl, rfl, rfl, List.Subset.refl _⟩
  | publish event => exact ⟨rfl, rfl, rfl, rfl, List.Subset.refl _⟩
  | reply caller r => exact (clerical_reply s caller _).busier
  | askOwnership id c caller => exact (clerical_dispatch s _).busier
  | subscribed caller id =>
    cases caller with
    | subscription number t => exact (clerical_finish s _ _).busier
    | nobody | call | relay => exact hrefl
  | unsubscribed caller known => exact hrefl

theorem busier_foldl_enact (t : Tenant) (s : Service)
    (actions : List (Station.Action Caller Sink)) : Busier s (actions.foldl (enact t) s) := by
  induction actions generalizing s with
  | nil => exact (Clerical.refl s).busier
  | cons action actions ih => exact (busier_enact t s action).trans (ih _)

theorem mem_jobs_enact (t : Tenant) (s : Service) (token : Nat) (command : Command) :
    ⟨s.clock + s.pipeline.latency, t, token, command⟩ ∈
      (enact t s (.submit token command)).pipeline.jobs := by
  have hwake := (clerical_wake { s with
    pipeline := s.pipeline.submit s.clock t token command } .modem).pipeline
  have hjobs : (enact t s (.submit token command)).pipeline.jobs =
      s.pipeline.jobs ++ [⟨s.clock + s.pipeline.latency, t, token, command⟩] :=
    congrArg Modem.Pipeline.jobs hwake
  rw [hjobs]
  exact List.mem_append_right _ List.mem_cons_self

/-- A command that is submitted is given to the modem. -/
theorem exists_job_of_submit (t : Tenant) (s : Service)
    {actions : List (Station.Action Caller Sink)} {token : Nat} {command : Command}
    (h : .submit token command ∈ actions) :
    ∃ job ∈ (actions.foldl (enact t) s).pipeline.jobs, job.tenant = t ∧ job.token = token := by
  obtain ⟨before, after, rfl⟩ := List.append_of_mem h
  rw [List.foldl_append, List.foldl_cons]
  exact ⟨_, (busier_foldl_enact t _ after).jobs (mem_jobs_enact t _ token command), rfl, rfl⟩

theorem proceed_put (hp : s.post? t = some p) (q : Post)
    (result : Station Caller Sink × List (Station.Action Caller Sink)) :
    (s.put t q).proceed t result =
      result.2.foldl (enact t) (s.put t { q with station := result.1 }) := by
  unfold proceed
  rw [amend_eq (post?_put hp q), put_put]

/-- A switch that has become another one carries out what it wants done.  A modem that goes on takes
all commands. -/
theorem Attended.proceed_settle (h : s.Attended goes) (hp : s.post? t = some p) (q : Post)
    (hopen : q.channel.isOpen = true → p.channel.isOpen = true) {world : Station.Surroundings Sink}
    (ha : goes = true → ∀ k, world.accepts k = true) (st : Station Caller Sink)
    (hsound : st.switch.Sound) (hissued : st.switch.Issued)
    (hflight : goes = true → st.switch.arbitrated = true ∧ ∀ e ∈ st.switch.inflight,
      e ∈ p.station.switch.inflight ∧
        (e.1 ∈ endedTokens p.signals → e.1 ∈ endedTokens q.signals) ∨
      e ∈ Switch.submissions st.switch.outbox) :
    ((s.put t q).proceed t (st.settle world)).Attended goes := by
  rw [proceed_put hp]
  have hb := busier_foldl_enact t (s.put t { q with station := (st.settle world).1 })
    (st.settle world).2
  have hpost := h.posts t p hp
  have hcarried : (st.settle world).1.switch = (st.switch.carryOut world.accepts).1 :=
    Station.switch_performAll world _ _
  refine h.replaced hp hb ⟨?_, ?_, fun hgo => ?_, fun hgo => ?_, fun hgo hop e he => ?_⟩
  · exact hcarried ▸ hsound.carryOut world.accepts
  · exact hcarried ▸ Switch.outbox_carryOut hsound hissued world.accepts
  · rw [hb.sinks]
    exact hpost.sink hgo
  · obtain ⟨hswitch, -⟩ := Station.settle_accepted (ha hgo) st
    exact hswitch ▸ (hflight hgo).1
  · obtain ⟨hswitch, hsubmit⟩ := Station.settle_accepted (ha hgo) st
    simp only [hswitch] at he
    rcases (hflight hgo).2 e he with ⟨hmem, hkeep⟩ | hnew
    · refine (hpost.underWay hgo (hopen hop) e hmem).imp (fun hjob => ?_) hkeep
      obtain ⟨job, hjob, hwhose⟩ := hjob
      exact ⟨job, hb.jobs hjob, hwhose⟩
    · exact .inl (exists_job_of_submit t _ (hsubmit e hnew))

/-- A switch that stays as it is. -/
theorem Attended.proceed_same (h : s.Attended goes) (hp : s.post? t = some p) {q : Post}
    (ho : p.Onward q) {result : Station Caller Sink × List (Station.Action Caller Sink)}
    (hswitch : result.1.switch = q.station.switch) :
    ((s.put t q).proceed t result).Attended goes := by
  rw [proceed_put hp]
  have hb := busier_foldl_enact t (s.put t { q with station := result.1 }) result.2
  have hq : Post.Onward q { q with station := result.1 } :=
    ⟨hswitch, id, fun _ => List.Subset.refl _⟩
  exact h.replaced hp hb (((h.posts t p hp).onward (ho.trans hq)).mono hb.sinks hb.jobs)

theorem Attended.hear (h : s.Attended goes) (hm : s.move? (.hear t) = some s') :
    s'.Attended goes := by
  obtain ⟨p, signal, rest, hp, hsignals, -, rfl⟩ := exists_hear hm
  have hpost := h.posts t p hp
  refine h.proceed_settle hp { p with signals := rest } (fun hopen => hopen)
    (fun hgo _ => h.modem hgo) { p.station with switch := p.station.switch.hear signal }
    (hpost.sound.hear signal) ((Switch.grows_hear _ signal).issued hpost.outbox) fun hgo => ?_
  obtain ⟨-, harb, hin, -⟩ := hear_cases (hpost.arbitrated hgo) hpost.outbox signal
  refine ⟨harb, fun e he => ?_⟩
  have he' : e ∈ (p.station.switch.hear signal).inflight := he
  rw [hin, List.mem_append] at he'
  refine he'.imp_left fun hmem => ?_
  obtain ⟨hmem, hne⟩ := Switch.mem_inflight_ended hmem
  refine ⟨hmem, fun hended => ?_⟩
  have hsplit : endedTokens p.signals = endedTokens [signal] ++ endedTokens rest := by
    rw [hsignals, ← endedTokens_append, List.singleton_append]
  rw [hsplit, List.mem_append] at hended
  exact hended.resolve_left hne

theorem Attended.stopSwitch (h : s.Attended goes) (t : Tenant) (p : Post) :
    (s.stopSwitch t p).Attended goes := by
  rw [stopSwitch_eq]
  have hstopped : (s.amend t Post.stopped).Attended goes := h.amend t fun p _ => ⟨rfl, nofun, nofun⟩
  exact (hstopped.clerical (clerical_foldl_reply _ _)).clerical (clerical_wake _ _)

theorem Attended.read (h : s.Attended goes) (hm : s.move? (.read t) = some s') :
    s'.Attended goes := by
  obtain ⟨p, message, rest, hp, -, rfl⟩ := exists_read hm
  have hpost := h.posts t p hp
  have honward : p.Onward (p.unread rest) :=
    ⟨rfl, fun hopen => hopen, fun _ => List.Subset.refl _⟩
  cases message with
  | request id request handle =>
    have hreceive : (s.put t (p.unread rest)).receive t (p.unread rest)
        (.request id request handle) = (s.put t (p.unread rest)).proceed t
          ({ p.station with switch := p.station.switch.handle id request handle }.settle
            s.surroundings) := rfl
    rw [hreceive]
    refine h.proceed_settle hp (p.unread rest) (fun hopen => hopen) (fun hgo _ => h.modem hgo)
      { p.station with switch := p.station.switch.handle id request handle }
      (hpost.sound.handle id request handle)
      ((Switch.grows_handle _ id request handle).issued hpost.outbox) fun hgo => ?_
    obtain ⟨-, harb, hin, -⟩ := read_cases (hpost.arbitrated hgo) hpost.outbox id request handle
    refine ⟨harb, fun e he => ?_⟩
    have he' : e ∈ (p.station.switch.handle id request handle).inflight := he
    rw [hin, List.mem_append] at he'
    exact he'.imp_left fun hmem => ⟨hmem, fun hended => hended⟩
  | subscribe filter sink handle =>
    have hreceive : (s.put t (p.unread rest)).receive t (p.unread rest)
        (.subscribe filter sink handle) = (s.put t (p.unread rest)).proceed t
          (p.station.subscribe s.surroundings filter sink handle) := rfl
    rw [hreceive]
    exact h.proceed_same hp honward rfl
  | unsubscribe id handle =>
    have hreceive : (s.put t (p.unread rest)).receive t (p.unread rest)
        (.unsubscribe id handle) = (s.put t (p.unread rest)).proceed t
          (p.station.receive s.surroundings (.unsubscribe id handle)) := rfl
    rw [hreceive]
    exact h.proceed_same hp honward rfl
  | shutdown =>
    have hput : (s.put t (p.unread rest)).Attended goes :=
      h.replaced hp ⟨rfl, rfl, rfl, rfl, List.Subset.refl _⟩ (hpost.onward honward)
    exact hput.stopSwitch t _

/-! ## The modem -/

/-- A switch that has not stopped hears a signal. -/
theorem onward_addSignal (p : Post) (signal : Signal) : p.Onward (p.addSignal signal) ∧
    ((p.addSignal signal).channel.isOpen = true →
      endedTokens [signal] ⊆ endedTokens (p.addSignal signal).signals) := by
  unfold Post.addSignal
  split
  · refine ⟨⟨rfl, id, fun _ => ?_⟩, fun _ => ?_⟩
    · rw [endedTokens_append]
      exact List.subset_append_left _ _
    · rw [endedTokens_append]
      exact List.subset_append_right _ _
  · next hclosed => exact ⟨.refl p, fun hopen => absurd hopen hclosed⟩

/-- What the switches hear of one signal of the modem. -/
theorem exists_onward_of_addSignal {u : Tenant} {signal : Signal}
    (hq : (s.amend u fun post => post.addSignal signal).post? t = some q) :
    ∃ p, s.post? t = some p ∧ p.Onward q ∧ (q.channel.isOpen = true → u = t →
      endedTokens [signal] ⊆ endedTokens q.signals) := by
  cases hu : s.post? u with
  | none =>
    rw [amend_of_none hu] at hq
    refine ⟨q, hq, .refl q, fun _ htenant => ?_⟩
    rw [htenant, hq] at hu
    cases hu
  | some p =>
    rw [amend_eq hu] at hq
    rcases post?_of_put hu hq with ⟨rfl, rfl⟩ | ⟨hne, hsame⟩
    · obtain ⟨honward, hheard⟩ := onward_addSignal p signal
      exact ⟨p, hu, honward, fun hopen _ => hheard hopen⟩
    · exact ⟨q, hsame, .refl q, fun _ htenant => absurd htenant.symm hne⟩

/-- What the switches hear of the signals of the modem. -/
theorem exists_onward_of_signal (sent : List (Modem.Sent Unit))
    (hq : (s.signal sent).post? t = some q) :
    ∃ p, s.post? t = some p ∧ p.Onward q ∧
      (q.channel.isOpen = true → ∀ x ∈ sent, x.tenant = t →
        endedTokens [x.signal] ⊆ endedTokens q.signals) := by
  induction sent generalizing s with
  | nil => exact ⟨q, hq, .refl q, nofun⟩
  | cons x sent ih =>
    obtain ⟨mid, hmid, honward', hheard'⟩ := ih hq
    have hposts : ((s.amend x.tenant fun post => post.addSignal x.signal).wake
        (.station x.tenant)).post? t = (s.amend x.tenant fun post =>
          post.addSignal x.signal).post? t := by
      unfold post?
      rw [(clerical_wake _ _).posts]
    rw [hposts] at hmid
    obtain ⟨p, hp, honward, hheard⟩ := exists_onward_of_addSignal hmid
    refine ⟨p, hp, honward.trans honward', fun hopen y hy htenant => ?_⟩
    rcases List.mem_cons.1 hy with rfl | hy
    · have hopen' := honward'.isOpen hopen
      exact List.Subset.trans (hheard hopen' htenant) (honward'.ended hopen)
    · exact hheard' hopen y hy htenant

/-- Signals reach the switches, and nothing else happens by that. -/
theorem signal_frame (s : Service) (sent : List (Modem.Sent Unit)) :
    (s.signal sent).modemRuns = s.modemRuns ∧ (s.signal sent).controls = s.controls ∧
      (s.signal sent).pipeline = s.pipeline := by
  obtain ⟨posts, turns, heq, -⟩ := exists_signal_eq (s := s) sent
  rw [heq]
  exact ⟨rfl, rfl, rfl⟩

theorem Attended.signal (h : s.Attended goes) (sent : List (Modem.Sent Unit)) :
    (s.signal sent).Attended goes := by
  obtain ⟨hmodem, hcontrols, hpipeline⟩ := signal_frame s sent
  refine ⟨fun hgo => hmodem.trans (h.modem hgo), hcontrols ▸ h.controls, fun u q hq => ?_⟩
  obtain ⟨p, hp, honward, -⟩ := exists_onward_of_signal sent hq
  rw [hpipeline]
  exact (h.posts u p hp).onward honward

/-- The modem executes its first command, and signals the end of it. -/
theorem next?_cases {pipeline pipeline' : Modem.Pipeline Unit} {now : Nat}
    {sent : List (Modem.Sent Unit)} (h : pipeline.next? now = some (pipeline', sent)) :
    ∃ job rest, pipeline.jobs = job :: rest ∧ pipeline'.jobs = rest ∧
      pipeline'.sinks = pipeline.sinks ∧ (pipeline.sinks.lookup job.tenant = some () →
        ∃ fault, ⟨(), job.tenant, .completed job.token fault⟩ ∈ sent) := by
  obtain ⟨job, rest, hjobs, heq⟩ := Modem.Pipeline.exists_of_next? h
  obtain ⟨rfl, rfl⟩ := Prod.ext_iff.1 heq
  refine ⟨job, rest, hjobs, rfl, rfl, fun hsink => ?_⟩
  refine ⟨(pipeline.modem.execute job.tenant job.command).2, ?_⟩
  unfold Modem.Pipeline.complete Modem.Pipeline.send
  simp only [hsink]
  exact List.mem_cons_self

theorem Attended.execute (h : s.Attended goes) (hm : s.move? .execute = some s') :
    s'.Attended goes := by
  obtain ⟨pipeline, sent, hnext, rfl⟩ := exists_execute hm
  obtain ⟨job, rest, hjobs, hrest, hsinks, hsent⟩ := next?_cases hnext
  obtain ⟨hmodem, hcontrols, hpipeline⟩ := signal_frame { s with pipeline := pipeline } sent
  refine ⟨fun hgo => hmodem.trans (h.modem hgo), fun hgo => ?_, fun u q hq => ?_⟩
  · rw [hcontrols]
    exact h.controls hgo
  obtain ⟨p, hp, honward, hheard⟩ := exists_onward_of_signal sent hq
  have hpost := h.posts u p hp
  rw [hpipeline]
  refine ⟨honward.switch ▸ hpost.sound, honward.switch ▸ hpost.outbox, hsinks ▸ hpost.sink,
    honward.switch ▸ hpost.arbitrated, fun hgo hopen e he => ?_⟩
  rw [honward.switch] at he
  rcases hpost.underWay hgo (honward.isOpen hopen) e he with ⟨j, hj, hwhose, htoken⟩ | hended
  · rw [hjobs, List.mem_cons] at hj
    rcases hj with rfl | hj
    · -- The command has just ended, and its switch is told.
      obtain ⟨fault, hmem⟩ := hsent (hwhose ▸ hpost.sink hgo)
      refine .inr (hheard hopen _ hmem hwhose ?_)
      simp [htoken]
    · exact .inl ⟨j, hrest ▸ hj, hwhose, htoken⟩
  · exact .inr (honward.ended hopen hended)

theorem Attended.steer (h : s.Attended goes) (hm : s.move? .steer = some s') :
    s'.Attended goes := by
  obtain ⟨control, rest, hcontrols, rfl⟩ := exists_steer hm
  have hrest : goes = true → ∀ c ∈ rest, c ≠ .shutdown :=
    fun hgo c hc => h.controls hgo c (hcontrols ▸ List.mem_cons_of_mem _ hc)
  have hsame : ∀ pipeline : Modem.Pipeline Unit, pipeline.sinks = s.pipeline.sinks →
      pipeline.jobs = s.pipeline.jobs →
      Attended goes { s with controls := rest, pipeline := pipeline } := by
    intro pipeline hsinks hjobs
    refine ⟨h.modem, hrest, fun u p hp => (h.posts u p hp).mono hsinks ?_⟩
    rw [hjobs]
    exact List.Subset.refl _
  cases control with
  | radio t radio =>
    exact (hsame (s.pipeline.setRadio t radio).1 rfl rfl).signal (s.pipeline.setRadio t radio).2
  | failNextEnable t => exact hsame _ rfl rfl
  | failNextDisable t => exact hsame _ rfl rfl
  | hold value => exact hsame _ rfl rfl
  | shutdown =>
    have hstops : ¬goes = true :=
      fun hgo => h.controls hgo .shutdown (hcontrols ▸ List.mem_cons_self) rfl
    refine ⟨fun hgo => absurd hgo hstops, fun hgo => absurd hgo hstops, fun u p hp => ?_⟩
    have hpost := h.posts u p hp
    exact ⟨hpost.sound, hpost.outbox, fun hgo => absurd hgo hstops, fun hgo => absurd hgo hstops,
      fun hgo => absurd hgo hstops⟩

/-! ## Moves -/

/-- The modem goes on and attends to everybody after every move. -/
theorem Attended.move (h : s.Attended goes) {move : Move} (hm : s.move? move = some s') :
    s'.Attended goes := by
  cases move with
  | steer => exact h.steer hm
  | execute => exact h.execute hm
  | hear t => exact h.hear hm
  | read t => exact h.read hm
  | notice =>
    rcases notice_cases hm with ⟨n, rest, -, rfl⟩ | ⟨-, rfl⟩
    · have htaken : Attended goes { s with notices := rest } := ⟨h.modem, h.controls, h.posts⟩
      exact htaken.resume _
    · exact h.stopArbiter
  | tidings =>
    obtain ⟨x, rest, -, -, rfl⟩ := exists_tidings hm
    have htaken : Attended goes { s with tidings := rest } := ⟨h.modem, h.controls, h.posts⟩
    exact htaken.resume _
  | command =>
    obtain ⟨command, rest, -, -, -, rfl⟩ := exists_command hm
    have htaken : Attended goes { s with commands := rest } := ⟨h.modem, h.controls, h.posts⟩
    exact htaken.serve command
  | carry courier =>
    obtain ⟨before, errand, after, -, rfl⟩ := exists_carry hm
    have htaken : Attended goes { s with errands := before ++ after } :=
      ⟨h.modem, h.controls, h.posts⟩
    exact htaken.clerical (clerical_carry _ errand)

/-! ## Inputs -/

theorem Attended.command (h : s.Attended goes) (c : Arbiter.Command Client) :
    (s.command c).Attended goes := by
  by_cases hc : c = .shutdown
  · subst hc
    unfold Service.command
    split
    · have hgiven : Attended goes { s with commands := s.commands ++ [.shutdown] } :=
        ⟨h.modem, h.controls, h.posts⟩
      exact hgiven.clerical (clerical_wake _ _)
    · exact h
  · exact h.clerical (clerical_command s hc)

theorem Attended.foldl_mail (h : s.Attended goes) (ps : List Post) :
    (ps.foldl (fun s post => s.mail post.channel.tenant .shutdown) s).Attended goes := by
  induction ps generalizing s with
  | nil => exact h
  | cons p ps ih => exact ih (h.mail p.channel.tenant .shutdown)

theorem Attended.posted (h : s.Attended goes) (hp : s.post? t = some p) (request : Request) :
    (s.amend t fun post => { post with channel := (p.channel.post request).1 }).Attended goes := by
  refine h.amend t fun p' hp' => ⟨rfl, fun hopen => ?_, fun _ => List.Subset.refl _⟩
  rw [hp, Option.some.injEq] at hp'
  have hsame : (p.channel.post request).1.isOpen = p.channel.isOpen := by
    rcases post_cases p.channel request with heq | ⟨-, heq⟩ <;> rw [heq]
  rw [← hp', ← hsame]
  exact hopen

theorem Attended.finish (h : s.Attended goes) (number : Nat) (a : Answer) :
    (s.finish number a).Attended goes := h.clerical (clerical_finish s number a)

theorem Attended.accept_call (h : s.Attended goes) (number : Nat) (t : Tenant) (request : Request) :
    (s.accept number (.call t request)).Attended goes := by
  cases hp : s.post? t with
  | none =>
    rw [accept_call_of_none hp]
    exact h.finish _ _
  | some p =>
    have hsent := h.called hp request fun id => .call number id request.expects
    rw [Service.accept_call hp]
    simp only
    split
    · exact hsent.clerical (clerical_wake _ _)
    · exact hsent.finish _ _

theorem Attended.accept_subscribe (h : s.Attended goes) (number : Nat) (t : Tenant)
    (filter : NoticeFilter) : (s.accept number (.subscribe t filter)).Attended goes := by
  have hnext : Attended goes { s with nextObserver := s.nextObserver + 1 } :=
    ⟨h.modem, h.controls, h.posts⟩
  unfold Service.accept
  simp only
  split
  · exact hnext.finish _ _
  · split
    · exact hnext.mail t _
    · exact hnext.finish _ _

/-- Only one control makes the modem stop. -/
theorem Attended.accept_steer (h : s.Attended goes) (number : Nat) {control : Control}
    (hcontrol : goes = true → control ≠ .shutdown) :
    (s.accept number (.steer control)).Attended goes := by
  unfold Service.accept
  simp only
  split
  · have hgiven : Attended goes { s with controls := s.controls ++ [control] } := by
      refine ⟨h.modem, fun hgo c hc => ?_, h.posts⟩
      rcases List.mem_append.1 hc with hc | hc
      · exact h.controls hgo c hc
      · exact List.mem_singleton.1 hc ▸ hcontrol hgo
    exact hgiven.clerical (clerical_wake _ _)
  · exact h

/-- Every input leaves everybody attended to, unless it makes the modem stop. -/
theorem Attended.accept (h : s.Attended goes) (number : Nat) {input : Input}
    (hinput : goes = true → input ≠ .steer .shutdown) : (s.accept number input).Attended goes := by
  cases input with
  | call t request => exact h.accept_call number t request
  | post t request =>
    unfold Service.accept
    simp only
    split
    · exact h.finish _ _
    · next p hp => exact ((h.posted hp request).clerical (clerical_wake _ _)).finish _ _
  | stopSwitch t =>
    unfold Service.accept
    simp only
    split
    · exact h.finish _ _
    · exact (h.mail t .shutdown).finish _ _
  | subscribe t filter => exact h.accept_subscribe number t filter
  | activate | deactivate | setDefaultTenant | status => exact h.command _
  | stopArbiter => exact (h.command _).finish _ _
  | isPossible => exact h.finish _ _
  | steer control => exact h.accept_steer number fun hgo heq => hinput hgo (by rw [heq])
  | shutdown => exact ((h.command .shutdown).foldl_mail s.posts).finish _ _
  | nothing => exact h

/-! ## A quiet service -/

/-- Only a releasing switch keeps anybody waiting. -/
theorem Attended.held_eq_nil (h : s.Attended goes) (hp : s.post? t = some p)
    (hphase : p.station.switch.phase ≠ .releasing) : p.station.switch.held = [] := by
  unfold Switch.held
  rw [(h.posts t p hp).sound.tracks.parked_eq_nil hphase]
  rfl

/-- In a quiet service with a modem that goes on every release is over, unless its switch has
stopped. -/
theorem Attended.ne_releasing (h : s.Attended true) (hq : IsQuiet s) (hp : s.post? t = some p)
    (hopen : p.channel.isOpen = true) : p.station.switch.phase ≠ .releasing := by
  have hpost := h.posts t p hp
  intro hrel
  obtain ⟨k, -, hmem⟩ := hpost.sound.tokens.token hrel
  rcases hpost.underWay rfl hopen _ hmem with ⟨job, hjob, -⟩ | hended
  · rw [hq.jobs] at hjob
    cases hjob
  · rw [hq.signals t p hp] at hended
    cases hended

end Service

end DataPath
