import DataPath.Proofs.Service.Moves
import DataPath.Service.Input

/-!
# The states of a running service

A service starts, is asked things from outside, and makes moves, in any order, while time
passes (`Reachable`).  Nobody is told to stop, and nobody but the arbiter sends a connect
with a grant (`Input.isOrdinary`).  Whose turn it is does not matter, so that all schedules are
covered, and the one that is used when the service runs is one of them (`Reachable.run`).

What an input changes is listed here (`Intake`), as it is elsewhere for moves, and so is the
state in which a service starts (`Fresh`).
-/

namespace DataPath.Service

/-- Whether an input leaves everybody running, and grants to the arbiter. -/
def Input.isOrdinary : Input → Bool
  | .call _ request | .post _ request => !request.isAcquire
  | .stopSwitch _ | .stopArbiter | .shutdown | .steer .shutdown => false
  | _ => true

/-- The service at a later time. -/
def later (s : Service) (time : Nat) : Service := { s with clock := max s.clock time }

/-- The service makes a move, perhaps after some time. -/
def Step (s s' : Service) : Prop := ∃ time move, (s.later time).move? move = some s'

/-- The states that a service can be in. -/
inductive Reachable (config : ArbiterConfig) (modem : ModemConfig) : Service → Prop where
  | start {s : Service} (h : Service.start config modem = .ok s) : Reachable config modem s
  | accept {s : Service} (h : Reachable config modem s) (number : Nat) (input : Input)
      (hordinary : input.isOrdinary = true) : Reachable config modem (s.accept number input)
  | wait {s : Service} (h : Reachable config modem s) (time : Nat) :
      Reachable config modem (s.moveClock time)
  | pass {s : Service} (h : Reachable config modem s) (turns : List Party) :
      Reachable config modem { s with turns := turns }
  | step {s s' : Service} (h : Reachable config modem s) (hs : Step s s') :
      Reachable config modem s'

variable {config : ArbiterConfig} {modem : ModemConfig} {s s' : Service}

/-! ## Runs -/

theorem later_zero (s : Service) : s.later 0 = s := by
  unfold later
  rw [Nat.max_zero]

/-- A move is a step, without a pause. -/
theorem step_of_move {move : Move} (h : s.move? move = some s') : Step s s' :=
  ⟨0, move, by rwa [later_zero]⟩

/-- Moves are made one after the other, without a pause. -/
def follow? (s : Service) : List Move → Option Service
  | [] => some s
  | move :: moves => (s.move? move).bind fun s => s.follow? moves

theorem follow?_append (s : Service) (moves moves' : List Move) :
    s.follow? (moves ++ moves') = (s.follow? moves).bind fun mid => mid.follow? moves' := by
  induction moves generalizing s with
  | nil => rfl
  | cons move moves ih =>
    rw [List.cons_append, follow?, follow?, Option.bind_assoc]
    exact congrArg (Option.bind _) (funext ih)

/-- What is kept by every step, whosever turn it is and however long it waits. -/
structure Closed (P : Service → Prop) : Prop where
  wait : ∀ {s : Service}, P s → ∀ time, P (s.moveClock time)
  pass : ∀ {s : Service}, P s → ∀ turns, P { s with turns := turns }
  step : ∀ {s s' : Service}, P s → Step s s' → P s'

section Closed

variable {P : Service → Prop}

/-- It is kept by moves. -/
theorem Closed.follow (hP : Closed P) (h : P s) {moves : List Move}
    (hs : s.follow? moves = some s') : P s' := by
  induction moves generalizing s with
  | nil =>
    rw [follow?, Option.some.injEq] at hs
    exact hs ▸ h
  | cons move moves ih =>
    obtain ⟨mid, hmid, hrest⟩ := Option.bind_eq_some_iff.1 hs
    exact ih (hP.step h (step_of_move hmid)) hrest

theorem Closed.takeTurn (hP : Closed P) (h : P s) (hs : s.takeTurn? = some s') : P s' := by
  unfold takeTurn? at hs
  split at hs
  · cases hs
  · next party rest hturns =>
    rw [Option.some.injEq] at hs
    subst hs
    cases hfind : party.moves.findSome? s.move? with
    | none => exact hP.pass h rest
    | some s' =>
      obtain ⟨move, -, hmove⟩ := List.exists_of_findSome?_eq_some hfind
      exact hP.step h (step_of_move hmove)

theorem Closed.takeTurns (hP : Closed P) (h : P s) (fuel : Nat) : P (s.takeTurns fuel) := by
  induction fuel generalizing s with
  | zero => exact h
  | succ fuel ih =>
    unfold Service.takeTurns
    split
    · next s' hs => exact ih (hP.takeTurn h hs)
    · exact h

/-- It is kept however long the service is left to itself. -/
theorem Closed.run (hP : Closed P) (h : P s) : P s.run := hP.takeTurns h maxTurns

theorem Closed.passTime (hP : Closed P) (h : P s) (mayWait : Nat → Bool) (fuel : Nat) :
    P (Service.passTime mayWait fuel s) := by
  induction fuel generalizing s with
  | zero => exact hP.run h
  | succ fuel ih =>
    unfold Service.passTime
    simp only
    split
    · next due hdue => exact ih (hP.wait (hP.run h) due)
    · exact hP.run h

/-- And it is kept when time passes. -/
theorem Closed.runOut (hP : Closed P) (h : P s) : P s.runOut :=
  hP.run (hP.wait (hP.passTime h _ _) _)

theorem Closed.runFor (hP : Closed P) (h : P s) (ms : Nat) : P (s.runFor ms) :=
  hP.run (hP.wait (hP.passTime h _ _) _)

end Closed

theorem Reachable.closed : Closed (Reachable config modem) := ⟨.wait, .pass, .step⟩

/-- Where moves lead can be reached. -/
theorem Reachable.follow (h : Reachable config modem s) {moves : List Move}
    (hs : s.follow? moves = some s') : Reachable config modem s' := closed.follow h hs

/-- However long the service is left to itself, it stays within what can be reached. -/
theorem Reachable.run (h : Reachable config modem s) : Reachable config modem s.run := closed.run h

/-- Nor does it leave that when time passes. -/
theorem Reachable.runOut (h : Reachable config modem s) : Reachable config modem s.runOut :=
  closed.runOut h

theorem Reachable.runFor (h : Reachable config modem s) (ms : Nat) :
    Reachable config modem (s.runFor ms) := closed.runFor h ms

/-! ## Inputs -/

/-- A message from outside: nobody in the service waits for the answer, there is no grant in
it, and it subscribes an observer, if it does. -/
def IsForeign : Message Caller Sink → Prop
  | .request _ request handle =>
    request.isAcquire = false ∧ ∀ u k tracked client, handle ≠ some (.relay u k tracked client)
  | .subscribe _ sink handle => sink ≠ .arbiter ∧
    ∀ u k tracked client, handle ≠ .relay u k tracked client
  | .unsubscribe .. | .shutdown => False

/-- What an input changes. -/
inductive Intake (s : Service) : Service → Prop where
  | nothing : Intake s s
  /-- A message is put into a mailbox. -/
  | mailed {t : Tenant} {p : Post} (nextId : Nat) {m : Message Caller Sink}
      (hp : s.post? t = some p) (hm : IsForeign m) :
      Intake s (s.put t { p with channel := { p.channel with
        nextId := nextId, mailbox := p.channel.mailbox ++ [m] } })
  /-- A number is used up. -/
  | used {t : Tenant} {p : Post} (nextId : Nat) (hp : s.post? t = some p) :
      Intake s (s.put t { p with channel := { p.channel with nextId := nextId } })
  /-- The arbiter gets a command. -/
  | commanded {c : Arbiter.Command Client} {number : Nat} (hc : c.client? = some (.call number)) :
      Intake s { s with commands := s.commands ++ [c] }
  /-- The modem gets a control. -/
  | controlled {c : Control} (hc : c ≠ .shutdown) : Intake s { s with controls := s.controls ++ [c] }

theorem put_eq {c : Channel Caller Sink} (h : c.isOpen = true) (m : Message Caller Sink) :
    c.put m = ({ c with mailbox := c.mailbox ++ [m] }, true) := if_pos h

theorem call_eq {c : Channel Caller Sink} (h : c.isOpen = true) (request : Request)
    (handle : Nat → Caller) :
    c.call request handle = ({ c with
      nextId := c.nextId + 1
      mailbox := c.mailbox ++ [.request c.nextId request (some (handle c.nextId))] }, true) :=
  if_pos h

/-- A posted request is put into the mailbox of a switch that runs, or only its number is used up. -/
theorem post_cases (c : Channel Caller Sink) (request : Request) :
    (c.post request).1 = { c with nextId := c.nextId + 1 } ∨
    c.isOpen = true ∧ (c.post request).1 = { c with
      nextId := c.nextId + 1, mailbox := c.mailbox ++ [.request c.nextId request none] } := by
  unfold Channel.post Channel.offer
  simp only
  split
  · exact .inl rfl
  · next hopen =>
    split
    · exact .inl rfl
    · exact .inr ⟨not_not.1 hopen, rfl⟩

theorem intake_of_call (h : s.Wired) (number : Nat) (t : Tenant) {request : Request}
    (hr : request.isAcquire = false) : Intake s.still (s.accept number (.call t request)).still := by
  unfold accept
  simp only
  split
  · exact .nothing
  · next p hp =>
    have hp' : s.post? t = some p := hp
    rw [call_eq (h.posts t p hp').isOpen, if_pos rfl, still_wake, amend_eq hp']
    have hforeign : IsForeign (.request p.channel.nextId request
        (some (.call number p.channel.nextId request.expects))) := ⟨hr, nofun⟩
    exact .mailed (s := s.still) _ hp' hforeign

theorem intake_of_post (s : Service) (number : Nat) (t : Tenant) {request : Request}
    (hr : request.isAcquire = false) : Intake s.still (s.accept number (.post t request)).still := by
  unfold accept
  simp only
  split
  · exact .nothing
  · next p hp =>
    have hp' : s.post? t = some p := hp
    rw [still_finish, still_wake, amend_eq hp']
    have hforeign : IsForeign (.request p.channel.nextId request none) := ⟨hr, nofun⟩
    rcases post_cases p.channel request with heq | ⟨-, heq⟩
    · rw [heq]
      exact .used (s := s.still) _ hp'
    · rw [heq]
      exact .mailed (s := s.still) _ hp' hforeign

theorem intake_of_subscribe (h : s.Wired) (number : Nat) (t : Tenant) (filter : NoticeFilter) :
    Intake s.still (s.accept number (.subscribe t filter)).still := by
  unfold accept
  simp only
  split
  · exact .nothing
  · next p hp =>
    have hp' : s.post? t = some p := hp
    have hforeign : IsForeign (.subscribe filter (.observer s.nextObserver)
        (.subscription number t)) := ⟨nofun, nofun⟩
    split
    · unfold mail
      rw [still_wake, amend_eq hp, put_eq (h.posts t p hp').isOpen]
      exact .mailed (s := s.still) p.channel.nextId hp' hforeign
    · exact .nothing

/-- What every ordinary input changes. -/
theorem intake_of_accept (h : s.Wired) (number : Nat) {input : Input}
    (hi : input.isOrdinary = true) : Intake s.still (s.accept number input).still := by
  have hcommand : ∀ c : Arbiter.Command Client, c.client? = some (.call number) →
      Intake s.still (s.command c).still := by
    intro c hc
    rw [still_command h.arbiter]
    exact .commanded (s := s.still) hc
  cases input with
  | call t request => exact intake_of_call h number t (by simpa [Input.isOrdinary] using hi)
  | post t request => exact intake_of_post s number t (by simpa [Input.isOrdinary] using hi)
  | subscribe t filter => exact intake_of_subscribe h number t filter
  | activate t c => exact hcommand _ rfl
  | deactivate t c => exact hcommand _ rfl
  | setDefaultTenant t => exact hcommand _ rfl
  | status => exact hcommand _ rfl
  | isPossible t c => exact .nothing
  | nothing => exact .nothing
  | steer control =>
    unfold accept
    simp only
    rw [if_pos h.modem, still_wake]
    refine .controlled (s := s.still) ?_
    rintro rfl
    cases hi
  | stopSwitch | stopArbiter | shutdown => cases hi

/-! ## The start -/

/-- The service has just started: nothing has happened but that the modem signals the states
of the radios. -/
structure Fresh (s : Service) : Prop where
  modem : s.modemRuns = true
  arbiter : s.arbiterRuns = true
  nonempty : s.posts ≠ []
  length : s.arbiter.watches.length = s.posts.length
  owner : s.arbiter.owner = none
  pending : s.arbiter.pending = none
  reacquire : s.arbiter.reacquire = ∅
  cleanupRequested : s.arbiter.cleanupRequested = false
  outstanding : s.arbiter.outstanding = []
  outbox : s.arbiter.outbox = []
  phase : ∀ t p, s.arbiter.phaseOf? t = some p → p = .idle
  posts : ∀ t p, s.post? t = some p → ∃ capacity signals,
    p = (Post.start capacity t).signalled signals ∧ ∀ sig ∈ signals, ∃ radio, sig = .radio radio
  sinks : ∀ t p, s.post? t = some p → s.pipeline.sinks.lookup t = some ()
  jobs : s.pipeline.jobs = []
  connected : ∀ t cs, s.pipeline.modem.connected? t = some cs → cs = ∅
  violations : s.pipeline.modem.violations = 0
  controls : s.controls = []
  notices : s.notices = []
  tidings : s.tidings = []
  commands : s.commands = []
  errands : s.errands = []

/-- A switch that is attached hears of the radio. -/
theorem radio_of_mem_attach {p : Modem.Pipeline Unit} {t : Tenant} {x : Modem.Sent Unit}
    (hx : x ∈ (p.attach t ()).2) : ∃ radio, x.signal = .radio radio := by
  unfold Modem.Pipeline.attach at hx
  simp only at hx
  rcases send_cases { p with sinks := (t, ()) :: p.sinks.filter fun entry => entry.1 ≠ t } t
    ((p.modem.radio? t).map Signal.radio).toList with h | h
  · rw [h] at hx
    obtain ⟨sig, hsig, rfl⟩ := List.mem_map.1 hx
    rw [Option.mem_toList, Option.map_eq_some_iff] at hsig
    obtain ⟨radio, -, rfl⟩ := hsig
    exact ⟨radio, rfl⟩
  · rw [h] at hx
    cases hx

/-- Attaching switches to the modem changes neither its commands nor its slots, and leads to
nothing but signals on radios. -/
theorem foldl_attach (ts : List Tenant) (p : Modem.Pipeline Unit)
    (sent : List (Modem.Sent Unit)) :
    let result := ts.foldl (fun (q : Modem.Pipeline Unit × List (Modem.Sent Unit)) t =>
      ((q.1.attach t ()).1, q.2 ++ (q.1.attach t ()).2)) (p, sent)
    result.1.modem = p.modem ∧ result.1.jobs = p.jobs ∧
      (∀ t, t ∈ ts ∨ p.sinks.lookup t = some () → result.1.sinks.lookup t = some ()) ∧
      ((∀ x ∈ sent, ∃ radio, x.signal = .radio radio) →
        ∀ x ∈ result.2, ∃ radio, x.signal = .radio radio) := by
  induction ts generalizing p sent with
  | nil => exact ⟨rfl, rfl, fun t ht => ht.elim nofun id, fun h => h⟩
  | cons u ts ih =>
    obtain ⟨h1, h2, h3, h4⟩ := ih (p.attach u ()).1 (sent ++ (p.attach u ()).2)
    refine ⟨h1, h2, fun t ht => h3 t ?_, fun hsent => h4 fun x hx => ?_⟩
    · by_cases htu : t = u
      · refine .inr ?_
        simp [Modem.Pipeline.attach, htu]
      · rcases ht with ht | ht
        · exact .inl ((List.mem_cons.1 ht).resolve_left htu)
        · refine .inr ?_
          have hne : (t == u) = false := by simpa using htu
          simp only [Modem.Pipeline.attach, List.lookup_cons, hne]
          rw [Modem.lookup_filter_ne _ htu]
          exact ht
    · rcases List.mem_append.1 hx with hx | hx
      · exact hsent x hx
      · exact radio_of_mem_attach hx

theorem exists_wake_eq (s : Service) (p : Party) :
    ∃ turns, s.wake p = { s with turns := turns } := by
  unfold wake
  split
  · exact ⟨s.turns, rfl⟩
  · exact ⟨_, rfl⟩

/-- Signals reach switches that run, and nothing else happens by that. -/
theorem post?_signal (sent : List (Modem.Sent Unit)) {t : Tenant} {q : Post}
    (hq : (s.signal sent).post? t = some q) :
    ∃ p, s.post? t = some p ∧ ∃ signals, (∀ sig ∈ signals, ∃ x ∈ sent, x.signal = sig) ∧
      q = p.signalled signals := by
  induction sent generalizing s with
  | nil => exact ⟨q, hq, [], nofun, by simp [Post.signalled]⟩
  | cons x sent ih =>
    obtain ⟨p, hp, signals, hsig, rfl⟩ := ih hq
    have hposts : ((s.amend x.tenant fun post => post.addSignal x.signal).wake
        (.station x.tenant)).posts = s.posts.modify x.tenant.slot
          fun post => post.addSignal x.signal := by
      have h := congrArg Service.posts (still_wake
        (s.amend x.tenant fun post => post.addSignal x.signal) (.station x.tenant))
      exact h
    unfold post? at hp
    rw [hposts, List.getElem?_modify] at hp
    obtain ⟨p₀, hp₀, heq⟩ := Option.map_eq_some_iff.1 hp
    refine ⟨p₀, hp₀, ?_⟩
    have hadd : ∃ more, (∀ sig ∈ more, x.signal = sig) ∧ p = p₀.signalled more := by
      rw [← heq]
      split
      · unfold Post.addSignal
        split
        · exact ⟨[x.signal], by simp, rfl⟩
        · exact ⟨[], nofun, by simp [Post.signalled]⟩
      · exact ⟨[], nofun, by simp [Post.signalled]⟩
    obtain ⟨more, hmore, rfl⟩ := hadd
    refine ⟨more ++ signals, fun sig hmem => ?_, by simp [Post.signalled]⟩
    rcases List.mem_append.1 hmem with hmem | hmem
    · exact ⟨x, List.mem_cons_self, hmore sig hmem⟩
    · obtain ⟨y, hy, heq⟩ := hsig sig hmem
      exact ⟨y, List.mem_cons_of_mem _ hy, heq⟩

/-- Signals change nothing but posts and turns. -/
theorem exists_signal_eq (sent : List (Modem.Sent Unit)) :
    ∃ posts turns, s.signal sent = { s with posts := posts, turns := turns } ∧
      posts.length = s.posts.length := by
  induction sent generalizing s with
  | nil => exact ⟨s.posts, s.turns, rfl, rfl⟩
  | cons x sent ih =>
    obtain ⟨turns₁, hwake⟩ := exists_wake_eq (s.amend x.tenant fun post => post.addSignal x.signal)
      (.station x.tenant)
    obtain ⟨posts, turns, heq, hlen⟩ := ih (s := { s.amend x.tenant fun post =>
      post.addSignal x.signal with turns := turns₁ })
    refine ⟨posts, turns, ?_, hlen.trans (length_amend s x.tenant _)⟩
    have hstep : s.signal (x :: sent) = (((s.amend x.tenant fun post =>
        post.addSignal x.signal).wake (.station x.tenant)).signal sent) := rfl
    rw [hstep, hwake, heq]
    rfl

theorem getElem?_tenants (config : ArbiterConfig) (i : Nat) :
    config.tenants[i]? = if i < config.tenantCount then some ⟨i⟩ else none := by
  unfold ArbiterConfig.tenants Tenant.firsts
  rw [List.getElem?_map]
  by_cases h : i < config.tenantCount
  · simp [h]
  · simp [h]

theorem tenantCount_pos {config : ArbiterConfig} (h : config.fault? = none) :
    config.tenantCount ≠ 0 := by
  intro hzero
  rw [ArbiterConfig.fault?, if_pos hzero] at h
  cases h

/-- The service on a modem, before the modem has signalled the states of the radios. -/
def booted (config : ArbiterConfig) (pipeline : Modem.Pipeline Unit) : Service where
  pipeline := pipeline
  posts := config.tenants.map (Post.start config.mailboxCapacity)
  arbiter := Arbiter.start config
  turns := .modem :: config.tenants.map .station ++ [.arbiter]

theorem ofConfig_eq (config : ArbiterConfig) (modem : ModemConfig) :
    ∃ pipeline sent, ofConfig config modem = (booted config pipeline).signal sent ∧
      pipeline.modem = Modem.ofConfig modem ∧ pipeline.jobs = [] ∧
      (∀ t ∈ config.tenants, pipeline.sinks.lookup t = some ()) ∧
      ∀ x ∈ sent, ∃ radio, x.signal = .radio radio := by
  obtain ⟨hmodem, hjobs, hsinks, hradio⟩ := foldl_attach config.tenants (.ofConfig modem) []
  exact ⟨_, _, rfl, hmodem, hjobs, fun t ht => hsinks t (.inl ht), hradio nofun⟩

/-! ## A service that starts -/

/-- The switches start out idle, one for each tenant. -/
theorem post?_booted {config : ArbiterConfig} {pipeline : Modem.Pipeline Unit} {t : Tenant}
    {p : Post} (hp : (booted config pipeline).post? t = some p) :
    t ∈ config.tenants ∧ p = Post.start config.mailboxCapacity t := by
  have hp' : (config.tenants.map (Post.start config.mailboxCapacity))[t.slot]? = some p := hp
  rw [List.getElem?_map, getElem?_tenants] at hp'
  by_cases hlt : t.slot < config.tenantCount
  · rw [if_pos hlt, Option.map_some, Option.some.injEq] at hp'
    refine ⟨List.mem_of_getElem? (i := t.slot) ?_, hp'.symm⟩
    rw [getElem?_tenants, if_pos hlt]
  · rw [if_neg hlt] at hp'
    cases hp'

theorem length_posts_booted (config : ArbiterConfig) (pipeline : Modem.Pipeline Unit) :
    (booted config pipeline).posts.length = config.tenantCount := by
  simp [booted, ArbiterConfig.tenants, Tenant.firsts]

theorem eq_idle_of_phaseOf?_start {config : ArbiterConfig} {t : Tenant} {p : Phase}
    (hp : (Arbiter.start config).phaseOf? t = some p) : p = .idle := by
  unfold Arbiter.phaseOf? Arbiter.lastSeen? Arbiter.watch? Arbiter.start at hp
  simp only [List.getElem?_map, Option.map_map, Option.map_eq_some_iff] at hp
  obtain ⟨u, -, rfl⟩ := hp
  rfl

/-- A service is fresh whose arbiter, switches and modem have just started, whatever signals on
radios the switches have. -/
theorem fresh_of_booted {config : ArbiterConfig} {modem : ModemConfig}
    {pipeline : Modem.Pipeline Unit} {sent : List (Modem.Sent Unit)} (hfault : config.fault? = none)
    (hmodem : pipeline.modem = Modem.ofConfig modem) (hjobs : pipeline.jobs = [])
    (hsinks : ∀ t ∈ config.tenants, pipeline.sinks.lookup t = some ())
    (hradio : ∀ x ∈ sent, ∃ radio, x.signal = .radio radio) :
    Fresh ((booted config pipeline).signal sent) := by
  have hposts : ∀ t p, ((booted config pipeline).signal sent).post? t = some p →
      t ∈ config.tenants ∧ ∃ capacity signals, p = (Post.start capacity t).signalled signals ∧
        ∀ sig ∈ signals, ∃ radio, sig = .radio radio := by
    intro t p hp
    obtain ⟨q, hq, signals, hsignals, rfl⟩ := post?_signal sent hp
    obtain ⟨ht, rfl⟩ := post?_booted hq
    refine ⟨ht, _, signals, rfl, fun sig hsig => ?_⟩
    obtain ⟨x, hx, rfl⟩ := hsignals sig hsig
    exact hradio x hx
  obtain ⟨posts, turns, heq, hlen⟩ := exists_signal_eq (s := booted config pipeline) sent
  rw [length_posts_booted] at hlen
  rw [heq] at hposts ⊢
  exact {
    modem := rfl
    arbiter := rfl
    nonempty := by
      rintro rfl
      exact tenantCount_pos hfault hlen.symm
    length := by
      rw [hlen]
      simp [booted, Arbiter.start, ArbiterConfig.tenants, Tenant.firsts]
    owner := rfl
    pending := rfl
    reacquire := rfl
    cleanupRequested := rfl
    outstanding := rfl
    outbox := rfl
    phase := fun t p hp => eq_idle_of_phaseOf?_start hp
    posts := fun t p hp => (hposts t p hp).2
    sinks := fun t p hp => hsinks t (hposts t p hp).1
    jobs := hjobs
    connected := fun t cs hcs => Modem.eq_empty_of_connected?_ofConfig (hmodem ▸ hcs)
    violations := congrArg Modem.violations hmodem
    controls := rfl
    notices := rfl
    tidings := rfl
    commands := rfl
    errands := rfl }

/-- A service that starts is fresh. -/
theorem fresh_start {config : ArbiterConfig} {modem : ModemConfig}
    (h : Service.start config modem = .ok s) : Fresh s := by
  unfold start at h
  split at h
  · cases h
  · next hfault =>
    rw [Except.ok.injEq] at h
    obtain ⟨pipeline, sent, heq, hmodem, hjobs, hsinks, hradio⟩ := ofConfig_eq config modem
    rw [← h, heq]
    exact fresh_of_booted hfault hmodem hjobs hsinks hradio

end DataPath.Service
