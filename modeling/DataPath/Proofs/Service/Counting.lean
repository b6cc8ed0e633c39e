import DataPath.Proofs.Service.Wiring

/-!
# Grants are neither lost nor multiplied

The grants under way are the outstanding ones at all times (`Counted`).  A switch answers
with whoever waits, parks him, or sends him on to the arbiter, and a courier hands him on.
The arbiter sends every new grant to one place, and takes a grant out of the outstanding ones
when the answer arrives.

So a mailbox with a grant in it tells that a grant is outstanding (`Counted.backed`).
-/

namespace DataPath.Service

variable {s s' : Service} {g : Grant} {t : Tenant} {p : Post}

/-! ## The weight of what holds no grant -/

theorem news_held (g : Grant) (ns : List Notice) : (Scale.held g).news ns = 0 := by
  induction ns with
  | nil => rfl
  | cons n ns ih => rw [Scale.news_cons, ih]; rfl

theorem told_held (g : Grant) (signals : List Signal) : (Scale.held g).told signals = 0 := by
  induction signals with
  | nil => rfl
  | cons signal signals ih => rw [Scale.told_cons, ih]; rfl

theorem mail_held (g : Grant) (p q : Phase) (ms : List (Message Caller Sink)) :
    (Scale.held g).mail p ms = (Scale.held g).mail q ms := rfl

/-- The weight of errands that a switch gives for everything that was parked. -/
theorem load_replayed (σ : Scale) (t : Tenant) (radio : Radio) (ps : List (Switch.Parked Caller)) :
    σ.load ((ps.flatMap fun p => (Switch.replayed t radio p).2).flatMap (errandsOf t)) =
      (ps.map fun p => σ.load ((Switch.replayed t radio p).2.flatMap (errandsOf t))).sum := by
  induction ps with
  | nil => rfl
  | cons p ps ih =>
    rw [List.flatMap_cons, List.flatMap_append, Scale.load_append, ih, List.map_cons, List.sum_cons]

theorem load_replayed_held (g : Grant) (t : Tenant) (radio : Radio)
    (ps : List (Switch.Parked Caller)) :
    (Scale.held g).load ((ps.flatMap fun p => (Switch.replayed t radio p).2).flatMap (errandsOf t)) =
      (Scale.held g).kept ps := by
  rw [load_replayed]
  refine congrArg List.sum (List.map_congr_left fun p _ => ?_)
  unfold Switch.replayed
  split
  · exact (chained_held g).load_replyTo t p.handle p.id _
  · simp only [List.flatMap_cons, List.flatMap_nil, List.append_nil, errandsOf, Scale.load_cons,
      Scale.load_nil, Nat.add_zero]
    exact chain_getD p.handle

/-! ## Moves of a switch -/

theorem weigh_heard_held (h : p.Wired t) (g : Grant) (hp : s.post? t = some p) {signal : Signal}
    {rest : List Signal} (hsig : p.signals = signal :: rest) :
    weigh (Scale.held g) (s.after t { p with signals := rest } (p.station.switch.hear signal)) =
      weigh (Scale.held g) s := by
  have hw := weigh_heard (Scale.held g) hp hsig (p.station.switch.hear signal)
  obtain ⟨hten, -, -, hcase⟩ := hear_cases h.arbitrated h.outbox signal
  have hsignal : (Scale.held g).signal signal = 0 := rfl
  have hphase : ∀ u q, (Scale.held g).phase u q = 0 := fun _ _ => rfl
  have hjob : (Scale.held g).job = 0 := rfl
  have hmail := mail_held g (p.station.switch.hear signal).phase p.station.switch.phase
    p.channel.mailbox
  rw [hsignal, hphase, hphase, hjob, news_held, hmail] at hw
  have hkept : (Scale.held g).kept (p.station.switch.hear signal).parked +
      (Scale.held g).load ((Switch.answers (p.station.switch.hear signal).outbox).flatMap
        (errandsOf t)) = (Scale.held g).kept p.station.switch.parked := by
    cases hcase with
    | released token fault replaying hs htoken hrel hidle hparked hans =>
      rw [hparked, hans, h.tenant, load_replayed_held, Scale.kept_nil, Nat.zero_add]
    | kept hfollows hidle hparked hans =>
      rw [hparked, hans, List.flatMap_nil, Scale.load_nil, Nat.add_zero]
  omega

/-- Whoever waits for the answer to a request is answered, parked, or sent on. -/
theorem kept_handled {sw sw' : Switch Caller} {id : Nat} {request : Request}
    {handle : Option Caller} {new : List (Switch.Effect Caller)}
    (h : Switch.Handled sw id request handle sw' new) (g : Grant) (t : Tenant) :
    (Scale.held g).kept sw'.parked +
        (Scale.held g).load ((Switch.answers new).flatMap (errandsOf t)) =
      (Scale.held g).kept sw.parked + handleChain (isTracked g) 0 handle := by
  cases h with
  | answered body hans hparked =>
    rw [hans, hparked, (chained_held g).load_replyTo]
  | parked c hwant hphase hans hparked =>
    rw [hans, hparked, List.flatMap_nil, Scale.load_nil, Scale.kept_append]
    rfl
  | asked c hwant hphase hans hparked =>
    have hload : (Scale.held g).load ([.askOwnership id c handle].flatMap (errandsOf t)) =
        handleChain (isTracked g) 0 handle := by
      simp only [List.flatMap_cons, List.flatMap_nil, List.append_nil, errandsOf,
        Scale.load_cons, Scale.load_nil, Nat.add_zero]
      exact chain_getD handle
    rw [hans, hparked, hload]

theorem weigh_read_held (h : p.Wired t) (g : Grant) (hp : s.post? t = some p) {id : Nat}
    {request : Request} {handle : Option Caller} {rest : List (Message Caller Sink)}
    (hmail : p.channel.mailbox = .request id request handle :: rest) :
    weigh (Scale.held g)
        (s.after t (p.unread rest) (p.station.switch.handle id request handle)) =
      weigh (Scale.held g) s := by
  have hw := weigh_read (Scale.held g) hp hmail (p.station.switch.handle id request handle)
  obtain ⟨hten, -, -, -, -, hcase⟩ := read_cases h.arbitrated h.outbox id request handle
  have hletter : ∀ q, (Scale.held g).letter q (.request id request handle) =
      handleChain (isTracked g) 0 handle := fun _ => rfl
  have hphase : ∀ u q, (Scale.held g).phase u q = 0 := fun _ _ => rfl
  have hjob : (Scale.held g).job = 0 := rfl
  have hrest := mail_held g (p.station.switch.handle id request handle).phase
    p.station.switch.phase rest
  rw [hletter, hphase, hphase, hjob, news_held, hrest] at hw
  have hkept := kept_handled hcase g t
  omega

/-! ## Turns of the arbiter -/

theorem stamp_held (g : Grant) {l : Letter} (h : ∃ p, s.post? l.tenant = some p) :
    (Scale.held g).stamp s l = isTracked g l.tracked + l.client.holds g := by
  obtain ⟨p, hp⟩ := h
  unfold Scale.stamp
  rw [hp, Option.elim_some]
  exact Caller.chain_relay l.tenant 0 l.tracked l.client

/-- Every connect that is sent holds its own grant. -/
theorem sum_isTracked (g : Grant) (sent : List Arbiter.Sending) :
    (sent.map fun e => isTracked g (some (.grant e.grant))).sum =
      (sent.map Arbiter.Sending.grant).count g := by
  induction sent with
  | nil => rfl
  | cons e sent ih =>
    rw [List.map_cons, List.sum_cons, ih, List.map_cons, List.count_cons, Nat.add_comm]
    simp [isTracked]

/-- Who is sent anything by the arbiter has a post. -/
theorem exists_post_of_turn {a mid : Arbiter} (h : s.Wired)
    (hlen : mid.watches.length = s.arbiter.watches.length) {more : Nat}
    {sent : List Arbiter.Sending} {asked : List Tenant}
    (hturn : Arbiter.Turn more mid a sent asked) {o : Tenant} (ho : a.owner = some o) :
    ∃ p, s.post? o = some p := by
  refine Wired.exists_post ?_
  have hknown := hturn.orderly.known o ho
  rw [Arbiter.knows, hturn.watches, hlen, h.length, decide_eq_true_iff] at hknown
  exact hknown

/-- The letters of a turn hold its new grants. -/
theorem sum_stamp_held {a mid : Arbiter} (h : s.Wired)
    (hlen : mid.watches.length = s.arbiter.watches.length) {more : Nat}
    {sent : List Arbiter.Sending} {asked : List Tenant}
    (hturn : Arbiter.Turn more mid a sent asked) (g : Grant) {new : List Arbiter.Effect}
    (hsent : Arbiter.sendings new ⊆ sent) (hasked : Arbiter.cleaned new ⊆ asked) :
    ((new.filterMap letterOf).map ((Scale.held g).stamp s)).sum =
      ((Arbiter.sendings new).map Arbiter.Sending.grant).count g := by
  have hacquire : ∀ e ∈ Arbiter.sendings new, (Scale.held g).stamp s
      ⟨e.tenant, .acquire e.dataClass e.grant, some (.grant e.grant), .nobody⟩ =
      isTracked g (some (.grant e.grant)) := by
    intro e he
    rw [stamp_held g (exists_post_of_turn h hlen hturn (hturn.sending e (hsent he)))]
    simp [Client.holds]
  have hclean : ∀ u ∈ Arbiter.cleaned new, (Scale.held g).stamp s
      ⟨u, .cleanupAll, some .cleanup, .nobody⟩ = 0 := by
    intro u hu
    rw [stamp_held g (exists_post_of_turn h hlen hturn (hturn.asking u (hasked hu)).2)]
    simp [Client.holds, isTracked]
  rw [sum_map_letterOf, List.map_congr_left hacquire, List.map_congr_left hclean, sum_isTracked]
  simp

theorem arbiter_ruled (s : Service) (a : Arbiter) (ls : List Letter) (es : List Errand) :
    (s.ruled a ls es).arbiter = a := by
  rw [ruled_eq]

/-- The answer to a command holds what the command held. -/
theorem load_answer (g : Grant) {command : Arbiter.Command Client} {client : Client}
    {answer : Answer} (hclient : command.client? = some client)
    (hanswer : command.wantsOutcome = true ↔ ∃ o, answer = .outcome o) :
    (Scale.held g).load (client.errands answer) = (Scale.held g).command command := by
  have hplain : command.wantsOutcome = false → client.errands answer = [] := by
    intro hno
    cases answer with
    | outcome o =>
      rw [hanswer.2 ⟨o, rfl⟩] at hno
      cases hno
    | _ => cases client <;> rfl
  cases command with
  | activate t c k | deactivate t c k =>
    obtain ⟨o, rfl⟩ := hanswer.1 rfl
    cases hclient
    exact (chained_held g).load_outcome _ o
  | status k | setDefaultTenant t k =>
    rw [hplain rfl]
    rfl
  | shutdown => cases hclient

/-- A turn of the arbiter with the letters of its effects. -/
theorem Counted.ruled {a mid : Arbiter} (hc : Counted s mid) (h : s.Wired)
    (hlen : mid.watches.length = s.arbiter.watches.length) {more : Nat}
    {new : List Arbiter.Effect}
    (hturn : Arbiter.Turn more mid a (Arbiter.sendings new) (Arbiter.cleaned new)) :
    Counted (s.ruled a (new.filterMap letterOf) []) a := by
  intro g
  rw [weigh_ruled, sum_stamp_held h hlen hturn g (List.Subset.refl _) (List.Subset.refl _),
    hc g, hturn.outstanding, List.count_append, Scale.load_nil, Nat.add_zero]

/-- The arbiter takes a notice. -/
theorem Counted.noted (hc : Counted s s.arbiter) {n : Notice} {rest : List Notice} {mid : Arbiter}
    (hnotices : s.notices = n :: rest) (hn : Arbiter.Notes n s.arbiter mid) :
    Counted { s with notices := rest } mid := by
  intro g
  have hw := weigh_notices (Scale.held g) hnotices
  have hweight : (Scale.held g).notice n = 0 := rfl
  rw [hweight, Nat.add_zero] at hw
  rw [hw, hc g, hn.outstanding]

/-- The arbiter takes the answer to a grant. -/
theorem Counted.granted (hc : Counted s s.arbiter) {outcome : Outcome} {rest : List Tidings}
    (htidings : s.tidings = ⟨t, .grant g, outcome⟩ :: rest) :
    Counted { s with tidings := rest } (s.arbiter.without g) := by
  intro k
  have hw := weigh_tidings (Scale.held k) htidings
  have hweight : (Scale.held k).tidings ⟨t, .grant g, outcome⟩ = if g = k then 1 else 0 := rfl
  have hcount : (s.arbiter.without g).outstanding.count k =
      s.arbiter.outstanding.count k - if g == k then 1 else 0 := List.count_erase
  rw [hweight, hc k] at hw
  rw [hcount]
  by_cases hgk : g = k
  · simp only [hgk, if_true, BEq.rfl] at hw ⊢
    omega
  · simp only [hgk, if_false, beq_eq_false_iff_ne.2 hgk] at hw ⊢
    exact hw

/-- The arbiter takes the answer to a request to clean up. -/
theorem Counted.cleaned (hc : Counted s s.arbiter) {outcome : Outcome} {rest : List Tidings}
    {mid : Arbiter} (htidings : s.tidings = ⟨t, .cleanup, outcome⟩ :: rest)
    (hsame : mid.outstanding = s.arbiter.outstanding) : Counted { s with tidings := rest } mid := by
  intro g
  have hw := weigh_tidings (Scale.held g) htidings
  have hweight : (Scale.held g).tidings ⟨t, .cleanup, outcome⟩ = 0 := rfl
  rw [hweight, Nat.add_zero] at hw
  rw [hw, hc g, hsame]

/-- The arbiter answers a command. -/
theorem Counted.replied (hc : Counted s s.arbiter) (h : s.Wired)
    {command : Arbiter.Command Client} {rest : List (Arbiter.Command Client)} {client : Client}
    {answer : Answer} {a : Arbiter} {new : List Arbiter.Effect} {more : Nat}
    (hcommands : s.commands = command :: rest) (hclient : command.client? = some client)
    (hanswer : command.wantsOutcome = true ↔ ∃ o, answer = .outcome o)
    (hturn : Arbiter.Turn more s.arbiter a (Arbiter.sendings new) (Arbiter.cleaned new)) :
    Counted ({ s with commands := rest }.ruled a (new.filterMap letterOf) (client.errands answer))
      a := by
  intro g
  have hw := weigh_commands (Scale.held g) hcommands
  have hload := load_answer g hclient hanswer
  rw [weigh_ruled, sum_stamp_held (h.serving hcommands) rfl hturn g (List.Subset.refl _)
    (List.Subset.refl _), hturn.outstanding, List.count_append, ← hc g]
  omega

/-- The arbiter sends a connect of somebody on, with a new grant. -/
theorem Counted.forwarded (hc : Counted s s.arbiter) (h : s.Wired) {c : DataClass}
    {client : Client} {rest : List (Arbiter.Command Client)} {a : Arbiter}
    {new : List Arbiter.Effect} {more : Nat}
    (hcommands : s.commands = .activate t c client :: rest)
    (hturn : Arbiter.Turn more s.arbiter a [⟨t, c, g⟩] (Arbiter.cleaned new))
    (hsent : Arbiter.sendings new = []) :
    Counted ({ s with commands := rest }.ruled a
      (⟨t, .acquire c g, some (.grant g), client⟩ :: new.filterMap letterOf) []) a := by
  intro k
  have hw := weigh_commands (Scale.held k) hcommands
  have hcommand : (Scale.held k).command (.activate t c client) = client.holds k := rfl
  have hwired := h.serving hcommands
  have hpost : ∃ p, ({ s with commands := rest } : Service).post? t = some p :=
    exists_post_of_turn hwired rfl hturn (hturn.sending ⟨t, c, g⟩ List.mem_cons_self)
  have hstamp : (Scale.held k).stamp { s with commands := rest }
      ⟨t, .acquire c g, some (.grant g), client⟩ =
      isTracked k (some (.grant g)) + client.holds k := stamp_held k hpost
  have hone := sum_isTracked k [⟨t, c, g⟩]
  simp only [List.map_cons, List.map_nil, List.sum_cons, List.sum_nil, Nat.add_zero] at hone
  rw [weigh_ruled, List.map_cons, List.sum_cons, hstamp,
    sum_stamp_held hwired rfl hturn k (by simp [hsent]) (List.Subset.refl _), hsent,
    hturn.outstanding, List.count_append, ← hc k, ← hw, hcommand]
  simp only [List.map_nil, List.count_nil, List.map_cons, Scale.load_nil, ← hone]
  omega

/-- The arbiter sends a disconnect of somebody on. -/
theorem Counted.passed (hc : Counted s s.arbiter) (h : s.Wired) {c : DataClass}
    {client : Client} {rest : List (Arbiter.Command Client)} {a : Arbiter} {more : Nat}
    (hcommands : s.commands = .deactivate t c client :: rest) (hknown : s.arbiter.knows t = true)
    (hturn : Arbiter.Turn more s.arbiter a [] []) :
    Counted ({ s with commands := rest }.ruled a [⟨t, .disconnect c, none, client⟩] []) a := by
  intro k
  have hw := weigh_commands (Scale.held k) hcommands
  have hcommand : (Scale.held k).command (.deactivate t c client) = client.holds k := rfl
  have hpost : ∃ p, ({ s with commands := rest } : Service).post? t = some p :=
    Wired.exists_post ((h.knows_iff t).1 hknown)
  have hstamp : (Scale.held k).stamp { s with commands := rest }
      ⟨t, .disconnect c, none, client⟩ = isTracked k none + client.holds k := stamp_held k hpost
  have hnone : isTracked k none = 0 := rfl
  rw [weigh_ruled, List.map_cons, List.sum_cons, hstamp, hnone, hturn.outstanding,
    List.count_append, ← hc k, ← hw, hcommand]
  simp only [List.map_nil, List.sum_nil, List.count_nil, Scale.load_nil]
  omega

/-! ## Couriers -/

/-- Whoever asks for the ownership is asked for by a command. -/
theorem weigh_asked_held (g : Grant) {id : Nat} {c : DataClass} {caller : Caller}
    {before rest : List Errand} (herrands : s.errands = before ++ .ask t id c caller :: rest) :
    weigh (Scale.held g) { s with
        errands := before ++ rest
        commands := s.commands ++ [.activate t c (.ask t id caller)] } =
      weigh (Scale.held g) s := by
  have hw := weigh_asked (Scale.held g) herrands
  have hcommand : (Scale.held g).command (.activate t c (.ask t id caller)) =
      (Scale.held g).errand (.ask t id c caller) := by
    have hchain : (Client.ask t id caller).chain (isTracked g) 0 =
        0 + caller.chain (isTracked g) 0 := Client.chain_ask t id caller
    rw [Nat.zero_add] at hchain
    exact hchain
  rw [hcommand] at hw
  exact Nat.add_right_cancel hw

theorem weigh_brought_held (g : Grant) {id : Nat} {caller : Caller} {outcome : Outcome}
    {before rest : List Errand}
    (herrands : s.errands = before ++ .answer t id caller outcome :: rest) :
    weigh (Scale.held g) ({ s with errands := before ++ rest }.give
      (caller.errands (some ⟨id, .outcome outcome⟩))) = weigh (Scale.held g) s := by
  have hw := weigh_errands (Scale.held g) herrands
  have hanswer : (Scale.held g).errand (.answer t id caller outcome) =
      caller.chain (isTracked g) 0 := rfl
  rw [weigh_give, (chained_held g).load_caller]
  omega

theorem weigh_settled_held (g : Grant) {id : Nat} {tracked : Option Arbiter.Tracked}
    {client : Client} {outcome : Outcome} {before rest : List Errand}
    (herrands : s.errands = before ++ .settle t id tracked client outcome :: rest) :
    weigh (Scale.held g) ({ s with
        errands := before ++ rest
        tidings := s.tidings ++ (tracked.map fun x => (⟨t, x, outcome⟩ : Tidings)).toList }.give
      (client.errands (.outcome outcome))) = weigh (Scale.held g) s := by
  have hw := weigh_settled (Scale.held g) herrands (client.errands (.outcome outcome))
  have hsettle : (Scale.held g).errand (.settle t id tracked client outcome) =
      isTracked g tracked + client.chain (isTracked g) 0 := rfl
  have htracked : (tracked.elim 0 fun x => (Scale.held g).tidings ⟨t, x, outcome⟩) =
      isTracked g tracked := by
    cases tracked <;> rfl
  rw [(chained_held g).load_outcome, hsettle, htracked] at hw
  omega

/-! ## All changes -/

/-- The grants under way stay the outstanding ones. -/
theorem Counted.change (h : s.Wired) (hc : Counted s s.arbiter) (hch : Change s s') :
    Counted s' s'.arbiter := by
  have hsame : s'.arbiter = s.arbiter →
      (∀ g, weigh (Scale.held g) s' = weigh (Scale.held g) s) → Counted s' s'.arbiter := by
    intro harb hw g
    rw [hw g, hc g, harb]
  -- What signals tell weighs nothing, and neither do jobs and controls.
  have htold : ∀ {signals : List Signal} {x y : Nat} (g : Grant),
      x + 0 = y + (Scale.held g).told signals → x = y := by
    intro signals x y g heq
    rw [told_held] at heq
    exact heq
  cases hch with
  | heard hp hsig => exact hsame rfl fun g => weigh_heard_held (h.posts _ _ hp) g hp hsig
  | read hp hmail => exact hsame rfl fun g => weigh_read_held (h.posts _ _ hp) g hp hmail
  | @subscribed t p filter sink handle rest hp hmail =>
    refine hsame rfl fun g => ?_
    have hw := weigh_enrolled (Scale.held g) hp hmail filter sink
    rw [news_held] at hw
    exact hw
  | executed hjobs hp =>
    exact hsame rfl fun g => htold g (weigh_executed (Scale.held g) hjobs hp)
  | tuned hcontrols =>
    refine hsame rfl fun g => ?_
    obtain ⟨signals, -, hw⟩ := weigh_tuned (Scale.held g) hcontrols
    exact htold g hw
  | @steered control rest pipeline hcontrols hradio halike =>
    refine hsame rfl fun g => ?_
    have hw := weigh_steered (Scale.held g) hcontrols halike
    have hnone : (Scale.held g).control control = 0 := rfl
    rw [hnone, Nat.add_zero] at hw
    exact hw
  | noted hnotices hnotes hnone hturn hout =>
    rw [arbiter_ruled]
    exact (hc.noted hnotices hnotes).ruled (h.queues _ _ _ h.commands) hnotes.length hturn
  | granted hnotices htidings hturn hout =>
    rw [arbiter_ruled]
    exact (hc.granted htidings).ruled (h.queues _ _ _ h.commands) rfl hturn
  | @cleaned t outcome rest mid a new hnotices htidings hmid hturn hout =>
    rw [arbiter_ruled]
    obtain ⟨asked, rfl⟩ := Arbiter.exists_eq_of_cleanupAnswered hmid
    have hbase : Counted { s with tidings := rest } { s.arbiter with cleanupRequested := asked } :=
      hc.cleaned htidings rfl
    exact hbase.ruled (h.queues _ _ _ h.commands) rfl hturn
  | replied hnotices htidings hcommands hclient hanswer hturn hout =>
    rw [arbiter_ruled]
    exact hc.replied h hcommands hclient hanswer hturn
  | forwarded hnotices htidings hcommands hturn hsent hout =>
    rw [arbiter_ruled]
    exact hc.forwarded h hcommands hturn hsent
  | passed hnotices htidings hcommands hknown hturn hout =>
    rw [arbiter_ruled]
    exact hc.passed h hcommands hknown hturn
  | asked herrands => exact hsame rfl fun g => weigh_asked_held g herrands
  | brought herrands => exact hsame rfl fun g => weigh_brought_held g herrands
  | settled herrands => exact hsame rfl fun g => weigh_settled_held g herrands

/-- An input brings no grant. -/
theorem Counted.intake (hc : Counted s s.arbiter) (hi : Intake s s') : Counted s' s'.arbiter := by
  intro g
  have hsame := hc g
  cases hi with
  | nothing => exact hsame
  | @mailed t p nextId m hp hm =>
    have hw := weigh_mailed (Scale.held g) hp nextId [m]
    have hnone : (Scale.held g).mail p.station.switch.phase [m] = 0 := by
      cases m with
      | request id request handle =>
        cases handle with
        | none => rfl
        | some caller =>
          cases caller with
          | relay u k tracked client => exact absurd rfl (hm.2 u k tracked client)
          | _ => simp [Scale.mail, Scale.held]
      | _ => rfl
    rw [hnone] at hw
    exact hw.trans hsame
  | @used t p nextId hp =>
    have hw := weigh_mailed (Scale.held g) hp nextId []
    simp only [List.append_nil] at hw
    exact hw.trans hsame
  | @commanded c number hclient =>
    have hnone : (Scale.held g).command c = 0 := by
      cases c with
      | activate t d k | deactivate t d k =>
        cases hclient
        exact Client.chain_call (w := isTracked g) (b := 0) number
      | _ => rfl
    have hw : weigh (Scale.held g) { s with commands := s.commands ++ [c] } =
        weigh (Scale.held g) s + (Scale.held g).command c := by
      unfold weigh
      simp only [List.map_append, List.sum_append, List.map_cons, List.map_nil, List.sum_cons,
        List.sum_nil]
      omega
    rw [hnone] at hw
    exact hw.trans hsame
  | @controlled c hne =>
    have hw : weigh (Scale.held g) { s with controls := s.controls ++ [c] } =
        weigh (Scale.held g) s + (Scale.held g).control c := by
      unfold weigh
      simp only [List.map_append, List.sum_append, List.map_cons, List.map_nil, List.sum_cons,
        List.sum_nil]
      omega
    exact hw.trans hsame

/-- At the start there are no grants. -/
theorem Fresh.counted (h : Fresh s) : Counted s s.arbiter := by
  intro g
  rw [h.outstanding, List.count_nil]
  refine weigh_of_empty _ h.jobs h.controls h.notices h.tidings h.commands h.errands fun t p hp => ?_
  obtain ⟨capacity, signals, rfl, -⟩ := h.posts t p hp
  have hsig : (Scale.held g).told signals = 0 := told_held g signals
  unfold Scale.post
  rw [told_held]
  rfl

/-- While a connect with a grant stands in a mailbox, grants are outstanding. -/
def Backed (s : Service) (a : Arbiter) : Prop :=
  ∀ t p, s.post? t = some p → ∀ m ∈ p.channel.mailbox, m.isAcquire = true → a.outstanding ≠ []

/-- A grant that waits in a mailbox is outstanding. -/
theorem Counted.backed {a : Arbiter} (hc : Counted s a) (h : s.Wired) : Backed s a := by
  intro t p hp m hm hacq
  have hok := (h.posts t p hp).mail m hm
  cases m with
  | request id request handle =>
    cases request with
    | acquire c g =>
      obtain ⟨client, rfl⟩ := hok.1 c g rfl
      have hle := letter_le_weigh (Scale.held g) hp hm
      have hone : 1 ≤ (Scale.held g).letter p.station.switch.phase
          (.request id (.acquire c g) (some (.relay t id (some (.grant g)) client))) := by
        have hchain := Caller.chain_relay (w := isTracked g) (b := 0) t id (some (.grant g)) client
        have htracked : isTracked g (some (.grant g)) = 1 := by simp [isTracked]
        rw [htracked] at hchain
        exact Nat.le_trans (Nat.le_add_right 1 _) (Nat.le_of_eq hchain.symm)
      rw [hc g] at hle
      intro hnil
      rw [hnil, List.count_nil] at hle
      omega
    | _ => cases hacq
  | _ => cases hacq

/-- Without anything under way no grant is outstanding. -/
theorem Counted.eq_nil {a : Arbiter} (hc : Counted s a)
    (h : ∀ g, weigh (Scale.held g) s = 0) : a.outstanding = [] := by
  rw [List.eq_nil_iff_forall_not_mem]
  intro g hg
  have hpos := List.count_pos_iff.2 hg
  rw [← hc g, h g] at hpos
  exact absurd hpos (Nat.lt_irrefl 0)

end DataPath.Service
