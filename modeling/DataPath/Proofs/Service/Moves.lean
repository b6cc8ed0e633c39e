import DataPath.Proofs.Modem
import DataPath.Proofs.Service.Change

/-!
# Every move is a change

A move of a wired service is taken apart into what it takes from its queue and what it puts
elsewhere (`change_of_hear`, `change_of_read`, `change_of_execute` and so on, one lemma for
each kind of move), and put together at the end (`change_of_move`).

For the arbiter the records of the notices matter: a notice must tell of every owner that
becomes idle.  That is an assumption here, and part of the invariant of the service.
-/

namespace DataPath

namespace Service

variable {s s' : Service}

/-! ## The switches and the modem -/

theorem put_self {t : Tenant} {p : Post} (hp : s.post? t = some p) : s.put t p = s := by
  obtain ⟨hlt, heq⟩ := List.getElem?_eq_some_iff.1 hp
  unfold put
  rw [← heq, List.set_getElem_self hlt]

theorem AllOpen.put (hopen : s.AllOpen) (t : Tenant) {p : Post} (hp : p.channel.isOpen = true) :
    (s.put t p).AllOpen := by
  intro q hq
  rcases List.mem_or_eq_of_mem_set hq with hq | rfl
  · exact hopen q hq
  · exact hp

/-- The signals of one command reach the switch of its tenant. -/
theorem still_signal_map (hopen : s.AllOpen) {t : Tenant} {p : Post} (hp : s.post? t = some p)
    (signals : List Signal) :
    (s.signal (signals.map fun signal => ⟨(), t, signal⟩)).still =
      (s.put t (p.signalled signals)).still := by
  induction signals generalizing s p with
  | nil =>
    have hnone : p.signalled [] = p := by simp [Post.signalled]
    rw [hnone, put_self hp]
    rfl
  | cons sig signals ih =>
    have hop : p.channel.isOpen = true := hopen p (List.mem_of_getElem? hp)
    have hadd : p.addSignal sig = p.signalled [sig] := by
      simp [Post.addSignal, Post.signalled, hop]
    have hstill : ((s.amend t fun post => post.addSignal sig).wake (.station t)).still =
        (s.put t (p.signalled [sig])).still := by
      rw [still_wake, amend_eq hp, hadd]
    have hposts : ((s.amend t fun post => post.addSignal sig).wake (.station t)).posts =
        (s.put t (p.signalled [sig])).posts := by
      have h := congrArg Service.posts hstill
      exact h
    have hopen' : ((s.amend t fun post => post.addSignal sig).wake (.station t)).AllOpen := by
      intro q hq
      rw [hposts] at hq
      exact hopen.put t (p := p.signalled [sig]) hop q hq
    have hp' : ((s.amend t fun post => post.addSignal sig).wake (.station t)).post? t =
        some (p.signalled [sig]) := by
      unfold post?
      rw [hposts]
      exact post?_put hp _
    have hnext := ih hopen' hp'
    unfold signal at hnext ⊢
    rw [List.map_cons, List.foldl_cons, hnext]
    have hput : ∀ (x : Service) (q : Post), (x.put t q).still = x.still.put t q := fun _ _ => rfl
    rw [hput, hstill, hput, put_put, hput]
    simp [Post.signalled]

/-- A move of a wired service is a change. -/
theorem change_of_hear (h : s.Wired) {t : Tenant} (hm : s.move? (.hear t) = some s') :
    Change s.still s'.still := by
  unfold move? at hm
  simp only at hm
  split at hm
  · next p hp =>
    split at hm
    · next signal rest hsig =>
      split at hm
      · simp only [Option.some.injEq] at hm
        subst hm
        have hp' : (s.put t { p with signals := rest }).post? t = some { p with signals := rest } :=
          post?_put hp _
        have hstation : p.station.hear s.surroundings signal =
            (p.station.put (p.station.switch.hear signal),
              (p.station.switch.hear signal).drain.1.flatMap
                (Station.act p.station.subscribers)) :=
          Station.settle_eq h.accepts h.listens p.station (p.station.switch.hear signal)
        rw [amend_eq hp, hstation]
        have hstill := still_proceed hp' (p.station.switch.hear signal)
        have hput : (s.put t { p with signals := rest }).still =
            s.still.put t { p with signals := rest } := rfl
        rw [hput, put_after] at hstill
        refine Eq.subst (motive := fun x => Change s.still x) hstill.symm ?_
        exact .heard (s := s.still) hp hsig
      · cases hm
    · cases hm
  · cases hm

/-- A switch takes a request. -/
theorem still_receive_request (ha : ∀ k, s.surroundings.accepts k = true)
    (hl : ∀ sink, s.surroundings.listens sink = true) {t : Tenant} {p : Post}
    (hp : s.post? t = some p) (id : Nat) (request : Request) (handle : Option Caller) :
    (s.receive t p (.request id request handle)).still =
      s.still.after t p (p.station.switch.handle id request handle) := by
  have hstation : p.station.receive s.surroundings (.request id request handle) =
      (p.station.put (p.station.switch.handle id request handle),
        (p.station.switch.handle id request handle).drain.1.flatMap
          (Station.act p.station.subscribers)) :=
    Station.settle_eq ha hl p.station (p.station.switch.handle id request handle)
  have hreceive : s.receive t p (.request id request handle) =
      s.proceed t (p.station.receive s.surroundings (.request id request handle)) := rfl
  rw [hreceive, hstation]
  exact still_proceed hp _

/-- A switch takes a subscriber. -/
theorem still_receive_subscribe (hl : ∀ sink, s.surroundings.listens sink = true) {t : Tenant}
    {p : Post} (hp : s.post? t = some p) (filter : NoticeFilter) (sink : Sink) (handle : Caller) :
    (s.receive t p (.subscribe filter sink handle)).still = s.still.enrolled t p filter sink := by
  have hsubscribed : ∀ (x : Service) (id : Nat),
      (enact t x (.subscribed handle id)).still = x.still := by
    intro x id
    cases handle <;> rfl
  have hreceive : s.receive t p (.subscribe filter sink handle) =
      s.proceed t (p.station.subscribe s.surroundings filter sink handle) := rfl
  rw [hreceive]
  unfold proceed Station.subscribe
  rw [amend_eq hp]
  simp only [hl, and_true, List.foldl_append, List.foldl_cons, List.foldl_nil, hsubscribed]
  unfold enrolled
  by_cases hall : filter = .all
  · cases sink with
    | arbiter =>
      simp only [hall, if_true, List.foldl_cons, List.foldl_nil, still_enact_arbiter, and_self]
      rfl
    | observer k => simp [hall, enact, still, put, observe]
  · simp [hall, still, put]

theorem change_of_read (h : s.Wired) {t : Tenant} (hm : s.move? (.read t) = some s') :
    Change s.still s'.still := by
  unfold move? at hm
  simp only at hm
  split at hm
  · next p hp =>
    have hwired := h.posts t p hp
    unfold Channel.take? at hm
    split at hm
    · cases hm
    · next message rest hmail =>
      have hok := hwired.mail message (hmail ▸ List.mem_cons_self)
      have hp' : (s.put t (p.unread rest)).post? t = some (p.unread rest) := post?_put hp _
      have ha : ∀ k, (s.put t (p.unread rest)).surroundings.accepts k = true := h.accepts
      have hl : ∀ sink, (s.put t (p.unread rest)).surroundings.listens sink = true := h.listens
      have hstill : (s.put t (p.unread rest)).still = s.still.put t (p.unread rest) := rfl
      rw [Option.map_some, Option.some.injEq] at hm
      rw [← hm, amend_eq hp]
      cases message with
      | request id request handle =>
        have hreceive := still_receive_request ha hl hp' id request handle
        rw [hstill, put_after] at hreceive
        refine Eq.subst (motive := fun x => Change s.still x) hreceive.symm ?_
        exact .read (s := s.still) hp hmail
      | subscribe filter sink handle =>
        have hreceive := still_receive_subscribe hl hp' filter sink handle
        refine Eq.subst (motive := fun x => Change s.still x) hreceive.symm ?_
        rw [hstill, enrolled_put]
        exact .subscribed (s := s.still) hp hmail
      | unsubscribe => exact hok.elim
      | shutdown => exact hok.elim
  · cases hm

theorem exists_execute (hm : s.move? .execute = some s') : ∃ pipeline sent,
    s.pipeline.next? s.clock = some (pipeline, sent) ∧
      s' = ({ s with pipeline := pipeline } : Service).signal sent := by
  unfold move? at hm
  simp only at hm
  split at hm
  · obtain ⟨⟨pipeline, sent⟩, hnext, rfl⟩ := Option.map_eq_some_iff.1 hm
    exact ⟨pipeline, sent, hnext, rfl⟩
  · cases hm

theorem change_of_execute (h : s.Wired) (hm : s.move? .execute = some s') :
    Change s.still s'.still := by
  obtain ⟨pipeline, sent, hnext, rfl⟩ := exists_execute hm
  obtain ⟨job, rest, hjobs, heq⟩ := Modem.Pipeline.exists_of_next? hnext
  obtain ⟨rfl, rfl⟩ := Prod.ext_iff.1 heq
  obtain ⟨p, hp⟩ := Wired.exists_post (h.jobs job (hjobs ▸ List.mem_cons_self))
  have hsend : ({ s.pipeline with
      jobs := rest
      modem := (s.pipeline.modem.execute job.tenant job.command).1 } :
        Modem.Pipeline Unit).send job.tenant
      (Modem.signals job.token job.command
        (s.pipeline.modem.execute job.tenant job.command).2) =
      (Modem.signals job.token job.command
        (s.pipeline.modem.execute job.tenant job.command).2).map
        fun signal => ⟨(), job.tenant, signal⟩ := by
    unfold Modem.Pipeline.send
    simp only [h.sinks job.tenant p hp]
  have hopen : ({ s with pipeline := { s.pipeline with
      jobs := rest
      modem := (s.pipeline.modem.execute job.tenant job.command).1 } } : Service).AllOpen :=
    h.allOpen
  have hstill := (congrArg (fun sent => (Service.signal _ sent).still) hsend).trans
    (still_signal_map hopen hp _)
  exact hstill ▸ .executed (s := s.still) hjobs hp

/-- The signals for a tenant without a switch are lost. -/
theorem still_signal_of_none {t : Tenant} (hp : s.post? t = none) (signals : List Signal) :
    (s.signal (signals.map fun signal => ⟨(), t, signal⟩)).still = s.still := by
  induction signals generalizing s with
  | nil => rfl
  | cons sig signals ih =>
    have hstill : ((s.amend t fun post => post.addSignal sig).wake (.station t)).still = s.still := by
      rw [still_wake, amend_of_none hp]
    have hp' : ((s.amend t fun post => post.addSignal sig).wake (.station t)).post? t = none := by
      have hposts := congrArg Service.posts hstill
      have hposts' : ((s.amend t fun post => post.addSignal sig).wake (.station t)).posts =
        s.posts := hposts
      unfold post?
      rw [hposts']
      exact hp
    have hnext := ih hp'
    unfold signal at hnext ⊢
    rw [List.map_cons, List.foldl_cons, hnext, hstill]

theorem send_cases (p : Modem.Pipeline Unit) (t : Tenant) (signals : List Signal) :
    p.send t signals = (signals.map fun signal => ⟨(), t, signal⟩) ∨ p.send t signals = [] := by
  unfold Modem.Pipeline.send
  split
  · exact .inl rfl
  · exact .inr rfl

/-- The signals of the modem reach the switch of their slot, if there is one. -/
theorem still_signal_send (hopen : s.AllOpen)
    (hsinks : ∀ t p, s.post? t = some p → s.pipeline.sinks.lookup t = some ()) (t : Tenant)
    (signals : List Signal) :
    (s.signal (s.pipeline.send t signals)).still =
      s.still.amend t fun p => p.signalled signals := by
  cases hp : s.post? t with
  | none =>
    have hp' : s.still.post? t = none := hp
    rw [amend_of_none hp']
    rcases send_cases s.pipeline t signals with h | h
    · rw [h]
      exact still_signal_of_none hp signals
    · rw [h]
      rfl
  | some p =>
    have hp' : s.still.post? t = some p := hp
    have hsend : s.pipeline.send t signals = signals.map fun signal => ⟨(), t, signal⟩ := by
      unfold Modem.Pipeline.send
      rw [hsinks t p hp]
    rw [hsend, still_signal_map hopen hp signals, amend_eq hp']
    rfl

/-- The modem sets a radio. -/
theorem still_control_radio (hopen : s.AllOpen)
    (hsinks : ∀ t p, s.post? t = some p → s.pipeline.sinks.lookup t = some ()) (t : Tenant)
    (radio : Radio) (rest : List Control) :
    (({ s with controls := rest } : Service).control (.radio t radio)).still =
      s.still.tuned t radio rest := by
  have htuned : s.still.tuned t radio rest =
      { s.still with
        controls := rest
        pipeline := { s.pipeline with modem := (s.pipeline.modem.setRadio t radio).1 } }.amend t
        fun p => p.signalled
          (if (s.pipeline.modem.setRadio t radio).2 then [.radio radio] else []) := rfl
  rw [htuned]
  unfold control Modem.Pipeline.setRadio
  simp only
  split
  · exact still_signal_send (s := { s with
        controls := rest
        pipeline := { s.pipeline with modem := (s.pipeline.modem.setRadio t radio).1 } })
      hopen hsinks t [.radio radio]
  · have hnone : (fun p : Post => p.signalled []) = id := by
      funext p
      simp [Post.signalled]
    rw [hnone]
    unfold amend
    rw [List.modify_id]
    rfl

theorem change_of_steer (h : s.Wired) (hm : s.move? .steer = some s') :
    Change s.still s'.still := by
  unfold move? at hm
  simp only at hm
  split at hm
  · next control rest hcontrols =>
    split at hm
    · rw [Option.some.injEq] at hm
      have hno := h.controls control (hcontrols ▸ List.mem_cons_self)
      rw [← hm]
      cases control with
      | radio t radio =>
        rw [still_control_radio h.allOpen h.sinks]
        exact .tuned (s := s.still) hcontrols
      | failNextEnable t =>
        exact .steered (s := s.still) hcontrols rfl
          ⟨rfl, rfl, rfl, rfl, fun u => Modem.connected?_amend_keep _ t u fun _ => rfl⟩
      | failNextDisable t =>
        exact .steered (s := s.still) hcontrols rfl
          ⟨rfl, rfl, rfl, rfl, fun u => Modem.connected?_amend_keep _ t u fun _ => rfl⟩
      | hold value => exact .steered (s := s.still) hcontrols rfl ⟨rfl, rfl, rfl, rfl, fun _ => rfl⟩
      | shutdown => exact absurd rfl hno
    · cases hm
  · cases hm

/-! ## The arbiter -/

theorem drained {more : Nat} {a a' : Arbiter} {sent : List Arbiter.Sending} {asked : List Tenant}
    (h : Arbiter.Turn more a a' sent asked) :
    Arbiter.Turn more a { a' with outbox := [] } sent asked :=
  ⟨h.watches, h.outstanding, h.owner, h.sending, h.asking, h.once, h.live, h.requested, h.debt,
    ⟨h.orderly.free, h.orderly.known, h.orderly.pending, h.orderly.nodup, h.orderly.issued⟩,
    ⟨h.settled.idle, h.settled.waits⟩⟩

/-- What is among the letters of the arbiter. -/
theorem mem_letterOf {new : List Arbiter.Effect} {l : Letter} (h : l ∈ new.filterMap letterOf) :
    (∃ e ∈ Arbiter.sendings new,
      l = ⟨e.tenant, .acquire e.dataClass e.grant, some (.grant e.grant), .nobody⟩) ∨
    ∃ t ∈ Arbiter.cleaned new, l = ⟨t, .cleanupAll, some .cleanup, .nobody⟩ := by
  obtain ⟨e, he, hl⟩ := List.mem_filterMap.1 h
  cases e with
  | connect t c g =>
    rw [letterOf_connect, Option.some.injEq] at hl
    exact .inl ⟨⟨t, c, g⟩, List.mem_filterMap.2 ⟨_, he, rfl⟩, hl.symm⟩
  | cleanupAll t =>
    rw [letterOf_cleanupAll, Option.some.injEq] at hl
    exact .inr ⟨t, List.mem_filterMap.2 ⟨_, he, rfl⟩, hl.symm⟩
  | event e => cases hl

/-- Letters go to the owner. -/
theorem owner_of_letterOf {more : Nat} {a a' : Arbiter} {new : List Arbiter.Effect}
    {sent : List Arbiter.Sending} (h : Arbiter.Turn more a a' sent (Arbiter.cleaned new))
    (hsent : Arbiter.sendings new ⊆ sent) {l : Letter} (hl : l ∈ new.filterMap letterOf) :
    a'.owner = some l.tenant := by
  rcases mem_letterOf hl with ⟨e, he, rfl⟩ | ⟨t, ht, rfl⟩
  · exact h.sending e (hsent he)
  · exact (h.asking t ht).2

/-- The owner after a turn has a switch. -/
theorem Wired.lt_of_owner (h : s.Wired) {more : Nat} {mid a' : Arbiter}
    {sent : List Arbiter.Sending} {asked : List Tenant} (hturn : Arbiter.Turn more mid a' sent asked)
    (hlen : mid.watches.length = s.arbiter.watches.length) {t : Tenant} (ht : a'.owner = some t) :
    t.slot < s.posts.length := by
  have hknown := hturn.orderly.known t ht
  unfold Arbiter.knows at hknown
  rw [hturn.watches, hlen, h.length] at hknown
  simpa using hknown

/-- The arbiter concludes a turn with an action that comes first. -/
theorem conclude_eq {a : Arbiter} {new : List Arbiter.Effect} (hout : a.outbox = new)
    (acts : List (Arbiter.Action Client)) :
    a.conclude acts = ({ a with outbox := [] }, acts ++ new.map Arbiter.perform) := by
  unfold Arbiter.conclude Arbiter.drain
  simp [hout]

/-- The arbiter takes a notice when there is one. -/
theorem exists_notice (h : s.Wired) (hm : s.move? .notice = some s') :
    ∃ n rest, s.notices = n :: rest ∧
      s' = ({ s with notices := rest } : Service).resume (s.arbiter.takeNotice n) := by
  unfold move? at hm
  simp only at hm
  rw [if_neg (by simp [h.arbiter])] at hm
  split at hm
  · next n rest hnotices => exact ⟨n, rest, hnotices, (Option.some.inj hm).symm⟩
  · split at hm
    · next hdeserted =>
      unfold isDeserted at hdeserted
      obtain ⟨p, ps, hps⟩ := List.exists_cons_of_ne_nil h.nonempty
      have hmem : p ∈ s.posts := hps ▸ List.mem_cons_self
      have := List.all_eq_true.1 hdeserted p hmem
      rw [h.allOpen p hmem] at this
      cases this
    · cases hm

/-- The arbiter takes an answer when there is one, and no notice. -/
theorem exists_tidings (hm : s.move? .tidings = some s') :
    ∃ x rest, s.notices = [] ∧ s.tidings = x :: rest ∧
      s' = ({ s with tidings := rest } : Service).resume
        (s.arbiter.takeAnswer x.tenant x.tracked x.outcome) := by
  unfold move? at hm
  simp only at hm
  split at hm
  · cases hm
  · next hfree =>
    rw [not_or, not_not] at hfree
    split at hm
    · next x rest htidings =>
      exact ⟨x, rest, not_not.1 hfree.2, htidings, (Option.some.inj hm).symm⟩
    · cases hm

/-- The arbiter takes a command when there is one, and neither a notice nor an answer. -/
theorem exists_command (hm : s.move? .command = some s') :
    ∃ command rest, s.notices = [] ∧ s.tidings = [] ∧ s.commands = command :: rest ∧
      s' = ({ s with commands := rest } : Service).serve command := by
  unfold move? at hm
  simp only at hm
  split at hm
  · cases hm
  · next hfree =>
    rw [not_or, not_or, not_not, not_not] at hfree
    split at hm
    · next command rest hcommands =>
      exact ⟨command, rest, hfree.2.1, not_not.1 hfree.2.2, hcommands, (Option.some.inj hm).symm⟩
    · cases hm

theorem change_of_notice (h : s.Wired) (ho : s.arbiter.Orderly) (hs : s.arbiter.Settled)
    (hfollows : ∀ n rest, s.notices = n :: rest → (∀ t replaying, n ≠ .enteredIdle t replaying) →
      ∀ p, s.arbiter.phaseOf? n.tenant = some p → p.Follows (n.after p))
    (hm : s.move? .notice = some s') : Change s.still s'.still := by
  obtain ⟨n, rest, hnotices, rfl⟩ := exists_notice h hm
  obtain ⟨mid, new, hout, hnotes, hnone, hturn⟩ := Arbiter.hear_turn ho hs n (hfollows n rest hnotices)
  rw [h.outbox, List.nil_append] at hout
  have htake : (s.arbiter.takeNotice n : Arbiter × List (Arbiter.Action Client)) =
      ({ s.arbiter.hear n with outbox := [] }, new.map Arbiter.perform) := conclude_eq hout []
  have hopen : ({ s with notices := rest } : Service).AllOpen := h.allOpen
  rw [htake, still_resume hopen, letters_map_perform, answersOf_map_perform]
  · exact .noted (s := s.still) hnotices hnotes hnone (drained hturn) rfl
  · intro l hl
    rw [letters_map_perform] at hl
    exact h.lt_of_owner hturn hnotes.length (owner_of_letterOf hturn (List.Subset.refl _) hl)

theorem change_of_tidings (h : s.Wired) (ho : s.arbiter.Orderly) (hs : s.arbiter.Settled)
    (hm : s.move? .tidings = some s') : Change s.still s'.still := by
  obtain ⟨⟨t, tracked, outcome⟩, rest, hnotices, htidings, rfl⟩ := exists_tidings hm
  have hopen : ({ s with tidings := rest } : Service).AllOpen := h.allOpen
  cases tracked with
  | grant g =>
    obtain ⟨new, hout, hturn⟩ := Arbiter.grantAnswered_turn ho hs g
    rw [h.outbox, List.nil_append] at hout
    have htake : (s.arbiter.takeAnswer t (.grant g) outcome :
        Arbiter × List (Arbiter.Action Client)) =
        ({ s.arbiter.grantAnswered g with outbox := [] }, new.map Arbiter.perform) :=
      conclude_eq hout []
    rw [htake, still_resume hopen, letters_map_perform, answersOf_map_perform]
    · exact .granted (s := s.still) hnotices htidings (drained hturn) rfl
    · intro l hl
      rw [letters_map_perform] at hl
      exact h.lt_of_owner hturn rfl (owner_of_letterOf hturn (List.Subset.refl _) hl)
  | cleanup =>
    obtain ⟨mid, new, hout, hturn, hmid⟩ := Arbiter.cleanupAnswered_turn ho hs t outcome
    rw [h.outbox, List.nil_append] at hout
    have htake : (s.arbiter.takeAnswer t .cleanup outcome :
        Arbiter × List (Arbiter.Action Client)) =
        ({ s.arbiter.cleanupAnswered t outcome with outbox := [] }, new.map Arbiter.perform) :=
      conclude_eq hout []
    obtain ⟨asked, rfl⟩ := Arbiter.exists_eq_of_cleanupAnswered hmid
    rw [htake, still_resume hopen, letters_map_perform, answersOf_map_perform]
    · exact .cleaned (s := s.still) hnotices htidings hmid (drained hturn) rfl
    · intro l hl
      rw [letters_map_perform] at hl
      exact h.lt_of_owner hturn rfl (owner_of_letterOf hturn (List.Subset.refl _) hl)

/-- The arbiter answers a command. -/
theorem change_of_reply (h : s.Wired) {command : Arbiter.Command Client}
    {rest : List (Arbiter.Command Client)} (hnotices : s.notices = []) (htidings : s.tidings = [])
    (hcommands : s.commands = command :: rest) {client : Client}
    (hclient : command.client? = some client) {answer : Answer}
    (hanswer : command.wantsOutcome = true ↔ ∃ o, answer = .outcome o) {a : Arbiter}
    {new : List Arbiter.Effect} (hout : a.outbox = s.arbiter.outbox ++ new)
    (hturn : Arbiter.Turn (if command.isActivate then 1 else 0) s.arbiter a
      (Arbiter.sendings new) (Arbiter.cleaned new)) :
    Change s.still
      (({ s with commands := rest } : Service).resume (a.conclude [.answer client answer])).still := by
  rw [h.outbox, List.nil_append] at hout
  have hopen : ({ s with commands := rest } : Service).AllOpen := h.allOpen
  rw [conclude_eq hout, still_resume hopen]
  · have hletters : letters ([Arbiter.Action.answer client answer] ++ new.map Arbiter.perform) =
        new.filterMap letterOf := by
      simp [letters_map_perform]
    have hanswers : ([Arbiter.Action.answer client answer] ++ new.map Arbiter.perform).flatMap
        answersOf = client.errands answer := by
      rw [List.flatMap_append, answersOf_map_perform]
      simp
    rw [hletters, hanswers]
    exact .replied (s := s.still) hnotices htidings hcommands hclient hanswer (drained hturn) rfl
  · intro l hl
    rw [List.singleton_append, letters_answer, letters_map_perform] at hl
    exact h.lt_of_owner hturn rfl (owner_of_letterOf hturn (List.Subset.refl _) hl)

theorem change_of_activate (h : s.Wired) (ho : s.arbiter.Orderly) (hs : s.arbiter.Settled)
    {t : Tenant} {c : DataClass} {client : Client} {rest : List (Arbiter.Command Client)}
    (hnotices : s.notices = []) (htidings : s.tidings = [])
    (hcommands : s.commands = .activate t c client :: rest) :
    Change s.still (({ s with commands := rest } : Service).resume
      (s.arbiter.serve (.activate t c client))).still := by
  obtain ⟨new, sent, hout, hturn, hcase⟩ := Arbiter.activate_turn ho hs t c
  have hserve : s.arbiter.serve (.activate t c client) =
      (s.arbiter.activate t c).1.conclude
        [Arbiter.execute t (Arbiter.forwarded c) client (s.arbiter.activate t c).2] := rfl
  rw [hserve]
  rcases hcase with ⟨o, hverdict, rfl⟩ | ⟨g, hverdict, hnone, rfl⟩
  · rw [hverdict]
    exact change_of_reply h hnotices htidings hcommands rfl ⟨fun _ => ⟨o, rfl⟩, fun _ => rfl⟩ hout
      hturn
  · rw [hverdict]
    rw [h.outbox, List.nil_append] at hout
    have hopen : ({ s with commands := rest } : Service).AllOpen := h.allOpen
    have hletters : letters ([Arbiter.execute t (Arbiter.forwarded c) client (.forward (some g))] ++
        new.map Arbiter.perform) =
        ⟨t, .acquire c g, some (.grant g), client⟩ :: new.filterMap letterOf := by
      simp [Arbiter.execute, Arbiter.forwarded, letters_map_perform]
    have hanswers : ([Arbiter.execute t (Arbiter.forwarded c) client (.forward (some g))] ++
        new.map Arbiter.perform).flatMap answersOf = [] := by
      rw [List.flatMap_append, answersOf_map_perform]
      simp [Arbiter.execute]
    rw [conclude_eq hout, still_resume hopen, hletters, hanswers]
    · exact .forwarded (s := s.still) hnotices htidings hcommands (drained hturn) hnone rfl
    · intro l hl
      rw [hletters, List.mem_cons] at hl
      refine h.lt_of_owner hturn rfl ?_
      rcases hl with rfl | hl
      · exact hturn.sending ⟨t, c, g⟩ List.mem_cons_self
      · exact owner_of_letterOf hturn (by simp [hnone]) hl

theorem change_of_deactivate (h : s.Wired) (ho : s.arbiter.Orderly) (hs : s.arbiter.Settled)
    {t : Tenant} {c : DataClass} {client : Client} {rest : List (Arbiter.Command Client)}
    (hnotices : s.notices = []) (htidings : s.tidings = [])
    (hcommands : s.commands = .deactivate t c client :: rest) :
    Change s.still (({ s with commands := rest } : Service).resume
      (s.arbiter.serve (.deactivate t c client))).still := by
  obtain ⟨hturn, hout, hcase⟩ := Arbiter.deactivate_turn ho hs t c
  have hserve : s.arbiter.serve (.deactivate t c client) =
      (s.arbiter.deactivate t c).1.conclude
        [Arbiter.execute t (fun _ => .disconnect c) client (s.arbiter.deactivate t c).2] := rfl
  rw [hserve]
  rcases hcase with ⟨o, hverdict⟩ | hverdict
  · rw [hverdict]
    have hout' : (s.arbiter.deactivate t c).1.outbox = s.arbiter.outbox ++ [] := by simpa using hout
    exact change_of_reply h hnotices htidings hcommands rfl ⟨fun _ => ⟨o, rfl⟩, fun _ => rfl⟩ hout'
      hturn
  · rw [hverdict]
    have hknown : s.arbiter.knows t = true := by
      by_contra hno
      rw [Arbiter.deactivate, if_pos hno] at hverdict
      cases hverdict
    rw [h.outbox] at hout
    have hopen : ({ s with commands := rest } : Service).AllOpen := h.allOpen
    rw [conclude_eq hout, still_resume hopen]
    · exact .passed (s := s.still) hnotices htidings hcommands hknown (drained hturn) rfl
    · intro l hl
      have hl' : l = ⟨t, .disconnect c, none, client⟩ := by
        simpa [Arbiter.execute] using hl
      rw [hl']
      exact (h.knows_iff t).1 hknown

theorem change_of_setDefaultTenant (h : s.Wired) (ho : s.arbiter.Orderly)
    (hs : s.arbiter.Settled) {t : Option Tenant} {client : Client}
    {rest : List (Arbiter.Command Client)} (hnotices : s.notices = []) (htidings : s.tidings = [])
    (hcommands : s.commands = .setDefaultTenant t client :: rest) :
    Change s.still (({ s with commands := rest } : Service).resume
      (s.arbiter.serve (.setDefaultTenant t client))).still := by
  unfold Arbiter.serve
  simp only
  split
  · next a hset =>
    obtain ⟨hturn, hout⟩ := Arbiter.setDefaultTenant_turn ho hs hset
    have hout' : a.outbox = s.arbiter.outbox ++ [] := by simpa using hout
    refine change_of_reply h hnotices htidings hcommands rfl ?_ hout' hturn
    exact ⟨nofun, nofun⟩
  · have hsame : s.arbiter.outbox = s.arbiter.outbox ++ [] := by simp
    refine change_of_reply h hnotices htidings hcommands rfl ?_ hsame (Arbiter.Turn.refl ho hs)
    exact ⟨nofun, nofun⟩

theorem change_of_command (h : s.Wired) (ho : s.arbiter.Orderly) (hs : s.arbiter.Settled)
    (hm : s.move? .command = some s') : Change s.still s'.still := by
  obtain ⟨command, rest, hnotices, htidings, hcommands, rfl⟩ := exists_command hm
  have hsame : s.arbiter.outbox = s.arbiter.outbox ++ [] := by simp
  cases command with
  | activate t c client => exact change_of_activate h ho hs hnotices htidings hcommands
  | deactivate t c client => exact change_of_deactivate h ho hs hnotices htidings hcommands
  | status client =>
    refine change_of_reply h hnotices htidings hcommands rfl ?_ hsame (Arbiter.Turn.refl ho hs)
    exact ⟨nofun, nofun⟩
  | setDefaultTenant t client =>
    exact change_of_setDefaultTenant h ho hs hnotices htidings hcommands
  | shutdown => exact absurd rfl (h.commands _ (hcommands ▸ List.mem_cons_self))

/-! ## The couriers -/

/-- The first errand of a courier, and what stands around it. -/
theorem exists_takeErrand? {courier : Courier} {errands rest : List Errand} {errand : Errand}
    (h : takeErrand? courier errands = some (errand, rest)) :
    ∃ before after, errands = before ++ errand :: after ∧ rest = before ++ after := by
  unfold takeErrand? at h
  obtain ⟨e, hfind, heq⟩ := Option.map_eq_some_iff.1 h
  simp only [Prod.mk.injEq] at heq
  obtain ⟨rfl, rfl⟩ := heq
  rw [List.find?_eq_some_iff_append] at hfind
  obtain ⟨hmatch, before, after, hsplit, hbefore⟩ := hfind
  refine ⟨before, after, hsplit, ?_⟩
  have hcourier : e.courier = courier := by simpa using hmatch
  rw [hsplit, List.eraseP_append_right _ (by simpa using hbefore)]
  simp [hcourier]

/-- A command reaches the arbiter. -/
theorem still_command (hruns : s.arbiterRuns = true) (c : Arbiter.Command Client) :
    (s.command c).still = { s.still with commands := s.commands ++ [c] } := by
  unfold command
  rw [if_pos hruns, still_wake]
  rfl

/-- The outcome of a request reaches the arbiter, if it tracks it, and then the client. -/
theorem still_settle (hruns : s.arbiterRuns = true) (t : Tenant)
    (tracked : Option Arbiter.Tracked) (client : Client) (outcome : Outcome) :
    (s.settle t tracked client outcome).still =
      { s.still with
        tidings := s.tidings ++ (tracked.map fun x => (⟨t, x, outcome⟩ : Tidings)).toList }.give
        (client.errands (.outcome outcome)) := by
  unfold settle
  cases tracked with
  | none =>
    rw [still_answer]
    simp [still]
  | some x =>
    simp only
    rw [still_answer, if_pos hruns, still_wake]
    rfl

theorem change_of_carry (h : s.Wired) {courier : Courier}
    (hm : s.move? (.carry courier) = some s') : Change s.still s'.still := by
  unfold move? at hm
  obtain ⟨⟨errand, rest⟩, htake, heq⟩ := Option.map_eq_some_iff.1 hm
  obtain ⟨before, after, herrands, rfl⟩ := exists_takeErrand? htake
  rw [← heq]
  cases errand with
  | ask t id c caller =>
    have hcarry := still_command (s := { s with errands := before ++ after }) h.arbiter
      (.activate t c (.ask t id caller))
    unfold carry
    rw [hcarry]
    exact .asked (s := s.still) herrands
  | answer t id caller outcome =>
    unfold carry
    simp only [still_reply]
    exact .brought (s := s.still) herrands
  | settle t id tracked client outcome =>
    have hcarry := still_settle (s := { s with errands := before ++ after }) h.arbiter t tracked
      client outcome
    unfold carry
    rw [hcarry]
    exact .settled (s := s.still) herrands

/-- Every move of a wired service is a change, when the notices tell nothing of an owner
that becomes idle, or leaves a release, without saying so. -/
theorem change_of_move (h : s.Wired) (ho : s.arbiter.Orderly) (hs : s.arbiter.Settled)
    (hfollows : ∀ n rest, s.notices = n :: rest → (∀ t replaying, n ≠ .enteredIdle t replaying) →
      ∀ p, s.arbiter.phaseOf? n.tenant = some p → p.Follows (n.after p)) {move : Move}
    (hm : s.move? move = some s') : Change s.still s'.still := by
  cases move with
  | steer => exact change_of_steer h hm
  | execute => exact change_of_execute h hm
  | hear t => exact change_of_hear h hm
  | read t => exact change_of_read h hm
  | notice => exact change_of_notice h ho hs hfollows hm
  | tidings => exact change_of_tidings h ho hs hm
  | command => exact change_of_command h ho hs hm
  | carry courier => exact change_of_carry h hm

end Service

end DataPath
