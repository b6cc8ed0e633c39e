import DataPath.Proofs.Service.Grants

/-!
# The service stays wired

A change touches one post, or puts letters into some mailboxes.  What the posts are
afterwards is said first (`post?_of_put`, `post?_of_ruled`).  With that, a service that is
wired stays so (`Wired.change`, `Wired.intake`), and one that starts is wired.
-/

namespace DataPath

/-- Whether a message is a connect that carries a grant. -/
def Message.isAcquire {ρ σ : Type} : Message ρ σ → Bool
  | .request _ r _ => r.isAcquire
  | _ => false

namespace Service

variable {s s' : Service} {t u : Tenant} {p q r : Post}

/-! ## Posts -/

theorem slot_ne (h : u ≠ t) : t.slot ≠ u.slot := by
  intro heq
  cases t
  cases u
  exact h (by simpa using heq.symm)

/-- The posts after one of them has changed. -/
theorem post?_of_put (hp : s.post? t = some p) (hr : (s.put t q).post? u = some r) :
    u = t ∧ r = q ∨ u ≠ t ∧ s.post? u = some r := by
  by_cases h : u = t
  · subst h
    rw [post?_put hp, Option.some.injEq] at hr
    exact .inl ⟨rfl, hr.symm⟩
  · refine .inr ⟨h, ?_⟩
    unfold post? put at hr
    rw [List.getElem?_set_ne (slot_ne h)] at hr
    exact hr

theorem length_put (s : Service) (t : Tenant) (q : Post) : (s.put t q).posts.length = s.posts.length :=
  List.length_set ..

/-- A post with more messages in the mailbox. -/
def Post.mailed (p : Post) (nextId : Nat) (more : List (Message Caller Sink)) : Post :=
  { p with channel := { p.channel with nextId := nextId, mailbox := p.channel.mailbox ++ more } }

/-- The message that a letter is. -/
def Letter.IsMessage (l : Letter) (m : Message Caller Sink) : Prop :=
  ∃ id, m = .request id l.request (some (.relay l.tenant id l.tracked l.client))

/-- The posts after letters have been delivered. -/
theorem post?_of_deliver {ls : List Letter} (hq : (s.deliver ls).post? t = some q) :
    ∃ p nextId more, s.post? t = some p ∧ q = p.mailed nextId more ∧
      ∀ m ∈ more, ∃ l ∈ ls, l.tenant = t ∧ l.IsMessage m := by
  induction ls generalizing s with
  | nil => exact ⟨q, q.channel.nextId, [], hq, by simp [Post.mailed], nofun⟩
  | cons l ls ih =>
    obtain ⟨p, nextId, more, hp, heq, hmore⟩ := ih (s := s.amend l.tenant fun post => post.take l) hq
    have hrest : ∀ m ∈ more, ∃ l' ∈ l :: ls, l'.tenant = t ∧ l'.IsMessage m := by
      intro m hm
      obtain ⟨l', hl', hto⟩ := hmore m hm
      exact ⟨l', List.mem_cons_of_mem _ hl', hto⟩
    unfold post? amend at hp
    rw [List.getElem?_modify] at hp
    obtain ⟨p₀, hp₀, hfun⟩ := Option.map_eq_some_iff.1 hp
    split at hfun
    · next hslot =>
      have hto : l.tenant = t := by
        cases t
        exact congrArg Tenant.mk hslot
      refine ⟨p₀, nextId, .request p₀.channel.nextId l.request
        (some (.relay l.tenant p₀.channel.nextId l.tracked l.client)) :: more, hp₀, ?_, ?_⟩
      · rw [heq, ← hfun]
        simp [Post.mailed, Post.take]
      · intro m hm
        rcases List.mem_cons.1 hm with rfl | hm
        · exact ⟨l, List.mem_cons_self, hto, _, rfl⟩
        · exact hrest m hm
    · exact ⟨p₀, nextId, more, hp₀, by rw [heq, ← hfun], hrest⟩

/-- The posts after a turn of the arbiter. -/
theorem post?_of_ruled {a : Arbiter} {ls : List Letter} {es : List Errand}
    (hq : (s.ruled a ls es).post? t = some q) :
    ∃ p nextId more, s.post? t = some p ∧ q = p.mailed nextId more ∧
      ∀ m ∈ more, ∃ l ∈ ls, l.tenant = t ∧ l.IsMessage m :=
  post?_of_deliver (s := { s with arbiter := a }) hq

theorem length_deliver (s : Service) (ls : List Letter) :
    (s.deliver ls).posts.length = s.posts.length := by
  induction ls generalizing s with
  | nil => rfl
  | cons l ls ih =>
    have h := ih (s.amend l.tenant fun post => post.take l)
    rw [length_amend] at h
    exact h

/-- Delivering letters changes nothing but posts. -/
theorem deliver_eq (s : Service) (ls : List Letter) :
    s.deliver ls = { s with posts := (s.deliver ls).posts } := by
  induction ls generalizing s with
  | nil => rfl
  | cons l ls ih => exact ih (s.amend l.tenant fun post => post.take l)

/-- A turn of the arbiter changes nothing but the arbiter, posts, and errands. -/
theorem ruled_eq (s : Service) (a : Arbiter) (ls : List Letter) (es : List Errand) :
    s.ruled a ls es =
      { s with
        arbiter := a
        posts := (s.ruled a ls es).posts
        errands := s.errands ++ es } := by
  have h := deliver_eq { s with arbiter := a } ls
  have hgive := congrArg (fun x : Service => x.give es) h
  exact hgive

/-! ## Posts that are set up -/

/-- More messages that are in order. -/
theorem Post.Wired.mailed (h : p.Wired t) (nextId : Nat) (more : List (Message Caller Sink))
    (hmore : ∀ m ∈ more, InOrder t m ∧ isEnrolment m = false) : (p.mailed nextId more).Wired t where
  isOpen := h.isOpen
  tenant := h.tenant
  arbitrated := h.arbitrated
  outbox := h.outbox
  mail m hm := (List.mem_append.1 hm).elim (h.mail m) fun hm => (hmore m hm).1
  attached := by
    rcases h.attached with hl | ⟨hnone, hphase, hparked, rest, hmail, hrest⟩
    · refine .inl ⟨hl.1, fun m hm => ?_⟩
      exact (List.mem_append.1 hm).elim (hl.2 m) fun hm => (hmore m hm).2
    · refine .inr ⟨hnone, hphase, hparked, rest ++ more, ?_, fun m hm => ?_⟩
      · unfold Post.mailed
        rw [hmail]
        rfl
      · exact (List.mem_append.1 hm).elim (hrest m) fun hm => (hmore m hm).2

/-- More signals. -/
theorem Post.Wired.signalled (h : p.Wired t) (signals : List Signal) :
    (p.signalled signals).Wired t :=
  ⟨h.isOpen, h.tenant, h.arbitrated, h.outbox, h.mail, h.attached⟩

/-- A switch has taken a signal. -/
theorem Post.Wired.hear (h : p.Wired t) (signal : Signal) (rest : List Signal) :
    ({ p with
      signals := rest
      station := p.station.put (p.station.switch.hear signal) } : Post).Wired t := by
  obtain ⟨hten, harb, -, hcase⟩ := hear_cases h.arbitrated h.outbox signal
  refine ⟨h.isOpen, hten.trans h.tenant, harb, rfl, h.mail, ?_⟩
  rcases h.attached with hl | ⟨hnone, hphase, hparked, hmail⟩
  · exact .inl hl
  · refine .inr ⟨hnone, ?_, ?_, hmail⟩
    · cases hcase with
      | released token fault replaying hsig htoken hrel hidle => exact hidle
      | kept hfollows hidle => exact hidle hphase
    · cases hcase with
      | released token fault replaying hsig htoken hrel hidle hempty => exact hempty
      | kept hfollows hidle hsame => exact hsame.trans hparked

/-- A post that reads a request hears the arbiter, and goes on to do so. -/
theorem Post.Wired.read (h : p.Wired t) {id : Nat} {request : Request} {handle : Option Caller}
    {rest : List (Message Caller Sink)}
    (hmail : p.channel.mailbox = .request id request handle :: rest) :
    p.Listened ∧ ({ p.unread rest with
      station := p.station.put (p.station.switch.handle id request handle) } : Post).Wired t := by
  obtain ⟨hten, harb, -, -⟩ := read_cases h.arbitrated h.outbox id request handle
  rcases h.attached with hl | ⟨-, -, -, _, hfirst, -⟩
  · refine ⟨hl, h.isOpen, hten.trans h.tenant, harb, rfl, fun m hm => h.mail m ?_,
      .inl ⟨hl.1, fun m hm => hl.2 m ?_⟩⟩
    · rw [hmail]
      exact List.mem_cons_of_mem _ hm
    · rw [hmail]
      exact List.mem_cons_of_mem _ hm
  · rw [hmail] at hfirst
    cases hfirst

/-- A switch has taken a subscriber. -/
theorem Post.Wired.subscribe (h : p.Wired t) {filter : NoticeFilter} {sink : Sink} {handle : Caller}
    {rest : List (Message Caller Sink)}
    (hmail : p.channel.mailbox = .subscribe filter sink handle :: rest) :
    ({ p.unread rest with station := { p.station with
      subscribers := p.station.subscribers ++ [⟨p.station.nextSubscription, filter, sink⟩]
      nextSubscription := p.station.nextSubscription + 1 } } : Post).Wired t := by
  refine ⟨h.isOpen, h.tenant, h.arbitrated, h.outbox, fun m hm => h.mail m ?_, .inl ?_⟩
  · rw [hmail]
    exact List.mem_cons_of_mem _ hm
  · rcases h.attached with ⟨⟨sub, hsub, hall⟩, hnone⟩ | ⟨hnone, -, -, more, hfirst, hmore⟩
    · have hobserver : sink ≠ .arbiter := by
        rintro rfl
        have hm := hnone (.subscribe filter .arbiter handle) (hmail ▸ List.mem_cons_self)
        cases hm
      refine ⟨⟨sub, ?_, hall⟩, fun m hm => hnone m ?_⟩
      · have hkeep : p.station.subscribers.filter (fun sub => sub.sink = .arbiter) = [sub] := hsub
        unfold Post.enrolled
        rw [List.filter_append, hkeep]
        simp [hobserver]
      · rw [hmail]
        exact List.mem_cons_of_mem _ hm
    · rw [hmail] at hfirst
      cases hfirst
      refine ⟨⟨⟨p.station.nextSubscription, .all, .arbiter⟩, ?_, rfl⟩, hmore⟩
      have hkeep : p.station.subscribers.filter (fun sub => sub.sink = .arbiter) = [] := hnone
      unfold Post.enrolled
      rw [List.filter_append, hkeep]
      simp

/-! ## The service stays wired -/

theorem Wired.put (h : s.Wired) (hp : s.post? t = some p) (hq : q.Wired t) : (s.put t q).Wired where
  modem := h.modem
  arbiter := h.arbiter
  outbox := h.outbox
  nonempty hnil := h.nonempty ((List.set_eq_nil_iff _ _).1 hnil)
  length := h.length.trans (length_put s t q).symm
  posts u r hr := by
    rcases post?_of_put hp hr with ⟨rfl, rfl⟩ | ⟨-, hr⟩
    · exact hq
    · exact h.posts u r hr
  sinks u r hr := by
    rcases post?_of_put hp hr with ⟨rfl, -⟩ | ⟨-, hr⟩
    · exact h.sinks u p hp
    · exact h.sinks u r hr
  jobs j hj := by
    rw [length_put]
    exact h.jobs j hj
  controls := h.controls
  commands := h.commands

theorem Wired.acted (h : s.Wired) (ht : t.slot < s.posts.length)
    (es : List (Switch.Effect Caller)) (tell : Notice → List Notice) : (s.acted t es tell).Wired where
  modem := h.modem
  arbiter := h.arbiter
  outbox := h.outbox
  nonempty := h.nonempty
  length := h.length
  posts := h.posts
  sinks := h.sinks
  jobs j hj := by
    rcases List.mem_append.1 hj with hj | hj
    · exact h.jobs j hj
    · obtain ⟨e, -, rfl⟩ := List.mem_map.1 hj
      exact ht
  controls := h.controls
  commands := h.commands

/-- A switch has become another one. -/
theorem Wired.after (h : s.Wired) (hp : s.post? t = some p) {switch : Switch Caller}
    (hq : ({ q with station := q.station.put switch } : Post).Wired t) :
    (s.after t q switch).Wired := by
  refine (h.put hp hq).acted ?_ _ _
  rw [length_put]
  exact lt_of_post? hp

/-- Other queues. -/
theorem Wired.queues (h : s.Wired) (notices : List Notice) (tidings : List Tidings)
    (errands : List Errand) {commands : List (Arbiter.Command Client)}
    (hc : ∀ c ∈ commands, c ≠ .shutdown) :
    ({ s with
      notices := notices
      tidings := tidings
      errands := errands
      commands := commands } : Service).Wired :=
  ⟨h.modem, h.arbiter, h.outbox, h.nonempty, h.length, h.posts, h.sinks, h.jobs, h.controls, hc⟩

/-- The arbiter takes a command. -/
theorem Wired.serving (h : s.Wired) {command : Arbiter.Command Client}
    {rest : List (Arbiter.Command Client)} (hcommands : s.commands = command :: rest) :
    ({ s with commands := rest } : Service).Wired :=
  h.queues s.notices s.tidings s.errands fun c hc =>
    h.commands c (hcommands ▸ List.mem_cons_of_mem _ hc)

/-- Another modem, with commands of the same switches. -/
theorem Wired.pipeline (h : s.Wired) (pipeline : Modem.Pipeline Unit) (controls : List Control)
    (hsinks : pipeline.sinks = s.pipeline.sinks) (hjobs : ∀ j ∈ pipeline.jobs, j ∈ s.pipeline.jobs)
    (hcontrols : ∀ c ∈ controls, c ∈ s.controls) :
    ({ s with pipeline := pipeline, controls := controls } : Service).Wired where
  modem := h.modem
  arbiter := h.arbiter
  outbox := h.outbox
  nonempty := h.nonempty
  length := h.length
  posts := h.posts
  sinks u r hr := by
    have hsink := h.sinks u r hr
    rw [← hsinks] at hsink
    exact hsink
  jobs j hj := h.jobs j (hjobs j hj)
  controls c hc := h.controls c (hcontrols c hc)
  commands := h.commands

/-- Letters carry the grants of their connects. -/
def Letter.Sealed (l : Letter) : Prop :=
  ∀ c g, l.request = .acquire c g → l.tracked = some (.grant g)

theorem sealed_of_mem {new : List Arbiter.Effect} {l : Letter} (hl : l ∈ new.filterMap letterOf) :
    l.Sealed := by
  obtain ⟨e, -, he⟩ := List.mem_filterMap.1 hl
  cases e with
  | connect t c g =>
    rw [letterOf_connect, Option.some.injEq] at he
    subst he
    rintro d k heq
    cases heq
    rfl
  | cleanupAll t =>
    rw [letterOf_cleanupAll, Option.some.injEq] at he
    subst he
    rintro d k heq
    cases heq
  | event e => cases he

/-- A message that is a letter is in order. -/
theorem Letter.IsMessage.inOrder {l : Letter} {m : Message Caller Sink} (h : l.IsMessage m)
    (hl : l.Sealed) : InOrder l.tenant m ∧ isEnrolment m = false := by
  obtain ⟨id, rfl⟩ := h
  refine ⟨⟨fun c g heq => ⟨l.client, ?_⟩, fun u k tracked client heq => ?_⟩, rfl⟩
  · rw [hl c g heq]
  · simp only [Option.some.injEq, Caller.relay.injEq] at heq
    exact ⟨heq.1.symm, heq.2.1.symm⟩

/-- The arbiter has made a turn. -/
theorem Wired.ruled (h : s.Wired) {a : Arbiter} {ls : List Letter} (hout : a.outbox = [])
    (hlen : a.watches.length = s.arbiter.watches.length) (hls : ∀ l ∈ ls, l.Sealed)
    (es : List Errand) : (s.ruled a ls es).Wired := by
  have hlength : (s.ruled a ls es).posts.length = s.posts.length :=
    length_deliver { s with arbiter := a } ls
  have heq := ruled_eq s a ls es
  have hpost : ∀ u r, (s.ruled a ls es).post? u = some r → r.Wired u ∧
      s.pipeline.sinks.lookup u = some () := by
    intro u r hr
    obtain ⟨p, nextId, more, hp, rfl, hmore⟩ := post?_of_ruled hr
    refine ⟨(h.posts u p hp).mailed nextId more fun m hm => ?_, h.sinks u p hp⟩
    obtain ⟨l, hl, rfl, hmessage⟩ := hmore m hm
    exact hmessage.inOrder (hls l hl)
  have hjobs : ∀ j ∈ s.pipeline.jobs, j.tenant.slot < (s.ruled a ls es).posts.length := by
    rw [hlength]
    exact h.jobs
  have hnonempty : (s.ruled a ls es).posts ≠ [] := by
    intro hnil
    rw [hnil] at hlength
    exact h.nonempty (List.eq_nil_of_length_eq_zero hlength.symm)
  rw [heq]
  exact ⟨h.modem, h.arbiter, hout, hnonempty, (hlen.trans h.length).trans hlength.symm,
    fun u r hr => (hpost u r hr).1, fun u r hr => (hpost u r hr).2, hjobs, h.controls, h.commands⟩

/-- A change keeps the service wired. -/
theorem Wired.change (h : s.Wired) (hc : Change s s') : s'.Wired := by
  have hsealed : ∀ {new : List Arbiter.Effect}, ∀ l ∈ new.filterMap letterOf, l.Sealed :=
    fun l hl => sealed_of_mem hl
  cases hc with
  | @heard t p signal rest hp hsig => exact h.after hp ((h.posts t p hp).hear signal rest)
  | read hp hmail => exact h.after hp ((h.posts _ _ hp).read hmail).2
  | subscribed hp hmail =>
    exact (h.put hp ((h.posts _ _ hp).subscribe hmail)).queues _ _ _ h.commands
  | executed hjobs hp =>
    refine Wired.put (h.pipeline _ _ rfl (fun j hj => ?_) fun c hc => hc) hp
      ((h.posts _ _ hp).signalled _)
    rw [hjobs]
    exact List.mem_cons_of_mem _ hj
  | @tuned t radio rest hcontrols =>
    have hbase := h.pipeline { s.pipeline with modem := (s.pipeline.modem.setRadio t radio).1 } rest
      rfl (fun j hj => hj) fun c hc => by
        rw [hcontrols]
        exact List.mem_cons_of_mem _ hc
    rcases s.tuned_cases t radio rest with ⟨-, heq⟩ | ⟨p, signals, hp, -, heq⟩
    · rw [heq]
      exact hbase
    · rw [heq]
      exact hbase.put hp ((h.posts t p hp).signalled signals)
  | steered hcontrols hradio halike =>
    refine h.pipeline _ _ halike.sinks (fun j hj => halike.jobs ▸ hj) fun c hc => ?_
    rw [hcontrols]
    exact List.mem_cons_of_mem _ hc
  | noted hnotices hnotes hnone hturn hout =>
    refine (h.queues _ s.tidings s.errands h.commands).ruled hout ?_ hsealed _
    rw [hturn.watches]
    exact hnotes.length
  | granted hnotices htidings hturn hout =>
    refine (h.queues s.notices _ s.errands h.commands).ruled hout ?_ hsealed _
    rw [hturn.watches]
    rfl
  | cleaned hnotices htidings hmid hturn hout =>
    refine (h.queues s.notices _ s.errands h.commands).ruled hout ?_ hsealed _
    obtain ⟨asked, rfl⟩ := Arbiter.exists_eq_of_cleanupAnswered hmid
    rw [hturn.watches]
  | replied hnotices htidings hcommands hclient hanswer hturn hout =>
    refine (h.serving hcommands).ruled hout ?_ hsealed _
    rw [hturn.watches]
  | forwarded hnotices htidings hcommands hturn hsent hout =>
    refine (h.serving hcommands).ruled hout ?_ (fun l hl => ?_) _
    · rw [hturn.watches]
    · rcases List.mem_cons.1 hl with rfl | hl
      · rintro d k heq
        cases heq
        rfl
      · exact sealed_of_mem hl
  | passed hnotices htidings hcommands hknown hturn hout =>
    refine (h.serving hcommands).ruled hout ?_ (fun l hl => ?_) _
    · rw [hturn.watches]
    · rw [List.mem_singleton.1 hl]
      rintro d k heq
      cases heq
  | asked herrands =>
    refine h.queues s.notices s.tidings _ fun c hc => ?_
    rcases List.mem_append.1 hc with hc | hc
    · exact h.commands c hc
    · rw [List.mem_singleton.1 hc]
      simp
  | brought herrands => exact h.queues s.notices s.tidings _ h.commands
  | settled herrands => exact h.queues s.notices _ _ h.commands

/-- An input keeps the service wired. -/
theorem Wired.intake (h : s.Wired) (hi : Intake s s') : s'.Wired := by
  cases hi with
  | nothing => exact h
  | @mailed t p nextId m hp hm =>
    refine h.put hp (Post.Wired.mailed (h.posts t p hp) nextId [m] fun x hx => ?_)
    rw [List.mem_singleton.1 hx]
    cases m with
    | request id request handle =>
      obtain ⟨hacq, hcaller⟩ := hm
      refine ⟨⟨fun c g heq => ?_, fun u k tracked client heq => absurd heq (hcaller _ _ _ _)⟩, rfl⟩
      rw [heq] at hacq
      cases hacq
    | subscribe filter sink handle =>
      refine ⟨trivial, ?_⟩
      cases sink with
      | arbiter => exact absurd rfl hm.1
      | observer => rfl
    | unsubscribe => exact hm.elim
    | shutdown => exact hm.elim
  | @used t p nextId hp =>
    have hnone : p.mailed nextId [] =
        { p with channel := { p.channel with nextId := nextId } } := by simp [Post.mailed]
    exact hnone ▸ h.put hp ((h.posts t p hp).mailed nextId [] nofun)
  | commanded hc =>
    refine h.queues s.notices s.tidings s.errands fun c hmem => ?_
    rcases List.mem_append.1 hmem with hmem | hmem
    · exact h.commands c hmem
    · rw [List.mem_singleton.1 hmem]
      rintro rfl
      cases hc
  | controlled hc =>
    refine ⟨h.modem, h.arbiter, h.outbox, h.nonempty, h.length, h.posts, h.sinks, h.jobs,
      fun c hmem => ?_, h.commands⟩
    rcases List.mem_append.1 hmem with hmem | hmem
    · exact h.controls c hmem
    · rw [List.mem_singleton.1 hmem]
      exact hc

/-- A service that has just started is wired. -/
theorem Fresh.wired (h : Fresh s) : s.Wired where
  modem := h.modem
  arbiter := h.arbiter
  outbox := h.outbox
  nonempty := h.nonempty
  length := h.length
  posts t p hp := by
    obtain ⟨capacity, signals, rfl, -⟩ := h.posts t p hp
    refine Post.Wired.signalled (p := Post.start capacity t)
      ⟨rfl, rfl, rfl, rfl, fun m hm => ?_, .inr ?_⟩ signals
    · rw [List.mem_singleton.1 hm]
      trivial
    · exact ⟨rfl, rfl, rfl, [], rfl, nofun⟩
  sinks := h.sinks
  jobs j hj := by
    rw [h.jobs] at hj
    cases hj
  controls c hc := by
    rw [h.controls] at hc
    cases hc
  commands c hc := by
    rw [h.commands] at hc
    cases hc

end Service

end DataPath
