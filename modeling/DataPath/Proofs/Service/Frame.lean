import DataPath.Proofs.Arbiter.Turn
import DataPath.Proofs.Switch.Effects
import DataPath.Service.Run

/-!
# What a move leaves behind

A move carries out a list of actions, one after the other.  As long as the modem, the
arbiter and all switches run, nothing is refused, and what a list of actions comes to can
be written down at once:

* a switch leaves commands for the modem, notices for the arbiter and errands for the
  couriers (`after`, `still_proceed`),
* the arbiter leaves letters in the mailboxes of the switches and errands for the couriers
  (`deliver`, `give`, `still_resume`).

Turns and whatever has left the service are nothing that a part of the service looks at, so
services are compared without them (`still`).
-/

namespace DataPath

/-! ## A switch in company -/

namespace Station

variable {ρ σ : Type} {world : Surroundings σ}

/-- What an effect of the switch amounts to when nobody has gone away. -/
def act (subscribers : List (Subscriber σ)) : Switch.Effect ρ → List (Action ρ σ)
  | .submit token command => [.submit token command]
  | .notice n => (subscribers.filter fun sub => n.passes sub.filter).map fun sub => .deliver sub.sink n
  | .event event => [.publish event]
  | .reply handle reply => [.reply handle reply]
  | .askOwnership id c handle => [.askOwnership id c handle]

theorem perform_eq (ha : ∀ k, world.accepts k = true) (hl : ∀ sink, world.listens sink = true)
    (st : Station ρ σ) (e : Switch.Effect ρ) :
    st.perform world e = (st, act st.subscribers e) := by
  cases e with
  | submit token command => simp [perform, act, ha]
  | notice n =>
    simp [perform, act, notify, hl]
  | event | reply | askOwnership => rfl

theorem performAll_eq (ha : ∀ k, world.accepts k = true) (hl : ∀ sink, world.listens sink = true)
    (st : Station ρ σ) (es : List (Switch.Effect ρ)) :
    st.performAll world es = (st, es.flatMap (act st.subscribers)) := by
  induction es with
  | nil => rfl
  | cons e es ih => simp [performAll, perform_eq ha hl, ih]

/-- A station with another switch that has nothing left to say. -/
def put (st : Station ρ σ) (switch : Switch ρ) : Station ρ σ :=
  { st with switch := { switch with outbox := [] } }

theorem settle_eq (ha : ∀ k, world.accepts k = true) (hl : ∀ sink, world.listens sink = true)
    (st : Station ρ σ) (switch : Switch ρ) :
    { st with switch := switch }.settle world =
      (st.put switch, switch.drain.1.flatMap (act st.subscribers)) := by
  unfold settle
  simp only [Switch.carryOut_eq ha, performAll_eq ha hl]
  rfl

end Station

namespace Service

/-! ## Who looks at what -/

/-- The service without what none of its parts looks at. -/
def still (s : Service) : Service := { s with turns := [], nextObserver := 0, journal := {} }

/-- The couriers get errands. -/
def give (s : Service) (es : List Errand) : Service := { s with errands := s.errands ++ es }

@[simp] theorem still_wake (s : Service) (p : Party) : (s.wake p).still = s.still := by
  unfold wake
  split <;> rfl

@[simp] theorem still_publish (s : Service) (e : Event) : (s.publish e).still = s.still := rfl

@[simp] theorem still_finish (s : Service) (k : Nat) (a : Answer) :
    (s.finish k a).still = s.still := rfl

@[simp] theorem still_amend (s : Service) (t : Tenant) (f : Post → Post) :
    (s.amend t f).still = s.still.amend t f := rfl

@[simp] theorem still_dispatch (s : Service) (e : Errand) :
    (s.dispatch e).still = s.still.give [e] := by
  unfold dispatch
  rw [still_wake]
  rfl

@[simp] theorem give_nil (s : Service) : s.give [] = s := by simp [give]

theorem give_give (s : Service) (es fs : List Errand) : (s.give es).give fs = s.give (es ++ fs) := by
  simp [give]

/-- What a reply to a caller leads to inside the service. -/
def Caller.errands (caller : Caller) (reply : Option Reply) : List Errand :=
  match caller with
  | .relay t id tracked client => [.settle t id tracked client (outcomeFrom id reply)]
  | _ => []

/-- What an answer to a client leads to inside the service. -/
def Client.errands (client : Client) (answer : Answer) : List Errand :=
  match client, answer with
  | .ask t id caller, .outcome outcome => [.answer t id caller outcome]
  | _, _ => []

theorem still_reply (s : Service) (caller : Caller) (r : Option Reply) :
    (s.reply caller r).still = s.still.give (caller.errands r) := by
  cases caller <;> simp [reply, Caller.errands]

theorem still_answer (s : Service) (client : Client) (a : Answer) :
    (s.answer client a).still = s.still.give (client.errands a) := by
  cases client with
  | nobody => simp [answer, Client.errands]
  | call number => simp [answer, Client.errands]
  | ask t id caller => cases a <;> simp [answer, Client.errands]

/-! ## What a switch leaves behind -/

/-- The errands that an answer of a switch leads to. -/
def errandsOf (t : Tenant) : Switch.Effect Caller → List Errand
  | .reply caller r => caller.errands (some r)
  | .askOwnership id c caller => [.ask t id c (caller.getD .nobody)]
  | _ => []

/-- A notice for the arbiter, as often as it has subscribed to it. -/
def Post.tell (post : Post) (n : Notice) : List Notice :=
  (post.station.subscribers.filter fun sub => n.passes sub.filter && sub.sink = .arbiter).map
    fun _ => n

/-- What actions of a switch leave behind. -/
def acted (s : Service) (t : Tenant) (es : List (Switch.Effect Caller))
    (tell : Notice → List Notice) : Service :=
  { s with
    pipeline := { s.pipeline with
      jobs := s.pipeline.jobs ++ (Switch.submissions es).map fun e =>
        ⟨s.clock + s.pipeline.latency, t, e.1, e.2⟩ }
    notices := s.notices ++ (Switch.notices es).flatMap tell
    errands := s.errands ++ (Switch.answers es).flatMap (errandsOf t) }

/-- A notice for the arbiter. -/
theorem still_enact_arbiter (t : Tenant) (n : Notice) (s : Service) :
    (enact t s (.deliver .arbiter n)).still = { s.still with notices := s.notices ++ [n] } := by
  unfold enact
  rw [still_wake]
  rfl

/-- The deliveries of one notice. -/
theorem still_foldl_deliver (t : Tenant) (n : Notice) (subs : List (Station.Subscriber Sink))
    (s : Service) :
    ((subs.map fun sub => Station.Action.deliver sub.sink n).foldl (enact t) s).still =
      { s.still with
        notices := s.notices ++ (subs.filter fun sub => sub.sink = .arbiter).map fun _ => n } := by
  induction subs generalizing s with
  | nil => simp [still]
  | cons sub subs ih =>
    rw [List.map_cons, List.foldl_cons, ih]
    cases h : sub.sink with
    | arbiter =>
      have hstill := still_enact_arbiter t n s
      have hnotices : (enact t s (.deliver .arbiter n)).notices = s.notices ++ [n] :=
        congrArg Service.notices hstill
      rw [hstill, hnotices, List.filter_cons_of_pos (by simp [h])]
      simp
    | observer k =>
      have hstill : (enact t s (.deliver (.observer k) n)).still = s.still := rfl
      have hnotices : (enact t s (.deliver (.observer k) n)).notices = s.notices := rfl
      rw [hstill, hnotices, List.filter_cons_of_neg (by simp [h])]

theorem acted_cons (s : Service) (t : Tenant) (e : Switch.Effect Caller)
    (es : List (Switch.Effect Caller)) (tell : Notice → List Notice) :
    s.acted t (e :: es) tell = (s.acted t [e] tell).acted t es tell := by
  simp [acted]

/-- Carrying out one effect. -/
theorem still_foldl_act (t : Tenant) (post : Post) (e : Switch.Effect Caller) (s : Service) :
    ((Station.act post.station.subscribers e).foldl (enact t) s).still =
      s.still.acted t [e] post.tell := by
  cases e with
  | submit token command =>
    simp only [Station.act, List.foldl_cons, List.foldl_nil, enact, still_wake]
    simp [acted, still, Modem.Pipeline.submit, Switch.Effect.submission?, Switch.Effect.notice?,
      Switch.Effect.isAnswer]
  | notice n =>
    simp only [Station.act]
    rw [still_foldl_deliver]
    have htell : post.tell n =
        ((post.station.subscribers.filter fun sub => n.passes sub.filter).filter
          fun sub => sub.sink = .arbiter).map fun _ => n := by
      unfold Post.tell
      rw [List.filter_filter]
      congr 2
      funext sub
      rw [Bool.and_comm]
    simp [acted, still, Switch.Effect.submission?, Switch.Effect.notice?, Switch.Effect.isAnswer,
      htell]
  | event event =>
    simp [Station.act, enact, acted, Switch.Effect.submission?, Switch.Effect.notice?,
      Switch.Effect.isAnswer]
  | reply caller r =>
    simp [Station.act, enact, still_reply, acted, give, Switch.Effect.submission?,
      Switch.Effect.notice?, Switch.Effect.isAnswer, errandsOf]
  | askOwnership id c caller =>
    simp [Station.act, enact, acted, give, Switch.Effect.submission?, Switch.Effect.notice?,
      Switch.Effect.isAnswer, errandsOf]

/-- Carrying out effects, one after the other. -/
theorem still_foldl_enact (t : Tenant) (post : Post) (es : List (Switch.Effect Caller))
    (s : Service) :
    ((es.flatMap (Station.act post.station.subscribers)).foldl (enact t) s).still =
      s.still.acted t es post.tell := by
  induction es generalizing s with
  | nil => simp [acted]
  | cons e es ih =>
    rw [List.flatMap_cons, List.foldl_append, ih, still_foldl_act, ← acted_cons]

theorem acted_drain (s : Service) (t : Tenant) (switch : Switch Caller)
    (tell : Notice → List Notice) :
    s.acted t switch.drain.1 tell = s.acted t switch.outbox tell := by
  unfold acted
  rw [Switch.submissions_drain, Switch.notices_drain, Switch.answers_drain]

/-- The service with another post for a tenant. -/
def put (s : Service) (t : Tenant) (post : Post) : Service :=
  { s with posts := s.posts.set t.slot post }

theorem amend_eq {s : Service} {t : Tenant} {post : Post} (h : s.post? t = some post)
    (f : Post → Post) : s.amend t f = s.put t (f post) := by
  unfold amend put
  have h' : s.posts[t.slot]? = some post := h
  rw [List.modify_eq_set_getElem?, h']
  rfl

theorem amend_of_none {s : Service} {t : Tenant} (hp : s.post? t = none) (f : Post → Post) : s.amend t f = s := by
  have hlen : s.posts.length ≤ t.slot := List.getElem?_eq_none_iff.1 hp
  unfold amend
  rw [List.modify_eq_self hlen]

@[simp] theorem put_put (s : Service) (t : Tenant) (p q : Post) : (s.put t p).put t q = s.put t q := by
  simp [put]

theorem post?_put {s : Service} {t : Tenant} {post : Post} (h : s.post? t = some post) (p : Post) :
    (s.put t p).post? t = some p := by
  have hlt : t.slot < s.posts.length := List.getElem?_eq_some_iff.1 h |>.1
  simp [post?, put, hlt]

/-- The service after the switch of a tenant has become another one, with effects. -/
def after (s : Service) (t : Tenant) (post : Post) (switch : Switch Caller) : Service :=
  (s.put t { post with station := post.station.put switch }).acted t switch.outbox post.tell

@[simp] theorem put_after (s : Service) (t : Tenant) (p q : Post) (switch : Switch Caller) :
    (s.put t p).after t q switch = s.after t q switch := by
  simp [after]

/-- A switch goes on with what it made of its input. -/
theorem still_proceed {s : Service} {t : Tenant} {post : Post} (h : s.post? t = some post)
    (switch : Switch Caller) :
    (s.proceed t (post.station.put switch,
      switch.drain.1.flatMap (Station.act post.station.subscribers))).still =
      s.still.after t post switch := by
  unfold proceed
  rw [still_foldl_enact, still_amend, acted_drain, after]
  have h' : s.still.post? t = some post := h
  rw [amend_eq h']

/-! ## What the arbiter leaves behind -/

/-- A request that the arbiter sends to a switch, and who has to know the answer. -/
structure Letter where
  tenant : Tenant
  request : Request
  tracked : Option Arbiter.Tracked
  client : Client

/-- The letter in the mailbox, under the next number. -/
def Post.take (post : Post) (l : Letter) : Post :=
  { post with
    channel := { post.channel with
      nextId := post.channel.nextId + 1
      mailbox := post.channel.mailbox ++ [.request post.channel.nextId l.request
        (some (.relay l.tenant post.channel.nextId l.tracked l.client))] } }

/-- Letters are put into the mailboxes. -/
def deliver (s : Service) (ls : List Letter) : Service :=
  ls.foldl (fun s l => s.amend l.tenant fun post => post.take l) s

/-- The letter that an action of the arbiter sends. -/
def letter? : Arbiter.Action Client → Option Letter
  | .send t request tracked client => some ⟨t, request, tracked, client.getD .nobody⟩
  | _ => none

/-- The letters that actions of the arbiter send. -/
def letters (acts : List (Arbiter.Action Client)) : List Letter := acts.filterMap letter?

/-- The errands that an action of the arbiter leads to. -/
def answersOf : Arbiter.Action Client → List Errand
  | .answer client a => client.errands a
  | _ => []

@[simp] theorem letters_nil : letters [] = [] := rfl

@[simp] theorem letters_send (t : Tenant) (request : Request) (tracked : Option Arbiter.Tracked)
    (client : Option Client) (acts : List (Arbiter.Action Client)) :
    letters (.send t request tracked client :: acts) =
      ⟨t, request, tracked, client.getD .nobody⟩ :: letters acts := rfl

@[simp] theorem letters_publish (e : Event) (acts : List (Arbiter.Action Client)) :
    letters (.publish e :: acts) = letters acts := rfl

@[simp] theorem letters_answer (client : Client) (a : Answer)
    (acts : List (Arbiter.Action Client)) : letters (.answer client a :: acts) = letters acts := rfl

@[simp] theorem answersOf_send (t : Tenant) (request : Request)
    (tracked : Option Arbiter.Tracked) (client : Option Client) :
    answersOf (.send t request tracked client) = [] := rfl

@[simp] theorem answersOf_publish (e : Event) : answersOf (.publish e) = [] := rfl

@[simp] theorem answersOf_answer (client : Client) (a : Answer) :
    answersOf (.answer client a) = client.errands a := rfl

/-- All switches run. -/
def AllOpen (s : Service) : Prop := ∀ p ∈ s.posts, p.channel.isOpen = true

theorem AllOpen.amend {s : Service} (h : s.AllOpen) (t : Tenant) (f : Post → Post)
    (hf : ∀ p : Post, p.channel.isOpen = true → (f p).channel.isOpen = true) :
    (s.amend t f).AllOpen := by
  intro p hp
  obtain ⟨i, hi⟩ := List.mem_iff_getElem?.1 hp
  have hmod : (s.amend t f).posts[i]? = if t.slot = i then (s.posts[i]?).map f else s.posts[i]? := by
    simp only [Service.amend, List.getElem?_modify]
    split
    · rfl
    · simp
  rw [hmod] at hi
  split at hi
  · obtain ⟨q, hq, rfl⟩ := Option.map_eq_some_iff.1 hi
    exact hf q (h q (List.mem_of_getElem? hq))
  · exact h p (List.mem_of_getElem? hi)

/-- A request reaches the switch of a tenant. -/
theorem still_send {s : Service} (hopen : s.AllOpen) {t : Tenant} (hknown : t.slot < s.posts.length)
    (request : Request) (tracked : Option Arbiter.Tracked) (client : Client) :
    (s.send t request tracked client).still =
      s.still.amend t fun post => post.take ⟨t, request, tracked, client⟩ := by
  obtain ⟨post, hpost⟩ : ∃ post, s.post? t = some post := ⟨s.posts[t.slot], by simp [post?, hknown]⟩
  have hop : post.channel.isOpen = true := hopen post (List.mem_of_getElem? hpost)
  have hpost' : s.still.post? t = some post := hpost
  unfold send
  rw [hpost]
  simp only [Channel.call, Channel.put, hop, if_true, still_wake, still_amend]
  rw [amend_eq hpost', amend_eq hpost']
  simp [Post.take, hop]

theorem amend_give (s : Service) (t : Tenant) (f : Post → Post) (es : List Errand) :
    (s.give es).amend t f = (s.amend t f).give es := rfl

theorem deliver_give (s : Service) (ls : List Letter) (es : List Errand) :
    (s.give es).deliver ls = (s.deliver ls).give es := by
  induction ls generalizing s with
  | nil => rfl
  | cons l ls ih =>
    unfold deliver at ih ⊢
    rw [List.foldl_cons, List.foldl_cons, amend_give, ih]

theorem length_amend (s : Service) (t : Tenant) (f : Post → Post) :
    (s.amend t f).posts.length = s.posts.length := by
  simp [amend]

/-- The arbiter carries out its actions. -/
theorem still_foldl_decree {s : Service} (hopen : s.AllOpen) (acts : List (Arbiter.Action Client))
    (hknown : ∀ l ∈ letters acts, l.tenant.slot < s.posts.length) :
    (acts.foldl decree s).still =
      (s.still.deliver (letters acts)).give (acts.flatMap answersOf) := by
  induction acts generalizing s with
  | nil => simp [deliver]
  | cons act acts ih =>
    rw [List.foldl_cons]
    cases act with
    | send t request tracked client =>
      have hlt : t.slot < s.posts.length :=
        hknown ⟨t, request, tracked, client.getD .nobody⟩ (by simp)
      have hstill := still_send hopen hlt request tracked (client.getD .nobody)
      have hposts : (decree s (.send t request tracked client)).posts =
          (s.amend t fun post => post.take ⟨t, request, tracked, client.getD .nobody⟩).posts := by
        have h := congrArg Service.posts hstill
        exact h
      rw [ih]
      · rw [decree, hstill]
        simp [deliver]
      · intro p hp
        rw [hposts] at hp
        exact hopen.amend t (fun post => post.take _) (fun _ h => h) p hp
      · intro l hl
        rw [hposts, length_amend]
        exact hknown l (by simp [hl])
    | publish e =>
      have hstill : (decree s (.publish e)).still = s.still := rfl
      rw [ih]
      · rw [hstill]
        simp
      · exact hopen
      · intro l hl
        exact hknown l (by simpa using hl)
    | answer client a =>
      have hstill := s.still_answer client a
      have hposts : (s.answer client a).posts = s.posts := by
        have h := congrArg Service.posts hstill
        exact h
      rw [decree, ih]
      · rw [hstill, deliver_give, give_give]
        simp
      · intro p hp
        rw [hposts] at hp
        exact hopen p hp
      · intro l hl
        rw [hposts]
        exact hknown l (by simpa using hl)

/-- The service after the arbiter has become another one, with letters and errands. -/
def ruled (s : Service) (a : Arbiter) (ls : List Letter) (es : List Errand) : Service :=
  ({ s with arbiter := a }.deliver ls).give es

/-- The arbiter goes on with what it made of its input. -/
theorem still_resume {s : Service} (hopen : s.AllOpen) (a : Arbiter)
    (acts : List (Arbiter.Action Client))
    (hknown : ∀ l ∈ letters acts, l.tenant.slot < s.posts.length) :
    (s.resume (a, acts)).still = s.still.ruled a (letters acts) (acts.flatMap answersOf) := by
  have hopen' : ({ s with arbiter := a } : Service).AllOpen := hopen
  exact still_foldl_decree hopen' acts hknown

end Service

end DataPath
