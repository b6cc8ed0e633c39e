import DataPath.Proofs.Service.Change
import Mathlib.Algebra.GroupWithZero.Nat
import Mathlib.Algebra.Order.BigOperators.Group.List
import Mathlib.Algebra.Order.Group.Nat

/-!
# Weighing the service

Much of what is proved about runs is book-keeping: something leaves one queue and something
else enters another.  A `Scale` gives a weight to everything that can be under way, and
`weigh` adds up what is under way in a service.  Then

* grants are counted, to find that each outstanding one is under way exactly once,
* what will make the arbiter settle again is counted, to find that there is some,
* and work is measured, to find that every move reduces it.

The lemmas here say what each part of a change adds to the weight, for any scale.
-/

namespace DataPath.Service

/-- A weight for everything that can be under way.  A message weighs what it does while the
switch that will read it is in some phase, whatever its number is. -/
structure Scale where
  letter : Phase → Message Caller Sink → Nat
  parked : Switch.Parked Caller → Nat
  signal : Signal → Nat
  phase : Tenant → Phase → Nat
  job : Nat
  control : Control → Nat
  notice : Notice → Nat
  tidings : Tidings → Nat
  command : Arbiter.Command Client → Nat
  errand : Errand → Nat
  anonymous : ∀ p id k request t tracked client,
    letter p (.request id request (some (.relay t id tracked client))) =
      letter p (.request k request (some (.relay t k tracked client)))

variable (σ : Scale) {s : Service}

/-- The weight of a mailbox, for a switch in some phase. -/
def Scale.mail (p : Phase) (ms : List (Message Caller Sink)) : Nat := (ms.map (σ.letter p)).sum

/-- The weight of what a switch has parked. -/
def Scale.kept (ps : List (Switch.Parked Caller)) : Nat := (ps.map σ.parked).sum

/-- The weight of signals. -/
def Scale.told (signals : List Signal) : Nat := (signals.map σ.signal).sum

/-- The weight of notices. -/
def Scale.news (ns : List Notice) : Nat := (ns.map σ.notice).sum

/-- The weight of errands. -/
def Scale.load (es : List Errand) : Nat := (es.map σ.errand).sum

/-- The weight of a switch and of what it has to take in. -/
def Scale.post (p : Post) : Nat :=
  σ.mail p.station.switch.phase p.channel.mailbox + σ.kept p.station.switch.parked +
    σ.told p.signals + σ.phase p.station.switch.tenant p.station.switch.phase

/-- The weight of everything under way. -/
def weigh (s : Service) : Nat :=
  (s.posts.map σ.post).sum + s.pipeline.jobs.length * σ.job + (s.controls.map σ.control).sum +
    σ.news s.notices + (s.tidings.map σ.tidings).sum + (s.commands.map σ.command).sum +
    σ.load s.errands

@[simp] theorem Scale.mail_nil (p : Phase) : σ.mail p [] = 0 := rfl

@[simp] theorem Scale.kept_nil : σ.kept [] = 0 := rfl

@[simp] theorem Scale.told_nil : σ.told [] = 0 := rfl

@[simp] theorem Scale.news_nil : σ.news [] = 0 := rfl

@[simp] theorem Scale.load_nil : σ.load [] = 0 := rfl

@[simp] theorem Scale.mail_cons (p : Phase) (m : Message Caller Sink)
    (ms : List (Message Caller Sink)) : σ.mail p (m :: ms) = σ.letter p m + σ.mail p ms := by
  simp [mail]

@[simp] theorem Scale.kept_cons (p : Switch.Parked Caller) (ps : List (Switch.Parked Caller)) :
    σ.kept (p :: ps) = σ.parked p + σ.kept ps := by
  simp [kept]

@[simp] theorem Scale.told_cons (signal : Signal) (signals : List Signal) :
    σ.told (signal :: signals) = σ.signal signal + σ.told signals := by
  simp [told]

@[simp] theorem Scale.news_cons (n : Notice) (ns : List Notice) :
    σ.news (n :: ns) = σ.notice n + σ.news ns := by
  simp [news]

@[simp] theorem Scale.load_cons (e : Errand) (es : List Errand) :
    σ.load (e :: es) = σ.errand e + σ.load es := by
  simp [load]

@[simp] theorem Scale.mail_append (p : Phase) (ms ns : List (Message Caller Sink)) :
    σ.mail p (ms ++ ns) = σ.mail p ms + σ.mail p ns := by
  simp [mail]

@[simp] theorem Scale.kept_append (ps qs : List (Switch.Parked Caller)) :
    σ.kept (ps ++ qs) = σ.kept ps + σ.kept qs := by
  simp [kept]

@[simp] theorem Scale.told_append (xs ys : List Signal) :
    σ.told (xs ++ ys) = σ.told xs + σ.told ys := by
  simp [told]

@[simp] theorem Scale.news_append (ns ms : List Notice) :
    σ.news (ns ++ ms) = σ.news ns + σ.news ms := by
  simp [news]

@[simp] theorem Scale.load_append (es fs : List Errand) :
    σ.load (es ++ fs) = σ.load es + σ.load fs := by
  simp [load]

/-- Replacing one member of a list. -/
theorem sum_map_set {α : Type} (f : α → Nat) (l : List α) {i : Nat} {a : α} (h : l[i]? = some a)
    (b : α) : ((l.set i b).map f).sum + f a = (l.map f).sum + f b := by
  induction l generalizing i with
  | nil => simp at h
  | cons c l ih =>
    cases i with
    | zero =>
      simp only [List.getElem?_cons_zero, Option.some.injEq] at h
      subst h
      simp only [List.set_cons_zero, List.map_cons, List.sum_cons]
      omega
    | succ i =>
      have := ih (by simpa using h)
      simp only [List.set_cons_succ, List.map_cons, List.sum_cons]
      omega

/-- What is under way weighs no more than everything. -/
theorem post_le_weigh {t : Tenant} {p : Post} (hp : s.post? t = some p) : σ.post p ≤ weigh σ s := by
  have h : σ.post p ≤ (s.posts.map σ.post).sum :=
    List.le_sum_of_mem (List.mem_map_of_mem (List.mem_of_getElem? hp))
  unfold weigh
  omega

theorem letter_le_weigh {t : Tenant} {p : Post} (hp : s.post? t = some p)
    {m : Message Caller Sink} (hm : m ∈ p.channel.mailbox) :
    σ.letter p.station.switch.phase m ≤ weigh σ s := by
  have h : σ.letter p.station.switch.phase m ≤ σ.mail p.station.switch.phase p.channel.mailbox :=
    List.le_sum_of_mem (List.mem_map_of_mem hm)
  have hpost := post_le_weigh σ hp
  unfold Scale.post at hpost
  omega

/-- Without anything in the queues only the posts weigh anything. -/
theorem weigh_of_empty (hjobs : s.pipeline.jobs = []) (hcontrols : s.controls = [])
    (hnotices : s.notices = []) (htidings : s.tidings = []) (hcommands : s.commands = [])
    (herrands : s.errands = []) (hposts : ∀ t p, s.post? t = some p → σ.post p = 0) :
    weigh σ s = 0 := by
  have hsum : (s.posts.map σ.post).sum = 0 := by
    rw [List.sum_eq_zero_iff_forall_eq_nat]
    intro x hx
    obtain ⟨p, hp, rfl⟩ := List.mem_map.1 hx
    obtain ⟨i, hi⟩ := List.mem_iff_getElem?.1 hp
    exact hposts ⟨i⟩ p hi
  unfold weigh
  rw [hsum, hjobs, hcontrols, hnotices, htidings, hcommands, herrands]
  simp

/-- Another post for a tenant. -/
theorem weigh_put {t : Tenant} {p : Post} (hp : s.post? t = some p) (q : Post) :
    weigh σ (s.put t q) + σ.post p = weigh σ s + σ.post q := by
  have h := sum_map_set σ.post s.posts hp q
  unfold weigh put
  simp only
  omega

/-- What the effects of a switch add. -/
theorem weigh_acted (t : Tenant) (es : List (Switch.Effect Caller))
    (tell : Notice → List Notice) :
    weigh σ (s.acted t es tell) =
      weigh σ s + (Switch.submissions es).length * σ.job +
        σ.news ((Switch.notices es).flatMap tell) +
        σ.load ((Switch.answers es).flatMap (errandsOf t)) := by
  unfold weigh acted
  simp only [List.length_append, List.length_map, Scale.news_append, Scale.load_append,
    Nat.add_mul]
  omega

/-- Another switch for a tenant, with its effects. -/
theorem weigh_after {t : Tenant} {p : Post} (hp : s.post? t = some p) (q : Post)
    (switch : Switch Caller) :
    weigh σ (s.after t q switch) + σ.post p =
      weigh σ s + σ.post { q with station := q.station.put switch } +
        (Switch.submissions switch.outbox).length * σ.job +
        σ.news ((Switch.notices switch.outbox).flatMap q.tell) +
        σ.load ((Switch.answers switch.outbox).flatMap (errandsOf t)) := by
  have h := weigh_put σ hp { q with station := q.station.put switch }
  unfold after
  rw [weigh_acted]
  omega

theorem weigh_give (es : List Errand) : weigh σ (s.give es) = weigh σ s + σ.load es := by
  unfold weigh give
  simp only [Scale.load_append]
  omega

/-- The weight of a letter in the mailbox of its tenant. -/
def Scale.stamp (s : Service) (l : Letter) : Nat :=
  (s.post? l.tenant).elim 0 fun p => σ.letter p.station.switch.phase
    (.request 0 l.request (some (.relay l.tenant 0 l.tracked l.client)))

theorem Scale.stamp_congr {s' : Service}
    (h : ∀ t, (s'.post? t).map (fun p => p.station.switch.phase) =
      (s.post? t).map fun p => p.station.switch.phase) (l : Letter) :
    σ.stamp s' l = σ.stamp s l := by
  have hl := h l.tenant
  unfold stamp
  cases h' : s'.post? l.tenant with
  | none =>
    rw [h', Option.map_none] at hl
    rw [Option.map_eq_none_iff.1 hl.symm]
  | some q =>
    rw [h', Option.map_some] at hl
    obtain ⟨p, hp, hphase⟩ := Option.map_eq_some_iff.1 hl.symm
    rw [hp]
    simp only [Option.elim_some]
    rw [hphase]

/-- Putting a letter into a mailbox changes no phase. -/
theorem phase_amend_take (l : Letter) (t : Tenant) :
    ((s.amend l.tenant fun post => post.take l).post? t).map (fun p => p.station.switch.phase) =
      (s.post? t).map fun p => p.station.switch.phase := by
  unfold post? amend
  simp only [List.getElem?_modify]
  cases s.posts[t.slot]? with
  | none => simp
  | some p =>
    split
    · simp [Post.take]
    · simp

theorem weigh_amend_take (l : Letter) :
    weigh σ (s.amend l.tenant fun post => post.take l) = weigh σ s + σ.stamp s l := by
  unfold Scale.stamp
  cases hp : s.post? l.tenant with
  | none =>
    rw [amend_of_none hp]
    rfl
  | some p =>
    have h := weigh_put σ hp (p.take l)
    rw [amend_eq hp, Option.elim_some]
    have hpost : σ.post (p.take l) = σ.post p + σ.letter p.station.switch.phase
        (.request 0 l.request (some (.relay l.tenant 0 l.tracked l.client))) := by
      have hone := σ.anonymous p.station.switch.phase p.channel.nextId 0 l.request l.tenant
        l.tracked l.client
      unfold Scale.post Post.take
      simp only [Scale.mail_append, Scale.mail_cons, Scale.mail_nil, hone]
      omega
    omega

/-- What letters add. -/
theorem weigh_deliver (ls : List Letter) :
    weigh σ (s.deliver ls) = weigh σ s + (ls.map (σ.stamp s)).sum := by
  induction ls generalizing s with
  | nil => simp [deliver]
  | cons l ls ih =>
    have hstamp : ls.map (σ.stamp (s.amend l.tenant fun post => post.take l)) =
        ls.map (σ.stamp s) :=
      List.map_congr_left fun k _ => σ.stamp_congr (phase_amend_take l) k
    have h := ih (s := s.amend l.tenant fun post => post.take l)
    unfold deliver at h ⊢
    rw [List.foldl_cons, h, weigh_amend_take, hstamp, List.map_cons, List.sum_cons]
    omega

/-- What a turn of the arbiter adds. -/
theorem weigh_ruled (a : Arbiter) (ls : List Letter) (es : List Errand) :
    weigh σ (s.ruled a ls es) = weigh σ s + (ls.map (σ.stamp s)).sum + σ.load es := by
  unfold ruled
  rw [weigh_give, weigh_deliver]
  rfl

/-- The letters of the arbiter are those of its connects and those of its requests to clean
up. -/
theorem sum_map_letterOf (f : Letter → Nat) (new : List Arbiter.Effect) :
    ((new.filterMap letterOf).map f).sum =
      ((Arbiter.sendings new).map fun e =>
        f ⟨e.tenant, .acquire e.dataClass e.grant, some (.grant e.grant), .nobody⟩).sum +
      ((Arbiter.cleaned new).map fun t => f ⟨t, .cleanupAll, some .cleanup, .nobody⟩).sum := by
  induction new with
  | nil => rfl
  | cons e new ih =>
    cases e with
    | connect t c g =>
      rw [List.filterMap_cons_some (letterOf_connect t c g)]
      simp only [List.map_cons, List.sum_cons, Arbiter.sendings_connect, Arbiter.cleaned_connect]
      omega
    | cleanupAll t =>
      rw [List.filterMap_cons_some (letterOf_cleanupAll t)]
      simp only [List.map_cons, List.sum_cons, Arbiter.sendings_cleanupAll,
        Arbiter.cleaned_cleanupAll]
      omega
    | event e =>
      rw [List.filterMap_cons_none (letterOf_event e)]
      simpa using ih

/-! ## What changes weigh -/

/-- A switch has taken a signal. -/
theorem weigh_heard {t : Tenant} {p : Post} {signal : Signal} {rest : List Signal}
    (hp : s.post? t = some p) (hsig : p.signals = signal :: rest) (switch : Switch Caller) :
    weigh σ (s.after t { p with signals := rest } switch) + σ.signal signal +
        σ.mail p.station.switch.phase p.channel.mailbox + σ.kept p.station.switch.parked +
        σ.phase p.station.switch.tenant p.station.switch.phase =
      weigh σ s + σ.mail switch.phase p.channel.mailbox + σ.kept switch.parked +
        σ.phase switch.tenant switch.phase +
        (Switch.submissions switch.outbox).length * σ.job +
        σ.news ((Switch.notices switch.outbox).flatMap p.tell) +
        σ.load ((Switch.answers switch.outbox).flatMap (errandsOf t)) := by
  have h := weigh_after σ hp { p with signals := rest } switch
  have hold : σ.post p = σ.mail p.station.switch.phase p.channel.mailbox +
      σ.kept p.station.switch.parked + (σ.signal signal + σ.told rest) +
      σ.phase p.station.switch.tenant p.station.switch.phase := by
    rw [Scale.post, hsig, Scale.told_cons]
  have hnew : σ.post { p with signals := rest, station := p.station.put switch } =
      σ.mail switch.phase p.channel.mailbox + σ.kept switch.parked + σ.told rest +
        σ.phase switch.tenant switch.phase := rfl
  have htell : ({ p with signals := rest } : Post).tell = p.tell := rfl
  rw [htell] at h
  simp only at h
  omega

/-- A switch has taken a request. -/
theorem weigh_read {t : Tenant} {p : Post} {m : Message Caller Sink}
    {rest : List (Message Caller Sink)} (hp : s.post? t = some p)
    (hmail : p.channel.mailbox = m :: rest) (switch : Switch Caller) :
    weigh σ (s.after t (p.unread rest) switch) + σ.letter p.station.switch.phase m +
        σ.mail p.station.switch.phase rest + σ.kept p.station.switch.parked +
        σ.phase p.station.switch.tenant p.station.switch.phase =
      weigh σ s + σ.mail switch.phase rest + σ.kept switch.parked +
        σ.phase switch.tenant switch.phase +
        (Switch.submissions switch.outbox).length * σ.job +
        σ.news ((Switch.notices switch.outbox).flatMap p.tell) +
        σ.load ((Switch.answers switch.outbox).flatMap (errandsOf t)) := by
  have h := weigh_after σ hp (p.unread rest) switch
  have hold : σ.post p = σ.letter p.station.switch.phase m +
      σ.mail p.station.switch.phase rest + σ.kept p.station.switch.parked + σ.told p.signals +
      σ.phase p.station.switch.tenant p.station.switch.phase := by
    rw [Scale.post, hmail, Scale.mail_cons]
  have hnew : σ.post { p.unread rest with station := (p.unread rest).station.put switch } =
      σ.mail switch.phase rest + σ.kept switch.parked + σ.told p.signals +
        σ.phase switch.tenant switch.phase := rfl
  have htell : (p.unread rest).tell = p.tell := rfl
  rw [htell] at h
  simp only at h hnew
  omega

/-- A switch has taken a subscriber. -/
theorem weigh_enrolled {t : Tenant} {p : Post} {m : Message Caller Sink}
    {rest : List (Message Caller Sink)} (hp : s.post? t = some p)
    (hmail : p.channel.mailbox = m :: rest) (filter : NoticeFilter) (sink : Sink) :
    weigh σ (s.enrolled t (p.unread rest) filter sink) + σ.letter p.station.switch.phase m =
      weigh σ s + σ.news (if filter = .all ∧ sink = .arbiter then
        [.updated p.station.switch.snapshot] else []) := by
  have h := weigh_put σ hp { p.unread rest with station := { p.station with
    subscribers := p.station.subscribers ++ [⟨p.station.nextSubscription, filter, sink⟩]
    nextSubscription := p.station.nextSubscription + 1 } }
  have hold : σ.post p = σ.letter p.station.switch.phase m +
      σ.mail p.station.switch.phase rest + σ.kept p.station.switch.parked + σ.told p.signals +
      σ.phase p.station.switch.tenant p.station.switch.phase := by
    rw [Scale.post, hmail, Scale.mail_cons]
  have hnew : σ.post { p.unread rest with station := { p.station with
      subscribers := p.station.subscribers ++ [⟨p.station.nextSubscription, filter, sink⟩]
      nextSubscription := p.station.nextSubscription + 1 } } =
      σ.mail p.station.switch.phase rest + σ.kept p.station.switch.parked + σ.told p.signals +
      σ.phase p.station.switch.tenant p.station.switch.phase := rfl
  have hsum : weigh σ (s.enrolled t (p.unread rest) filter sink) =
      weigh σ (s.put t { p.unread rest with station := { p.station with
        subscribers := p.station.subscribers ++ [⟨p.station.nextSubscription, filter, sink⟩]
        nextSubscription := p.station.nextSubscription + 1 } }) +
      σ.news (if filter = .all ∧ sink = .arbiter then
        [.updated p.station.switch.snapshot] else []) := by
    unfold weigh enrolled
    simp only [Scale.news_append, Post.unread]
    have hsame : ∀ q, (s.put t q).notices = s.notices := fun _ => rfl
    rw [hsame]
    omega
  omega

/-- A post has more signals. -/
theorem weigh_signalled {t : Tenant} {p : Post} (hp : s.post? t = some p) (signals : List Signal) :
    weigh σ (s.put t (p.signalled signals)) = weigh σ s + σ.told signals := by
  have h := weigh_put σ hp (p.signalled signals)
  have hnew : σ.post (p.signalled signals) = σ.post p + σ.told signals := by
    unfold Scale.post Post.signalled
    simp only [Scale.told_append]
    omega
  omega

/-- The modem has executed a command. -/
theorem weigh_executed {job : Modem.Job} {rest : List Modem.Job} {p : Post}
    (hjobs : s.pipeline.jobs = job :: rest) (hp : s.post? job.tenant = some p) :
    weigh σ (s.executed job rest p) + σ.job =
      weigh σ s + σ.told (Modem.signals job.token job.command
        (s.pipeline.modem.execute job.tenant job.command).2) := by
  have hp' : ({ s with pipeline := { s.pipeline with
      jobs := rest
      modem := (s.pipeline.modem.execute job.tenant job.command).1 } } : Service).post?
        job.tenant = some p := hp
  have h := weigh_signalled σ hp' (Modem.signals job.token job.command
    (s.pipeline.modem.execute job.tenant job.command).2)
  have hpop : weigh σ { s with pipeline := { s.pipeline with
      jobs := rest
      modem := (s.pipeline.modem.execute job.tenant job.command).1 } } + σ.job = weigh σ s := by
    unfold weigh
    rw [hjobs, List.length_cons, Nat.add_one_mul]
    simp only
    omega
  have heq : s.executed job rest p = ({ s with pipeline := { s.pipeline with
      jobs := rest
      modem := (s.pipeline.modem.execute job.tenant job.command).1 } } : Service).put job.tenant
        (p.signalled (Modem.signals job.token job.command
          (s.pipeline.modem.execute job.tenant job.command).2)) := rfl
  rw [heq]
  omega

/-- The modem has taken a control that changes a radio. -/
theorem weigh_tuned {t : Tenant} {radio : Radio} {rest : List Control}
    (hcontrols : s.controls = .radio t radio :: rest) :
    ∃ signals : List Signal, (signals = [] ∨ signals = [.radio radio]) ∧
      weigh σ (s.tuned t radio rest) + σ.control (.radio t radio) =
        weigh σ s + σ.told signals := by
  have hpop : weigh σ { s with controls := rest, pipeline :=
      { s.pipeline with modem := (s.pipeline.modem.setRadio t radio).1 } } +
        σ.control (.radio t radio) = weigh σ s := by
    unfold weigh
    rw [hcontrols, List.map_cons, List.sum_cons]
    simp only
    omega
  rcases s.tuned_cases t radio rest with ⟨-, h⟩ | ⟨p, signals, hp, hsignals, h⟩
  · refine ⟨[], .inl rfl, ?_⟩
    rw [h, hpop]
    rfl
  · refine ⟨signals, hsignals, ?_⟩
    have hsum := weigh_signalled σ (s := { s with controls := rest, pipeline :=
      { s.pipeline with modem := (s.pipeline.modem.setRadio t radio).1 } }) hp signals
    rw [h, ← hpop]
    omega

/-- The modem has taken another control. -/
theorem weigh_steered {control : Control} {rest : List Control} {pipeline : Modem.Pipeline Unit}
    (hcontrols : s.controls = control :: rest) (halike : Alike s.pipeline pipeline) :
    weigh σ { s with controls := rest, pipeline := pipeline } + σ.control control = weigh σ s := by
  unfold weigh
  rw [hcontrols, List.map_cons, List.sum_cons]
  simp only [halike.jobs]
  omega

/-- The arbiter takes a notice. -/
theorem weigh_notices {n : Notice} {rest : List Notice} (h : s.notices = n :: rest) :
    weigh σ { s with notices := rest } + σ.notice n = weigh σ s := by
  unfold weigh
  rw [h, Scale.news_cons]
  simp only
  omega

/-- The arbiter takes an answer. -/
theorem weigh_tidings {x : Tidings} {rest : List Tidings} (h : s.tidings = x :: rest) :
    weigh σ { s with tidings := rest } + σ.tidings x = weigh σ s := by
  unfold weigh
  rw [h, List.map_cons, List.sum_cons]
  simp only
  omega

/-- The arbiter takes a command. -/
theorem weigh_commands {c : Arbiter.Command Client} {rest : List (Arbiter.Command Client)}
    (h : s.commands = c :: rest) :
    weigh σ { s with commands := rest } + σ.command c = weigh σ s := by
  unfold weigh
  rw [h, List.map_cons, List.sum_cons]
  simp only
  omega

/-- A courier takes an errand. -/
theorem weigh_errands {e : Errand} {before rest : List Errand} (h : s.errands = before ++ e :: rest) :
    weigh σ { s with errands := before ++ rest } + σ.errand e = weigh σ s := by
  unfold weigh
  rw [h]
  simp only [Scale.load_append, Scale.load_cons]
  omega

/-- A courier has brought a connect to the arbiter. -/
theorem weigh_asked {t : Tenant} {id : Nat} {c : DataClass} {caller : Caller}
    {before rest : List Errand} (h : s.errands = before ++ .ask t id c caller :: rest) :
    weigh σ { s with
        errands := before ++ rest
        commands := s.commands ++ [.activate t c (.ask t id caller)] } +
        σ.errand (.ask t id c caller) =
      weigh σ s + σ.command (.activate t c (.ask t id caller)) := by
  have hpop := weigh_errands σ h
  unfold weigh at hpop ⊢
  simp only [List.map_append, List.sum_append, List.map_cons, List.map_nil, List.sum_cons,
    List.sum_nil] at hpop ⊢
  omega

/-- A courier has brought an outcome to the arbiter and the client. -/
theorem weigh_settled {t : Tenant} {id : Nat} {tracked : Option Arbiter.Tracked} {client : Client}
    {outcome : Outcome} {before rest : List Errand}
    (h : s.errands = before ++ .settle t id tracked client outcome :: rest) (es : List Errand) :
    weigh σ ({ s with
        errands := before ++ rest
        tidings := s.tidings ++ (tracked.map fun x => (⟨t, x, outcome⟩ : Tidings)).toList }.give es) +
        σ.errand (.settle t id tracked client outcome) =
      weigh σ s + (tracked.elim 0 fun x => σ.tidings ⟨t, x, outcome⟩) + σ.load es := by
  have hpop := weigh_errands σ h
  rw [weigh_give]
  unfold weigh at hpop ⊢
  cases tracked with
  | none =>
    simp only [Option.map_none, Option.toList_none, List.append_nil, Option.elim_none] at hpop ⊢
    omega
  | some x =>
    simp only [Option.map_some, Option.toList_some, List.map_append, List.sum_append,
      List.map_cons, List.map_nil, List.sum_cons, List.sum_nil, Option.elim_some] at hpop ⊢
    omega

/-- A message has been put into a mailbox. -/
theorem weigh_mailed {t : Tenant} {p : Post} (hp : s.post? t = some p) (nextId : Nat)
    (more : List (Message Caller Sink)) :
    weigh σ (s.put t { p with channel := { p.channel with
        nextId := nextId, mailbox := p.channel.mailbox ++ more } }) =
      weigh σ s + σ.mail p.station.switch.phase more := by
  have h := weigh_put σ hp { p with channel := { p.channel with
    nextId := nextId, mailbox := p.channel.mailbox ++ more } }
  have hnew : σ.post { p with channel := { p.channel with
      nextId := nextId, mailbox := p.channel.mailbox ++ more } } =
      σ.post p + σ.mail p.station.switch.phase more := by
    unfold Scale.post
    simp only [Scale.mail_append]
    omega
  omega

end DataPath.Service
