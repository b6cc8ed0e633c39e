import DataPath.Proofs.Service.Invariant
import Mathlib.Data.Prod.Lex

/-!
# The service comes to rest

Left to itself, the service stops moving: no matter in which order its parts take their turns,
there is no infinite run (`wellFounded_step`).

Moves beget moves.  A connect that is parked becomes a question for the arbiter, the question an
activation, the activation a connect with a grant, and that one may be parked again.  Two weights
tell why this does not go on for ever.

* The *stock* is what can still bring a switch round its cycle.  A connect on its way, in whatever
  shape, is worth a round, and so is a class that the arbiter owes; a round uses it up.  A change
  of a radio is worth a round too, since the arbiter may activate the default class by it.
* The *toil* is what is left to be done while the stock stays the same, and every switch stays
  live or does not become live.  A connect that a releasing switch parks comes closer to the
  arbiter, a reply comes closer to whoever waits for it, and a request to clean up that a live
  switch will read is worth next to nothing, as reading it starts a release and so uses up
  stock.

Every move lowers the stock, or keeps it and lowers the toil (`lighter_of_step`).
-/

namespace DataPath.Service

/-! ## The two scales -/

/-- What a phase is worth: a live switch has two steps to go until it is idle again. -/
def cycle : Phase → Nat
  | .idle => 0
  | .releasing => 1
  | .acquiring | .active => 2

/-- Weighs what can bring a switch round its cycle. -/
def Scale.stock : Scale where
  letter _ m := match m with
    | .request _ request _ => if request.wanted?.isSome then 3 else 0
    | _ => 0
  parked _ := 3
  signal x := match x with
    | .radio _ => 3
    | _ => 0
  phase _ p := cycle p
  job := 0
  control c := if c.isRadio then 3 else 0
  notice n := if n.isRadio then 3 else 0
  tidings _ := 0
  command c := if c.isActivate then 3 else 0
  errand e := match e with
    | .ask .. => 3
    | _ => 0
  anonymous _ _ _ _ _ _ _ := rfl

/-- What it takes to bring an answer back: the arbiter has to hear of what it tracks. -/
def bringing : Option Arbiter.Tracked → Nat
  | none => 1
  | some _ => 3

/-- What it takes to serve a request, without the answer. -/
def serving : Request → Nat
  | .connect _ => 600
  | .acquire .. => 200
  | _ => 60

/-- Weighs what is left to be done until stock is used up. -/
def Scale.toil : Scale where
  letter p m := match m with
    | .request _ request handle =>
      if request = .cleanupAll ∧ p.isLive = true then 1
      else serving request + handleChain bringing 1 handle
    | _ => 3
  parked p := 100 + handleChain bringing 1 p.handle
  signal x := match x with
    | .radio _ => 800
    | _ => 2
  phase _ _ := 0
  job := 5
  control c := if c.isRadio then 900 else 1
  notice n := if n.isRadio then 700 else 1
  tidings _ := 2
  command c := match c with
    | .activate _ _ client => 400 + client.chain bringing 1
    | .deactivate _ _ client => 70 + client.chain bringing 1
    | .status client | .setDefaultTenant _ client => 2 + client.chain bringing 1
    | .shutdown => 1
  errand e := match e with
    | .ask _ _ _ caller => 500 + caller.chain bringing 1
    | .answer _ _ caller _ => 1 + caller.chain bringing 1
    | .settle _ _ tracked client _ => bringing tracked + client.chain bringing 1
  anonymous _ _ _ _ _ _ _ := by simp

theorem chained_toil : Chained Scale.toil bringing 1 where
  settle _ _ _ _ _ := rfl
  answer _ _ _ _ := rfl

/-- What can bring switches round their cycles, for the service with this arbiter. -/
def stock (s : Service) (a : Arbiter) : Nat := weigh Scale.stock s + 3 * a.debt

/-- What is left to be done until stock is used up. -/
def toil (s : Service) (a : Arbiter) : Nat := weigh Scale.toil s + 300 * a.debt

/-- A service that has less to do than another. -/
structure Lighter (s s' : Service) : Prop where
  stock_le : stock s' s'.arbiter ≤ stock s s.arbiter
  toil_lt : stock s' s'.arbiter = stock s s.arbiter → toil s' s'.arbiter < toil s s.arbiter

variable {s s' : Service} {a mid : Arbiter} {t : Tenant} {p : Post}

/-- What does not touch the arbiter lightens the service when its weights say so. -/
theorem lighter_of_weigh (harb : s'.arbiter = s.arbiter)
    (hstock : weigh Scale.stock s' ≤ weigh Scale.stock s)
    (htoil : weigh Scale.stock s' = weigh Scale.stock s →
      weigh Scale.toil s' < weigh Scale.toil s) : Lighter s s' := by
  refine ⟨?_, fun heq => ?_⟩
  · rw [harb, stock, stock]
    omega
  · rw [harb, stock, stock] at heq
    have hlt := htoil (by omega)
    rw [harb, toil, toil]
    omega

/-! ## Moves of a switch -/

/-- A switch that is followed in its cycle does not climb, and when it stays on its level it is
as live as before. -/
theorem cycle_le_of_follows {q r : Phase} (h : q.Follows r) (hidle : q = .idle → r = .idle) :
    cycle r ≤ cycle q ∧ (cycle r = cycle q → r.isLive = q.isLive) := by
  cases q with
  | idle =>
    rw [hidle rfl]
    exact ⟨Nat.le_refl _, fun _ => rfl⟩
  | releasing =>
    rw [h.2 rfl]
    exact ⟨Nat.le_refl _, fun _ => rfl⟩
  | acquiring | active =>
    cases r <;> exact ⟨by decide, by decide⟩

theorem mail_stock (p q : Phase) (ms : List (Message Caller Sink)) :
    Scale.stock.mail p ms = Scale.stock.mail q ms := rfl

/-- The toil of a mailbox depends on whether its switch is live. -/
theorem mail_toil {p q : Phase} (h : p.isLive = q.isLive) (ms : List (Message Caller Sink)) :
    Scale.toil.mail p ms = Scale.toil.mail q ms := by
  refine congrArg List.sum (List.map_congr_left fun m _ => ?_)
  unfold Scale.toil
  simp only [h]

/-- Updates are no stock, and little toil. -/
theorem news_updated (snapshot : Snapshot) :
    Scale.stock.news [.updated snapshot] = 0 ∧ Scale.toil.news [.updated snapshot] = 1 :=
  ⟨rfl, rfl⟩

/-- Notices reach the arbiter once, or not at all. -/
theorem news_tell_le (σ : Scale) (h : p.Wired t) (ns : List Notice) :
    σ.news (ns.flatMap p.tell) ≤ σ.news ns := by
  rcases h.attached with hl | hu
  · rw [hl.tell]
  · rw [hu.tell]
    exact Nat.zero_le _

/-- A switch that tells of its changes tells little. -/
theorem news_of_tellsChange {sw sw' : Switch Caller} {new : List (Switch.Effect Caller)}
    (h : p.Wired t) (htells : Switch.TellsChange sw sw' new) :
    Scale.stock.news ((Switch.notices new).flatMap p.tell) = 0 ∧
      Scale.toil.news ((Switch.notices new).flatMap p.tell) ≤ 1 := by
  have hstock := news_tell_le Scale.stock h (Switch.notices new)
  have htoil := news_tell_le Scale.toil h (Switch.notices new)
  rcases htells with ⟨hnot, -⟩ | hnot
  · rw [hnot] at hstock htoil ⊢
    exact ⟨rfl, Nat.zero_le 1⟩
  · obtain ⟨h1, h2⟩ := news_updated sw'.snapshot
    rw [hnot, h1] at hstock
    rw [hnot, h2] at htoil
    rw [hnot]
    exact ⟨Nat.le_zero.1 hstock, htoil⟩

/-- Answers are no stock. -/
theorem stock_replyTo (t : Tenant) (handle : Option Caller) (id : Nat) (body : ReplyBody) :
    Scale.stock.load ((Switch.replyTo handle id body).flatMap (errandsOf t)) = 0 := by
  cases handle with
  | none => rfl
  | some caller => cases caller <;> rfl

/-- What was parked becomes questions, or is refused. -/
theorem stock_replayed_le (t : Tenant) (radio : Radio) (ps : List (Switch.Parked Caller)) :
    Scale.stock.load ((ps.flatMap fun p => (Switch.replayed t radio p).2).flatMap (errandsOf t)) ≤
      Scale.stock.kept ps := by
  rw [load_replayed]
  refine List.sum_le_sum fun p _ => ?_
  unfold Switch.replayed
  split
  · rw [stock_replyTo]
    exact Nat.zero_le _
  · exact Nat.le_refl 3

/-- The change of a radio is told with what the signal was worth, and other news weigh next to
nothing. -/
theorem news_of_kept (h : p.Wired t) {signal : Signal} {sw' : Switch Caller}
    {new : List (Switch.Effect Caller)}
    (hnot : Switch.TellsChange p.station.switch sw' new ∨ ∃ radio, signal = .radio radio ∧
      Switch.notices new = [.radioChanged p.station.switch.tenant p.station.switch.radio radio,
        .updated sw'.snapshot]) :
    Scale.stock.news ((Switch.notices new).flatMap p.tell) ≤ Scale.stock.signal signal ∧
      Scale.toil.news ((Switch.notices new).flatMap p.tell) < Scale.toil.signal signal := by
  rcases hnot with htells | ⟨radio, rfl, hnot⟩
  · obtain ⟨h1, h2⟩ := news_of_tellsChange h htells
    have hlow : 2 ≤ Scale.toil.signal signal := by
      cases signal <;> simp [Scale.toil]
    exact ⟨h1 ▸ Nat.zero_le _, Nat.lt_of_le_of_lt h2 hlow⟩
  · have h1 := news_tell_le Scale.stock h (Switch.notices new)
    have h2 := news_tell_le Scale.toil h (Switch.notices new)
    have hboth : ∀ source snapshot,
        Scale.stock.news [.radioChanged p.station.switch.tenant source radio,
          .updated snapshot] = 3 ∧
        Scale.toil.news [.radioChanged p.station.switch.tenant source radio,
          .updated snapshot] = 701 := fun _ _ => ⟨rfl, rfl⟩
    rw [hnot, (hboth _ _).1] at h1
    rw [hnot, (hboth _ _).2] at h2
    rw [hnot]
    exact ⟨h1, Nat.lt_of_le_of_lt h2 (by simp [Scale.toil])⟩

/-- What a signal does to the stock. -/
theorem stock_heard (hp : s.post? t = some p) {signal : Signal} {rest : List Signal}
    (hsig : p.signals = signal :: rest) (sw' : Switch Caller) :
    weigh Scale.stock (s.after t { p with signals := rest } sw') + Scale.stock.signal signal +
        Scale.stock.kept p.station.switch.parked + cycle p.station.switch.phase =
      weigh Scale.stock s + Scale.stock.kept sw'.parked + cycle sw'.phase +
        Scale.stock.news ((Switch.notices sw'.outbox).flatMap p.tell) +
        Scale.stock.load ((Switch.answers sw'.outbox).flatMap (errandsOf t)) := by
  have h := weigh_heard Scale.stock hp hsig sw'
  have hcycle : ∀ u q, Scale.stock.phase u q = cycle q := fun _ _ => rfl
  have hjob : Scale.stock.job = 0 := rfl
  rw [hcycle, hcycle, hjob, mail_stock sw'.phase p.station.switch.phase] at h
  omega

/-- What a signal does to the toil, if the switch is as live as before. -/
theorem toil_heard (hp : s.post? t = some p) {signal : Signal} {rest : List Signal}
    (hsig : p.signals = signal :: rest) (sw' : Switch Caller)
    (hlive : sw'.phase.isLive = p.station.switch.phase.isLive) :
    weigh Scale.toil (s.after t { p with signals := rest } sw') + Scale.toil.signal signal +
        Scale.toil.kept p.station.switch.parked =
      weigh Scale.toil s + Scale.toil.kept sw'.parked +
        (Switch.submissions sw'.outbox).length * 5 +
        Scale.toil.news ((Switch.notices sw'.outbox).flatMap p.tell) +
        Scale.toil.load ((Switch.answers sw'.outbox).flatMap (errandsOf t)) := by
  have h := weigh_heard Scale.toil hp hsig sw'
  have hflat : ∀ u q, Scale.toil.phase u q = 0 := fun _ _ => rfl
  have hjob : Scale.toil.job = 5 := rfl
  rw [hflat, hflat, hjob, mail_toil hlive] at h
  omega

/-- A switch takes a signal. -/
theorem lighter_heard (h : p.Wired t) (hp : s.post? t = some p) {signal : Signal}
    {rest : List Signal} (hsig : p.signals = signal :: rest) :
    Lighter s (s.after t { p with signals := rest } (p.station.switch.hear signal)) := by
  have hstock := stock_heard hp hsig (p.station.switch.hear signal)
  obtain ⟨-, -, -, hcase⟩ := hear_cases h.arbitrated h.outbox signal
  cases hcase with
  | released token fault replaying hs htoken hphase hidle hparked hans hsub hnot =>
    subst hs
    have hnews := news_tell_le Scale.stock h
      (Switch.notices (p.station.switch.hear (.completed token fault)).outbox)
    have hnone : Scale.stock.news
        (Switch.notices (p.station.switch.hear (.completed token fault)).outbox) = 0 := by
      rw [hnot]
      rfl
    have hload := stock_replayed_le p.station.switch.tenant p.station.switch.radio
      p.station.switch.parked
    have hround : cycle .releasing = 1 ∧ cycle .idle = 0 := ⟨rfl, rfl⟩
    rw [hans, hparked, hphase, hidle, hround.1, hround.2, Scale.kept_nil] at hstock
    rw [h.tenant] at hload hstock
    exact lighter_of_weigh rfl (by omega) (by omega)
  | kept hfollows hidle hparked hans hsub hnot =>
    obtain ⟨hle, hlive⟩ := cycle_le_of_follows hfollows hidle
    obtain ⟨hnews, hnews'⟩ := news_of_kept h hnot
    rw [hans, hparked, List.flatMap_nil, Scale.load_nil] at hstock
    refine lighter_of_weigh rfl (by omega) fun heq => ?_
    -- The switch stays on its level, so no release has started and nothing is submitted.
    have hsame := hlive (by omega)
    have hnone : Switch.submissions (p.station.switch.hear signal).outbox = [] := by
      rcases hsub with hsub | ⟨-, hold, hnew⟩
      · exact hsub
      · rw [hnew, hold] at hsame
        cases hsame
    have htoil := toil_heard hp hsig (p.station.switch.hear signal) hsame
    rw [hans, hparked, hnone, List.length_nil, List.flatMap_nil, Scale.load_nil] at htoil
    omega

/-- Serving takes some toil, whatever is asked. -/
theorem le_serving (request : Request) : 60 ≤ serving request := by
  cases request <;> simp [serving]

/-- A request is less toil than any other only when it ends a live phase. -/
theorem toil_letter (q : Phase) (id : Nat) (request : Request) (handle : Option Caller)
    (h : ¬(request = .cleanupAll ∧ q.isLive = true)) :
    Scale.toil.letter q (.request id request handle) =
      serving request + handleChain bringing 1 handle := if_neg h

/-- A request with a class is worth a round. -/
theorem stock_letter_of_wanted {request : Request} {c : DataClass}
    (hwant : request.wanted? = some c) (q : Phase) (id : Nat) (handle : Option Caller) :
    Scale.stock.letter q (.request id request handle) = 3 :=
  if_pos (by rw [hwant]; rfl)

/-- A request with a class is more toil than one that is parked. -/
theorem le_toil_letter_of_wanted {request : Request} {c : DataClass}
    (hwant : request.wanted? = some c) (q : Phase) (id : Nat) (handle : Option Caller) :
    200 + handleChain bringing 1 handle ≤ Scale.toil.letter q (.request id request handle) := by
  have hnot : ¬(request = .cleanupAll ∧ q.isLive = true) := by
    rintro ⟨rfl, -⟩
    cases hwant
  have hserve : 200 ≤ serving request := by
    cases request with
    | connect c | acquire c g => simp [serving]
    | _ => cases hwant
  rw [toil_letter _ _ _ _ hnot]
  omega

/-- What a request does to the stock. -/
theorem stock_read (h : p.Wired t) (hp : s.post? t = some p) {id : Nat} {request : Request}
    {handle : Option Caller} {rest : List (Message Caller Sink)}
    (hmail : p.channel.mailbox = .request id request handle :: rest) {sw' : Switch Caller}
    (htells : Switch.TellsChange p.station.switch sw' sw'.outbox) :
    weigh Scale.stock (s.after t (p.unread rest) sw') +
        Scale.stock.letter p.station.switch.phase (.request id request handle) +
        Scale.stock.kept p.station.switch.parked + cycle p.station.switch.phase =
      weigh Scale.stock s + Scale.stock.kept sw'.parked + cycle sw'.phase +
        Scale.stock.load ((Switch.answers sw'.outbox).flatMap (errandsOf t)) := by
  have hw := weigh_read Scale.stock hp hmail sw'
  have hcycle : ∀ u q, Scale.stock.phase u q = cycle q := fun _ _ => rfl
  have hjob : Scale.stock.job = 0 := rfl
  rw [hcycle, hcycle, hjob, mail_stock sw'.phase p.station.switch.phase,
    (news_of_tellsChange h htells).1] at hw
  omega

/-- What a request does to the toil, if the switch is as live as before. -/
theorem toil_read (h : p.Wired t) (hp : s.post? t = some p) {id : Nat} {request : Request}
    {handle : Option Caller} {rest : List (Message Caller Sink)}
    (hmail : p.channel.mailbox = .request id request handle :: rest) {sw' : Switch Caller}
    (htells : Switch.TellsChange p.station.switch sw' sw'.outbox)
    (hlive : sw'.phase.isLive = p.station.switch.phase.isLive) :
    weigh Scale.toil (s.after t (p.unread rest) sw') +
        Scale.toil.letter p.station.switch.phase (.request id request handle) +
        Scale.toil.kept p.station.switch.parked ≤
      weigh Scale.toil s + Scale.toil.kept sw'.parked +
        (Switch.submissions sw'.outbox).length * 5 + 1 +
        Scale.toil.load ((Switch.answers sw'.outbox).flatMap (errandsOf t)) := by
  have hw := weigh_read Scale.toil hp hmail sw'
  have hflat : ∀ u q, Scale.toil.phase u q = 0 := fun _ _ => rfl
  have hjob : Scale.toil.job = 5 := rfl
  have hnews := (news_of_tellsChange h htells).2
  rw [hflat, hflat, hjob, mail_toil hlive] at hw
  omega

/-- A switch takes a request. -/
theorem lighter_read (h : p.Wired t) (hp : s.post? t = some p) {id : Nat} {request : Request}
    {handle : Option Caller} {rest : List (Message Caller Sink)}
    (hmail : p.channel.mailbox = .request id request handle :: rest) :
    Lighter s (s.after t (p.unread rest) (p.station.switch.handle id request handle)) := by
  obtain ⟨-, -, -, htells, hfollows, hcase⟩ := read_cases h.arbitrated h.outbox id request handle
  have hstock := stock_read h hp hmail htells
  have htoil := toil_read h hp hmail htells
  cases hcase with
  | answered body hans hparked hlen hidle hclean =>
    rw [hans, hparked, stock_replyTo] at hstock
    rw [hans, hparked, chained_toil.load_replyTo] at htoil
    by_cases hacq : request.isAcquire = true
    · -- The round that the connect was worth pays for a switch that becomes live.
      have hletter : Scale.stock.letter p.station.switch.phase (.request id request handle) = 3 := by
        cases request with
        | acquire c g => rfl
        | _ => cases hacq
      have htop : cycle (p.station.switch.handle id request handle).phase ≤ 2 := by
        cases (p.station.switch.handle id request handle).phase <;> exact by decide
      exact lighter_of_weigh rfl (by omega) (by omega)
    · obtain ⟨hle, hlive⟩ := cycle_le_of_follows hfollows fun hi => hidle hi (by simpa using hacq)
      refine lighter_of_weigh rfl (by omega) fun heq => ?_
      have hsame := hlive (by omega)
      have hnot : ¬(request = .cleanupAll ∧ p.station.switch.phase.isLive = true) := by
        rintro ⟨rfl, hwas⟩
        rw [(hclean rfl).1 hwas, hwas] at hsame
        cases hsame
      have hserve := le_serving request
      have hletter := toil_letter _ id _ handle hnot
      have hless := htoil hsame
      omega
  | parked c hwant hphase hans hparked hsub hkeep =>
    have hletter := stock_letter_of_wanted hwant p.station.switch.phase id handle
    have hletter' := le_toil_letter_of_wanted hwant p.station.switch.phase id handle
    have hone : Scale.stock.kept [⟨id, c, handle⟩] = 3 ∧
        Scale.toil.kept [⟨id, c, handle⟩] = 100 + handleChain bringing 1 handle := ⟨rfl, rfl⟩
    have hless := htoil (by rw [hkeep])
    rw [hans, hparked, hkeep, Scale.kept_append, List.flatMap_nil, Scale.load_nil] at hstock
    rw [hans, hparked, hsub, Scale.kept_append, List.flatMap_nil, Scale.load_nil,
      List.length_nil] at hless
    exact lighter_of_weigh rfl (by omega) (by omega)
  | asked c hwant hphase hans hparked hsub hkeep =>
    subst hwant
    have hletter : Scale.stock.letter p.station.switch.phase (.request id (.connect c) handle) = 3 :=
      rfl
    have hletter' : Scale.toil.letter p.station.switch.phase (.request id (.connect c) handle) =
        600 + handleChain bringing 1 handle := toil_letter _ _ _ _ (by simp)
    have hload : Scale.stock.load ([.askOwnership id c handle].flatMap (errandsOf t)) = 3 ∧
        Scale.toil.load ([.askOwnership id c handle].flatMap (errandsOf t)) =
          500 + handleChain bringing 1 handle := by
      refine ⟨rfl, ?_⟩
      rw [← chain_getD]
      rfl
    have hless := htoil (by rw [hkeep])
    rw [hans, hparked, hkeep, hload.1] at hstock
    rw [hans, hparked, hsub, hload.2, List.length_nil] at hless
    exact lighter_of_weigh rfl (by omega) (by omega)

/-- A switch takes a subscriber. -/
theorem lighter_enrolled {filter : NoticeFilter} {sink : Sink} {handle : Caller}
    {rest : List (Message Caller Sink)} (hp : s.post? t = some p)
    (hmail : p.channel.mailbox = .subscribe filter sink handle :: rest) :
    Lighter s (s.enrolled t (p.unread rest) filter sink) := by
  have hstock := weigh_enrolled Scale.stock hp hmail filter sink
  have htoil := weigh_enrolled Scale.toil hp hmail filter sink
  have hletter : ∀ q, Scale.stock.letter q (.subscribe filter sink handle) = 0 ∧
      Scale.toil.letter q (.subscribe filter sink handle) = 3 := fun _ => ⟨rfl, rfl⟩
  have hnews : ∀ σ : Scale, σ.news (if filter = .all ∧ sink = .arbiter then
      [.updated p.station.switch.snapshot] else []) ≤
        σ.news [.updated p.station.switch.snapshot] := by
    intro σ
    split
    · exact Nat.le_refl _
    · exact Nat.zero_le _
  obtain ⟨h1, h2⟩ := news_updated p.station.switch.snapshot
  have hnews₁ := hnews Scale.stock
  have hnews₂ := hnews Scale.toil
  rw [(hletter _).1] at hstock
  rw [(hletter _).2] at htoil
  exact lighter_of_weigh rfl (by omega) (by omega)

/-! ## Turns of the arbiter -/

/-- A letter is as heavy as its reader finds it. -/
theorem Scale.stamp_le (σ : Scale) {l : Letter} {x : Nat} (h : ∀ p, s.post? l.tenant = some p →
      σ.letter p.station.switch.phase
        (.request 0 l.request (some (.relay l.tenant 0 l.tracked l.client))) ≤ x) :
    σ.stamp s l ≤ x := by
  unfold stamp
  cases hp : s.post? l.tenant with
  | none => exact Nat.zero_le x
  | some p => exact h p hp

/-- What the letters of the arbiter weigh at most. -/
theorem sum_stamp_le (σ : Scale) (new : List Arbiter.Effect) {x y : Nat}
    (hsend : ∀ e ∈ Arbiter.sendings new, σ.stamp s
      ⟨e.tenant, .acquire e.dataClass e.grant, some (.grant e.grant), .nobody⟩ ≤ x)
    (hclean : ∀ u ∈ Arbiter.cleaned new,
      σ.stamp s ⟨u, .cleanupAll, some .cleanup, .nobody⟩ ≤ y) :
    ((new.filterMap letterOf).map (σ.stamp s)).sum ≤
      (Arbiter.sendings new).length * x + (Arbiter.cleaned new).length * y := by
  rw [sum_map_letterOf]
  refine Nat.add_le_add ?_ ?_
  · have h := List.sum_le_card_nsmul ((Arbiter.sendings new).map fun e => σ.stamp s
      ⟨e.tenant, .acquire e.dataClass e.grant, some (.grant e.grant), .nobody⟩) x
      (List.forall_mem_map.2 hsend)
    rwa [List.length_map, Nat.nsmul_eq_mul] at h
  · have h := List.sum_le_card_nsmul ((Arbiter.cleaned new).map fun u => σ.stamp s
      ⟨u, .cleanupAll, some .cleanup, .nobody⟩) y (List.forall_mem_map.2 hclean)
    rwa [List.length_map, Nat.nsmul_eq_mul] at h

theorem stamp_stock_le (l : Letter) : Scale.stock.stamp s l ≤ if l.request.wanted?.isSome then 3 else 0 :=
  Scale.stock.stamp_le fun _ _ => Nat.le_refl _

/-- A connect with a grant is less toil than the class that the arbiter owes. -/
theorem stamp_toil_acquire_le (t : Tenant) (c : DataClass) (g : Grant) (client : Client) :
    Scale.toil.stamp s ⟨t, .acquire c g, some (.grant g), client⟩ ≤
      203 + client.chain bringing 1 := by
  refine Scale.toil.stamp_le fun p _ => ?_
  have hletter := toil_letter p.station.switch.phase 0 (.acquire c g)
    (some (.relay t 0 (some (.grant g)) client)) (by simp)
  rw [hletter, handleChain_some, Caller.chain_relay]
  simp only [serving, bringing]
  omega

theorem stamp_toil_cleanup_le (t : Tenant) :
    Scale.toil.stamp s ⟨t, .cleanupAll, some .cleanup, .nobody⟩ ≤ 63 := by
  refine Scale.toil.stamp_le fun p _ => ?_
  by_cases hlive : p.station.switch.phase.isLive = true
  · have hone : Scale.toil.letter p.station.switch.phase (.request 0 .cleanupAll
        (some (.relay t 0 (some .cleanup) .nobody))) = 1 := if_pos ⟨rfl, hlive⟩
    rw [hone]
    decide
  · rw [toil_letter _ _ _ _ fun hc => hlive hc.2]
    simp only [serving, handleChain_some, Caller.chain_relay, Client.chain_nobody, bringing]
    decide

/-- An arbiter that has taken all notices asks a switch to clean up that is live. -/
theorem stamp_toil_cleanup_le_one {s₀ : Service} (h : Owned s s.arbiter) (hnotices : s.notices = [])
    (hposts : s₀.posts = s.posts) (hphase : ∀ u, mid.phaseOf? u = s.arbiter.phaseOf? u)
    {sent : List Arbiter.Sending} {asked : List Tenant} (hturn : Arbiter.Turn 0 mid a sent asked)
    (u : Tenant) (hu : u ∈ asked) :
    Scale.toil.stamp s₀ ⟨u, .cleanupAll, some .cleanup, .nobody⟩ ≤ 1 := by
  refine Scale.toil.stamp_le fun p hp => ?_
  obtain ⟨q, hq, hlive⟩ := hturn.live rfl u hu
  have hp' : s.post? u = some p := by
    unfold post? at hp ⊢
    rwa [hposts] at hp
  rw [hphase, h.phase_eq hnotices hp', Option.some.injEq] at hq
  rw [hq]
  exact Nat.le_of_eq (if_pos ⟨rfl, hlive⟩)

/-- Outcomes are no stock. -/
theorem stock_errands (client : Client) (answer : Answer) :
    Scale.stock.load (client.errands answer) = 0 := by
  cases client with
  | ask t id caller => cases answer <;> rfl
  | _ => rfl

/-- A turn of the arbiter lightens the service, if what it has taken in weighs more than the
classes that it owes on account of it. -/
theorem lighter_ruled {s₀ : Service} {more y : Nat} {new : List Arbiter.Effect} {es : List Errand}
    (hdebt : mid.debt = s.arbiter.debt)
    (hturn : Arbiter.Turn more mid a (Arbiter.sendings new) (Arbiter.cleaned new))
    (hclean : ∀ u ∈ Arbiter.cleaned new,
      Scale.toil.stamp s₀ ⟨u, .cleanupAll, some .cleanup, .nobody⟩ ≤ y)
    (hstock : weigh Scale.stock s₀ + 3 * more + Scale.stock.load es ≤ weigh Scale.stock s)
    (htoil : weigh Scale.toil s₀ + 300 * more + y + Scale.toil.load es < weigh Scale.toil s) :
    Lighter s (s₀.ruled a (new.filterMap letterOf) es) := by
  have hsum := sum_stamp_le Scale.stock new (s := s₀) (x := 3) (y := 0)
    (fun e _ => stamp_stock_le _) fun u _ => stamp_stock_le _
  have hsum' := sum_stamp_le Scale.toil new (s := s₀) (x := 203)
    (fun e _ => by
      have h := stamp_toil_acquire_le (s := s₀) e.tenant e.dataClass e.grant .nobody
      rwa [Client.chain_nobody] at h) hclean
  have honce : (Arbiter.cleaned new).length * y ≤ y := by
    have h := Nat.mul_le_mul_right y hturn.once
    rwa [Nat.one_mul] at h
  have hpaid := hturn.debt
  refine ⟨?_, fun _ => ?_⟩
  · rw [arbiter_ruled, stock, stock, weigh_ruled]
    omega
  · rw [arbiter_ruled, toil, toil, weigh_ruled]
    omega

/-- The arbiter takes a notice, and asks nobody to clean up. -/
theorem lighter_noted {n : Notice} {rest : List Notice} {new : List Arbiter.Effect}
    (hnotices : s.notices = n :: rest) (hdebt : mid.debt = s.arbiter.debt)
    (hnone : Arbiter.cleaned new = [])
    (hturn : Arbiter.Turn (if n.isRadio then 1 else 0) mid a (Arbiter.sendings new)
      (Arbiter.cleaned new)) :
    Lighter s ({ s with notices := rest }.ruled a (new.filterMap letterOf) []) := by
  have hstock := weigh_notices Scale.stock hnotices
  have htoil := weigh_notices Scale.toil hnotices
  have hnotice : Scale.stock.notice n = 3 * (if n.isRadio then 1 else 0) ∧
      300 * (if n.isRadio then 1 else 0) < Scale.toil.notice n := by
    cases n <;> exact ⟨rfl, by simp [Scale.toil, Notice.isRadio]⟩
  have hasked : ∀ u ∈ Arbiter.cleaned new, Scale.toil.stamp { s with notices := rest }
      ⟨u, .cleanupAll, some .cleanup, .nobody⟩ ≤ 0 := by
    rw [hnone]
    simp
  exact lighter_ruled hdebt hturn hasked (by simp only [Scale.load_nil]; omega)
    (by simp only [Scale.load_nil]; omega)

/-- The arbiter takes the answer to something that it tracks. -/
theorem lighter_brief (h : Owned s s.arbiter) (hnotices : s.notices = []) {x : Tidings}
    {rest : List Tidings} {new : List Arbiter.Effect} (htidings : s.tidings = x :: rest)
    (hdebt : mid.debt = s.arbiter.debt) (hphase : ∀ u, mid.phaseOf? u = s.arbiter.phaseOf? u)
    (hturn : Arbiter.Turn 0 mid a (Arbiter.sendings new) (Arbiter.cleaned new)) :
    Lighter s ({ s with tidings := rest }.ruled a (new.filterMap letterOf) []) := by
  have hstock := weigh_tidings Scale.stock htidings
  have htoil := weigh_tidings Scale.toil htidings
  have hweight : Scale.stock.tidings x = 0 ∧ Scale.toil.tidings x = 2 := ⟨rfl, rfl⟩
  have hasked : ∀ u ∈ Arbiter.cleaned new, Scale.toil.stamp { s with tidings := rest }
      ⟨u, .cleanupAll, some .cleanup, .nobody⟩ ≤ 1 :=
    stamp_toil_cleanup_le_one h hnotices rfl hphase hturn
  exact lighter_ruled hdebt hturn hasked (by simp only [Scale.load_nil]; omega)
    (by simp only [Scale.load_nil]; omega)

/-- Serving a command other than an activation takes no stock, and more toil than its answer. -/
theorem command_le {command : Arbiter.Command Client} {client : Client}
    (hclient : command.client? = some client) (hact : command.isActivate = false) :
    Scale.stock.command command = 0 ∧
      2 + client.chain bringing 1 ≤ Scale.toil.command command := by
  cases command with
  | activate t c k => cases hact
  | deactivate t c k =>
    cases hclient
    exact ⟨rfl, Nat.add_le_add_right (by decide) _⟩
  | status k | setDefaultTenant t k =>
    cases hclient
    exact ⟨rfl, Nat.le_refl _⟩
  | shutdown => cases hclient

/-- The arbiter answers a command. -/
theorem lighter_replied (h : Owned s s.arbiter) (hnotices : s.notices = [])
    {command : Arbiter.Command Client} {rest : List (Arbiter.Command Client)} {client : Client}
    {answer : Answer} {new : List Arbiter.Effect} (hcommands : s.commands = command :: rest)
    (hclient : command.client? = some client)
    (hturn : Arbiter.Turn (if command.isActivate then 1 else 0) s.arbiter a
      (Arbiter.sendings new) (Arbiter.cleaned new)) :
    Lighter s ({ s with commands := rest }.ruled a (new.filterMap letterOf)
      (client.errands answer)) := by
  have hstock := weigh_commands Scale.stock hcommands
  have htoil := weigh_commands Scale.toil hcommands
  have hload := chained_toil.load_client_le client answer
  have hnone := stock_errands client answer
  cases hact : command.isActivate with
  | true =>
    cases command with
    | activate t c k =>
      cases hclient
      have hweight : Scale.stock.command (.activate t c client) = 3 ∧
          Scale.toil.command (.activate t c client) = 400 + client.chain bringing 1 := ⟨rfl, rfl⟩
      have hturn' : Arbiter.Turn 1 s.arbiter a (Arbiter.sendings new) (Arbiter.cleaned new) :=
        hturn
      exact lighter_ruled rfl hturn' (fun u _ => stamp_toil_cleanup_le u) (by omega) (by omega)
    | _ => cases hact
  | false =>
    have hweight := command_le hclient hact
    rw [hact] at hturn
    have hturn' : Arbiter.Turn 0 s.arbiter a (Arbiter.sendings new) (Arbiter.cleaned new) := hturn
    exact lighter_ruled rfl hturn' (stamp_toil_cleanup_le_one h hnotices rfl (fun _ => rfl) hturn')
      (by omega) (by omega)

/-- The arbiter sends an activation on. -/
theorem lighter_forwarded {c : DataClass} {client : Client} {rest : List (Arbiter.Command Client)}
    {g : Grant} {new : List Arbiter.Effect} (hcommands : s.commands = .activate t c client :: rest)
    (hturn : Arbiter.Turn 1 s.arbiter a [⟨t, c, g⟩] (Arbiter.cleaned new))
    (hsent : Arbiter.sendings new = []) :
    Lighter s ({ s with commands := rest }.ruled a
      (⟨t, .acquire c g, some (.grant g), client⟩ :: new.filterMap letterOf) []) := by
  have hstock := weigh_commands Scale.stock hcommands
  have htoil := weigh_commands Scale.toil hcommands
  have hweight : Scale.stock.command (.activate t c client) = 3 ∧
      Scale.toil.command (.activate t c client) = 400 + client.chain bringing 1 := ⟨rfl, rfl⟩
  have hfirst : Scale.stock.stamp { s with commands := rest }
      ⟨t, .acquire c g, some (.grant g), client⟩ ≤ 3 := stamp_stock_le _
  have hfirst' := stamp_toil_acquire_le (s := { s with commands := rest }) t c g client
  have hsum := sum_stamp_le Scale.stock new (s := { s with commands := rest }) (x := 3)
    (y := 0) (fun e _ => stamp_stock_le _) fun u _ => stamp_stock_le _
  have hsum' := sum_stamp_le Scale.toil new (s := { s with commands := rest }) (x := 0)
    (fun e he => by
      rw [hsent] at he
      cases he) fun u _ => stamp_toil_cleanup_le u
  have hpaid := hturn.debt
  have honce := hturn.once
  rw [hsent, List.length_nil] at hsum hsum'
  rw [List.length_singleton] at hpaid
  refine ⟨?_, fun _ => ?_⟩
  · rw [arbiter_ruled, stock, stock, weigh_ruled, List.map_cons, List.sum_cons, Scale.load_nil]
    omega
  · rw [arbiter_ruled, toil, toil, weigh_ruled, List.map_cons, List.sum_cons, Scale.load_nil]
    omega

/-- The arbiter sends a deactivation on. -/
theorem lighter_passed {c : DataClass} {client : Client} {rest : List (Arbiter.Command Client)}
    (hcommands : s.commands = .deactivate t c client :: rest)
    (hturn : Arbiter.Turn 0 s.arbiter a [] []) :
    Lighter s ({ s with commands := rest }.ruled a [⟨t, .disconnect c, none, client⟩] []) := by
  have hstock := weigh_commands Scale.stock hcommands
  have htoil := weigh_commands Scale.toil hcommands
  have hweight : Scale.stock.command (.deactivate t c client) = 0 ∧
      Scale.toil.command (.deactivate t c client) = 70 + client.chain bringing 1 := ⟨rfl, rfl⟩
  have hletter : Scale.stock.stamp { s with commands := rest } ⟨t, .disconnect c, none, client⟩ ≤
      0 := stamp_stock_le _
  have hletter' : Scale.toil.stamp { s with commands := rest } ⟨t, .disconnect c, none, client⟩ ≤
      61 + client.chain bringing 1 := by
    refine Scale.toil.stamp_le fun p _ => ?_
    have hsame := toil_letter p.station.switch.phase 0 (.disconnect c)
      (some (.relay t 0 none client)) (by simp)
    rw [hsame, handleChain_some, Caller.chain_relay]
    simp only [serving, bringing]
    omega
  have hpaid := hturn.debt
  rw [List.length_nil] at hpaid
  refine ⟨?_, fun _ => ?_⟩
  · rw [arbiter_ruled, stock, stock, weigh_ruled, List.map_singleton, List.sum_singleton,
      Scale.load_nil]
    omega
  · rw [arbiter_ruled, toil, toil, weigh_ruled, List.map_singleton, List.sum_singleton,
      Scale.load_nil]
    omega

/-! ## The modem and the couriers -/

/-- The modem executes a command. -/
theorem lighter_executed {job : Modem.Job} {rest : List Modem.Job}
    (hjobs : s.pipeline.jobs = job :: rest) (hp : s.post? job.tenant = some p) :
    Lighter s (s.executed job rest p) := by
  have hstock := weigh_executed Scale.stock hjobs hp
  have htoil := weigh_executed Scale.toil hjobs hp
  have hjob : Scale.stock.job = 0 ∧ Scale.toil.job = 5 := ⟨rfl, rfl⟩
  have htold : ∀ fault,
      Scale.stock.told (Modem.signals job.token job.command fault) = 0 ∧
        Scale.toil.told (Modem.signals job.token job.command fault) ≤ 4 := by
    intro fault
    unfold Modem.signals
    split <;> exact ⟨rfl, by simp [Scale.toil]⟩
  obtain ⟨h1, h2⟩ := htold (s.pipeline.modem.execute job.tenant job.command).2
  exact lighter_of_weigh rfl (by omega) (by omega)

/-- The modem takes a control that changes a radio. -/
theorem lighter_tuned {radio : Radio} {rest : List Control}
    (hcontrols : s.controls = .radio t radio :: rest) : Lighter s (s.tuned t radio rest) := by
  obtain ⟨signals, hsignals, hstock⟩ := weigh_tuned Scale.stock hcontrols
  obtain ⟨signals', hsignals', htoil⟩ := weigh_tuned Scale.toil hcontrols
  have hcontrol : Scale.stock.control (.radio t radio) = 3 ∧
      Scale.toil.control (.radio t radio) = 900 := ⟨rfl, rfl⟩
  have hone : Scale.stock.told signals ≤ 3 := by
    rcases hsignals with rfl | rfl
    · exact Nat.zero_le 3
    · exact Nat.le_refl 3
  have hone' : Scale.toil.told signals' ≤ 800 := by
    rcases hsignals' with rfl | rfl
    · exact Nat.zero_le 800
    · exact Nat.le_refl 800
  exact lighter_of_weigh rfl (by omega) (by omega)

/-- The modem takes another control. -/
theorem lighter_steered {control : Control} {rest : List Control} {pipeline : Modem.Pipeline Unit}
    (hcontrols : s.controls = control :: rest) (hradio : control.isRadio = false)
    (halike : Alike s.pipeline pipeline) :
    Lighter s { s with controls := rest, pipeline := pipeline } := by
  have hstock := weigh_steered Scale.stock hcontrols halike
  have htoil := weigh_steered Scale.toil hcontrols halike
  have hcontrol : Scale.toil.control control = 1 := by
    cases control with
    | radio t radio => cases hradio
    | _ => rfl
  exact lighter_of_weigh rfl (by omega) (by omega)

/-- A courier brings the outcome of a request back. -/
theorem lighter_settled {id : Nat} {tracked : Option Arbiter.Tracked} {client : Client}
    {outcome : Outcome} {before rest : List Errand}
    (herrands : s.errands = before ++ .settle t id tracked client outcome :: rest) :
    Lighter s ({ s with
      errands := before ++ rest
      tidings := s.tidings ++ (tracked.map fun x => (⟨t, x, outcome⟩ : Tidings)).toList }.give
        (client.errands (.outcome outcome))) := by
  have hstock := weigh_settled Scale.stock herrands (client.errands (.outcome outcome))
  have htoil := weigh_settled Scale.toil herrands (client.errands (.outcome outcome))
  have herrand : Scale.stock.errand (.settle t id tracked client outcome) = 0 ∧
      Scale.toil.errand (.settle t id tracked client outcome) =
        bringing tracked + client.chain bringing 1 := ⟨rfl, rfl⟩
  have htidings : (tracked.elim 0 fun x => Scale.stock.tidings ⟨t, x, outcome⟩) = 0 ∧
      (tracked.elim 0 fun x => Scale.toil.tidings ⟨t, x, outcome⟩) < bringing tracked := by
    cases tracked with
    | none => exact ⟨rfl, Nat.zero_lt_one⟩
    | some x => exact ⟨rfl, by simp [Scale.toil, bringing]⟩
  rw [stock_errands] at hstock
  rw [chained_toil.load_outcome] at htoil
  exact lighter_of_weigh rfl (by omega) (by omega)

/-- A courier brings the outcome of a connect back. -/
theorem lighter_brought {id : Nat} {caller : Caller} {outcome : Outcome} {before rest : List Errand}
    (herrands : s.errands = before ++ .answer t id caller outcome :: rest) :
    Lighter s ({ s with errands := before ++ rest }.give
      (caller.errands (some ⟨id, .outcome outcome⟩))) := by
  have hstock := weigh_errands Scale.stock herrands
  have htoil := weigh_errands Scale.toil herrands
  have herrand : Scale.toil.errand (.answer t id caller outcome) =
      1 + caller.chain bringing 1 := rfl
  have hnone : Scale.stock.load (caller.errands (some ⟨id, .outcome outcome⟩)) = 0 := by
    cases caller <;> rfl
  have hload := chained_toil.load_caller caller (some ⟨id, .outcome outcome⟩)
  refine lighter_of_weigh rfl ?_ fun _ => ?_
  · rw [weigh_give]
    omega
  · rw [weigh_give]
    omega

/-- A courier brings a connect to the arbiter. -/
theorem lighter_asked {id : Nat} {c : DataClass} {caller : Caller} {before rest : List Errand}
    (herrands : s.errands = before ++ .ask t id c caller :: rest) :
    Lighter s { s with
      errands := before ++ rest
      commands := s.commands ++ [.activate t c (.ask t id caller)] } := by
  have hstock := weigh_asked Scale.stock herrands
  have htoil := weigh_asked Scale.toil herrands
  have herrand : Scale.stock.errand (.ask t id c caller) = 3 ∧
      Scale.toil.errand (.ask t id c caller) = 500 + caller.chain bringing 1 := ⟨rfl, rfl⟩
  have hcommand : Scale.stock.command (.activate t c (.ask t id caller)) = 3 ∧
      Scale.toil.command (.activate t c (.ask t id caller)) =
        400 + (Client.ask t id caller).chain bringing 1 := ⟨rfl, rfl⟩
  rw [Client.chain_ask] at hcommand
  exact lighter_of_weigh rfl (by omega) (by omega)

/-! ## All changes -/

/-- Every change lightens the service. -/
theorem Invariant.lighter (h : Invariant s) (hch : Change s s') : Lighter s s' := by
  cases hch with
  | heard hp hsig => exact lighter_heard (h.wired.posts _ _ hp) hp hsig
  | read hp hmail => exact lighter_read (h.wired.posts _ _ hp) hp hmail
  | subscribed hp hmail => exact lighter_enrolled hp hmail
  | executed hjobs hp => exact lighter_executed hjobs hp
  | tuned hcontrols => exact lighter_tuned hcontrols
  | steered hcontrols hradio halike => exact lighter_steered hcontrols hradio halike
  | noted hnotices hnotes hnone hturn hout =>
    exact lighter_noted hnotices hnotes.debt hnone hturn
  | @granted t g outcome rest a new hnotices htidings hturn hout =>
    have hdebt : (s.arbiter.without g).debt = s.arbiter.debt := rfl
    exact lighter_brief h.owned hnotices htidings hdebt (fun _ => rfl) hturn
  | @cleaned t outcome rest mid a new hnotices htidings hmid hturn hout =>
    obtain ⟨asked, rfl⟩ := Arbiter.exists_eq_of_cleanupAnswered hmid
    have hdebt : ({ s.arbiter with cleanupRequested := asked } : Arbiter).debt = s.arbiter.debt := rfl
    exact lighter_brief h.owned hnotices htidings hdebt (fun _ => rfl) hturn
  | replied hnotices htidings hcommands hclient hanswer hturn hout =>
    exact lighter_replied h.owned hnotices hcommands hclient hturn
  | forwarded hnotices htidings hcommands hturn hsent hout =>
    exact lighter_forwarded hcommands hturn hsent
  | passed hnotices htidings hcommands hknown hturn hout => exact lighter_passed hcommands hturn
  | asked herrands => exact lighter_asked herrands
  | brought herrands => exact lighter_brought herrands
  | settled herrands => exact lighter_settled herrands

/-- Every step lightens the service. -/
theorem lighter_of_step (h : Invariant s) (hs : Step s s') : Lighter s s' := by
  obtain ⟨time, move, hm⟩ := hs
  have hlight := (h.later time).still.lighter ((h.later time).change_of_move hm)
  exact ⟨hlight.stock_le, hlight.toil_lt⟩

/-- The stock and the toil of a service, the stock first. -/
def burden (s : Service) : Nat ×ₗ Nat := toLex (stock s s.arbiter, toil s s.arbiter)

theorem Lighter.burden_lt (h : Lighter s s') : burden s' < burden s :=
  Prod.Lex.toLex_lt_toLex'.2 ⟨h.stock_le, h.toil_lt⟩

/-- Left to itself, the service comes to rest: from no state that can be reached is there an
infinite run, in whatever order and at whatever time the moves are made. -/
theorem wellFounded_step (config : ArbiterConfig) (modem : ModemConfig) :
    WellFounded fun s' s : {s : Service // Reachable config modem s} => Step s.1 s'.1 := by
  have hlex : WellFounded ((· < ·) : Nat ×ₗ Nat → Nat ×ₗ Nat → Prop) := wellFounded_lt
  refine Subrelation.wf ?_ (InvImage.wf (fun s => burden s.1) hlex)
  intro s' s hs
  exact (lighter_of_step s.2.invariant hs).burden_lt

end DataPath.Service
