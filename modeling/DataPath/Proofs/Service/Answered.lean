import DataPath.Proofs.Service.Attended

/-!
# Every call is answered once

A service starts, is asked anything from outside, and makes moves, in any order, while time passes
(`Runs`).  Inputs need not be ordinary: switches and the arbiter may be told to stop, and so may
the modem.

In such a run as many calls with a number are in custody as came in (`custody_of_runs`).  That is an
invariant on all places where a call may be, and what is wanted of the answers follows from it:

* No call is answered twice, since answers count as custody.
* In a quiet service, queues are empty and switches have got everything done.  So a call has been
  answered, unless it is parked in a release; and a release in a quiet service is one that a modem
  that stopped has forgotten.
* As long as no switch and no arbiter stops, the strict count agrees with the lenient one, and the
  strict one counts decisions only.

If the modem stops during a release, then a connect that waits for it is never answered
(`unanswered_release`).
-/

namespace DataPath.Service

variable {strict goes : Bool} {n : Nat} {config : ArbiterConfig} {modem : ModemConfig}
  {asked : List (Nat × Input)} {s s' : Service} {t : Tenant} {p : Post}

/-! ## Runs -/

/-- The states that a service can be in, with all that was asked of it before. -/
inductive Runs (config : ArbiterConfig) (modem : ModemConfig) :
    List (Nat × Input) → Service → Prop where
  | start {s : Service} (h : Service.start config modem = .ok s) : Runs config modem [] s
  | accept {asked : List (Nat × Input)} {s : Service} (h : Runs config modem asked s)
      (number : Nat) (input : Input) :
      Runs config modem (asked ++ [(number, input)]) (s.accept number input)
  | wait {asked : List (Nat × Input)} {s : Service} (h : Runs config modem asked s) (time : Nat) :
      Runs config modem asked (s.moveClock time)
  | pass {asked : List (Nat × Input)} {s : Service} (h : Runs config modem asked s)
      (turns : List Party) : Runs config modem asked { s with turns := turns }
  | step {asked : List (Nat × Input)} {s s' : Service} (h : Runs config modem asked s)
      (hs : Step s s') : Runs config modem asked s'

theorem Runs.closed : Closed (Runs config modem asked) := ⟨.wait, .pass, .step⟩

/-- The states that can be reached are those after runs with ordinary inputs. -/
theorem reachable_iff : Reachable config modem s ↔
    ∃ asked, Runs config modem asked s ∧ ∀ call ∈ asked, call.2.isOrdinary = true := by
  constructor
  · intro h
    induction h with
    | start h => exact ⟨[], .start h, nofun⟩
    | accept _ number input hordinary ih =>
      obtain ⟨asked, hruns, hasked⟩ := ih
      refine ⟨_, hruns.accept number input, fun call hcall => ?_⟩
      rcases List.mem_append.1 hcall with hcall | hcall
      · exact hasked call hcall
      · rw [List.mem_singleton.1 hcall]
        exact hordinary
    | wait _ time ih => exact ih.imp fun _ hruns => ⟨hruns.1.wait time, hruns.2⟩
    | pass _ turns ih => exact ih.imp fun _ hruns => ⟨hruns.1.pass turns, hruns.2⟩
    | step _ hs ih => exact ih.imp fun _ hruns => ⟨hruns.1.step hs, hruns.2⟩
  · rintro ⟨asked, h, hasked⟩
    induction h with
    | start h => exact .start h
    | accept _ number input ih =>
      have hbefore := ih fun call hcall => hasked call (List.mem_append_left _ hcall)
      exact hbefore.accept number input
        (hasked (number, input) (List.mem_append_right _ List.mem_cons_self))
    | wait _ time ih => exact (ih hasked).wait time
    | pass _ turns ih => exact (ih hasked).pass turns
    | step _ hs ih => exact (ih hasked).step hs

/-- However long the service is left to itself, its run goes on. -/
theorem Runs.run (h : Runs config modem asked s) : Runs config modem asked s.run := closed.run h

/-- What is asked in turn, each time after the service has done all that it could. -/
def exchange (s : Service) (asked : List (Nat × Input)) : Service :=
  asked.foldl (fun s call => (s.accept call.1 call.2).run) s

theorem Runs.exchange (h : Runs config modem asked s) (more : List (Nat × Input)) :
    Runs config modem (asked ++ more) (s.exchange more) := by
  induction more generalizing asked s with
  | nil => rwa [List.append_nil]
  | cons call more ih =>
    have hmore := ih (h.accept call.1 call.2).run
    rwa [List.append_assoc] at hmore

/-! ## The start -/

theorem tidy_booted (hpos : config.tenantCount ≠ 0) (pipeline : Modem.Pipeline Unit) :
    (booted config pipeline).Tidy strict where
  posts p hp := by
    obtain ⟨u, -, rfl⟩ := List.mem_map.1 hp
    refine ⟨fun m hm => ?_, nofun, fun _ => rfl⟩
    rw [List.mem_singleton.1 hm]
    exact .inl rfl
  arbiter _ := rfl
  commands _ := nofun
  nonempty _ hnil := hpos (by rw [← length_posts_booted config pipeline, hnil]; rfl)

theorem custody_booted (config : ArbiterConfig) (pipeline : Modem.Pipeline Unit) :
    custody strict n (booted config pipeline) = 0 := by
  have hposts : ((booted config pipeline).posts.map (Post.stake strict n)).sum = 0 := by
    refine List.sum_eq_zero fun x hx => ?_
    obtain ⟨p, hp, rfl⟩ := List.mem_map.1 hx
    obtain ⟨u, -, rfl⟩ := List.mem_map.1 hp
    rfl
  unfold custody
  rw [hposts]
  rfl

theorem attended_booted {pipeline : Modem.Pipeline Unit}
    (hsinks : ∀ t ∈ config.tenants, pipeline.sinks.lookup t = some ()) :
    (booted config pipeline).Attended goes where
  modem _ := rfl
  controls _ := nofun
  posts t p hp := by
    obtain ⟨ht, rfl⟩ := post?_booted hp
    exact ⟨Switch.sound_start t true, rfl, fun _ => hsinks t ht, fun _ => rfl, fun _ _ => nofun⟩

/-- A service starts out tidy, and has nobody in custody. -/
theorem custody_start (h : Service.start config modem = .ok s) :
    s.Tidy strict ∧ ∀ n, custody strict n s = 0 := by
  unfold start at h
  split at h
  · cases h
  · next hfault =>
    rw [Except.ok.injEq] at h
    obtain ⟨pipeline, sent, heq, -⟩ := ofConfig_eq config modem
    rw [← h, heq]
    refine ⟨(tidy_booted (tenantCount_pos hfault) pipeline).signal sent, fun n => ?_⟩
    rw [custody_signal, custody_booted]

/-- All switches are attended to from the start. -/
theorem attended_start (h : Service.start config modem = .ok s) : s.Attended goes := by
  unfold start at h
  split at h
  · cases h
  · rw [Except.ok.injEq] at h
    obtain ⟨pipeline, sent, heq, -, -, hsinks, -⟩ := ofConfig_eq config modem
    rw [← h, heq]
    exact (attended_booted hsinks).signal sent

/-! ## Whole runs -/

/-- How many calls came in under a number. -/
def calls (n : Nat) (asked : List (Nat × Input)) : Nat :=
  (asked.filter fun call => call.1 = n).countP fun call => call.2.isCall

theorem calls_append (n number : Nat) (asked : List (Nat × Input)) (input : Input) :
    calls n (asked ++ [(number, input)]) =
      calls n asked + if number = n ∧ input.isCall = true then 1 else 0 := by
  unfold calls
  rw [List.filter_append, List.countP_append, List.filter_singleton]
  by_cases hn : number = n
  · simp [hn]
  · simp [hn]

/-- In every run as many calls are in custody as came in. -/
theorem custody_of_runs (h : Runs config modem asked s)
    (hstops : strict = true → ∀ call ∈ asked, call.2.stops = false) :
    s.Tidy strict ∧ ∀ n, custody strict n s = calls n asked := by
  induction h with
  | start h => exact custody_start h
  | @accept asked s _ number input ih =>
    obtain ⟨htidy, hcustody⟩ := ih fun hs call hcall =>
      hstops hs call (List.mem_append_left _ hcall)
    obtain ⟨htidy', htakes⟩ := takes_accept htidy number fun hs =>
      hstops hs (number, input) (List.mem_append_right _ List.mem_cons_self)
    refine ⟨htidy', fun n => ?_⟩
    rw [htakes, hcustody, calls_append]
  | @wait asked s _ time ih =>
    obtain ⟨htidy, hcustody⟩ := ih hstops
    have hlater : (s.later time).Tidy strict := htidy.of_eq rfl rfl fun _ hc => .inl hc
    exact ⟨hlater.clerical (clerical_wake _ _), fun n => (custody_wake _).trans (hcustody n)⟩
  | pass _ turns ih =>
    obtain ⟨htidy, hcustody⟩ := ih hstops
    exact ⟨htidy.of_eq rfl rfl fun _ hc => .inl hc, hcustody⟩
  | @step asked s s' _ hs ih =>
    obtain ⟨htidy, hcustody⟩ := ih hstops
    obtain ⟨time, move, hmove⟩ := hs
    have hlater : (s.later time).Tidy strict := htidy.of_eq rfl rfl fun _ hc => .inl hc
    obtain ⟨htidy', hkeeps⟩ := keeps_move hlater hmove
    exact ⟨htidy', fun n => (hkeeps n).trans (hcustody n)⟩

/-- In every run all switches are attended to, by a modem that goes on unless it is told to stop. -/
theorem attended_of_runs (h : Runs config modem asked s)
    (hgoes : goes = true → ∀ call ∈ asked, call.2 ≠ .steer .shutdown) : s.Attended goes := by
  induction h with
  | start h => exact attended_start h
  | accept _ number input ih =>
    have hbefore := ih fun hgo call hcall => hgoes hgo call (List.mem_append_left _ hcall)
    exact hbefore.accept number fun hgo =>
      hgoes hgo (number, input) (List.mem_append_right _ List.mem_cons_self)
  | @wait asked s _ time ih =>
    have hbefore := ih hgoes
    have hlater : (s.later time).Attended goes :=
      ⟨hbefore.modem, hbefore.controls, hbefore.posts⟩
    exact hlater.clerical (clerical_wake _ _)
  | pass _ turns ih => exact ⟨(ih hgoes).modem, (ih hgoes).controls, (ih hgoes).posts⟩
  | @step asked s s' _ hs ih =>
    have hbefore := ih hgoes
    obtain ⟨time, move, hmove⟩ := hs
    have hlater : (s.later time).Attended goes :=
      ⟨hbefore.modem, hbefore.controls, hbefore.posts⟩
    exact hlater.move hmove

/-! ## Answers -/

/-- The answers to the calls with a number, oldest first. -/
def answers (s : Service) (n : Nat) : List Answer :=
  (s.journal.finished.filter fun ended => ended.1 = n).map Prod.snd

/-- The lenient count counts every answer. -/
theorem sum_endedStake (n : Nat) (ended : List (Nat × Answer)) :
    (ended.map (endedStake false n)).sum = (ended.filter fun e => e.1 = n).length := by
  induction ended with
  | nil => rfl
  | cons e ended ih =>
    rw [List.map_cons, List.sum_cons, ih, endedStake, List.filter_cons]
    by_cases he : e.1 = n
    · simp [he, Nat.add_comm]
    · simp [he]

theorem sum_endedStake_finished (s : Service) (n : Nat) :
    (s.journal.finished.map (endedStake false n)).sum = (s.answers n).length := by
  rw [sum_endedStake, answers, List.length_map]

/-- Answers are in custody. -/
theorem length_answers_le (s : Service) (n : Nat) : (s.answers n).length ≤ custody false n s := by
  rw [← sum_endedStake_finished]
  unfold custody
  omega

/-! ## A quiet service -/

/-- A call waits for the end of a release: it is behind a connect that the switch of a tenant has
parked. -/
def AwaitsRelease (s : Service) (n : Nat) (t : Tenant) : Prop :=
  ∃ p, s.post? t = some p ∧ p.channel.isOpen = true ∧ p.station.switch.phase = .releasing ∧
    0 < owedStakes false n p.station.switch.held

/-- In a quiet service a switch has a call in custody only if that waits for the end of a release. -/
theorem Attended.stake_eq_zero (h : s.Attended goes) (hq : IsQuiet s)
    (hno : ¬s.AwaitsRelease n t) (hp : s.post? t = some p) : p.stake false n = 0 := by
  have hmailbox := hq.mailbox t p hp
  have houtbox := (h.posts t p hp).outbox
  have hheld : p.channel.isOpen = true → owedStakes false n p.station.switch.held = 0 := by
    intro hopen
    by_cases hphase : p.station.switch.phase = .releasing
    · by_contra hne
      exact hno ⟨p, hp, hopen, hphase, Nat.pos_of_ne_zero hne⟩
    · rw [h.held_eq_nil hp hphase]
      rfl
  unfold Post.stake
  rw [houtbox, hmailbox]
  split
  · next hopen =>
    rw [hheld hopen]
    rfl
  · rfl

/-- In a quiet service a call has ended, unless it waits for the end of a release. -/
theorem Attended.custody_eq (h : s.Attended goes) (hq : IsQuiet s)
    (hno : ∀ t, ¬s.AwaitsRelease n t) : custody false n s = (s.answers n).length := by
  have hposts : (s.posts.map (Post.stake false n)).sum = 0 := by
    refine List.sum_eq_zero fun x hx => ?_
    obtain ⟨p, hp, rfl⟩ := List.mem_map.1 hx
    obtain ⟨i, hi⟩ := List.mem_iff_getElem?.1 hp
    exact h.stake_eq_zero hq (hno ⟨i⟩) hi
  unfold custody
  rw [hposts, hq.commands, hq.errands, sum_endedStake_finished]
  simp

/-- A release in a quiet service is one that the modem has forgotten. -/
theorem exists_shutdown_of_awaitsRelease (h : Runs config modem asked s) (hq : IsQuiet s)
    (hwaits : s.AwaitsRelease n t) : ∃ call ∈ asked, call.2 = .steer .shutdown := by
  by_contra hno
  have hgoes : ∀ call ∈ asked, call.2 ≠ .steer .shutdown :=
    fun call hcall heq => hno ⟨call, hcall, heq⟩
  obtain ⟨p, hp, hopen, hphase, -⟩ := hwaits
  exact (attended_of_runs h fun _ => hgoes).ne_releasing hq hp hopen hphase

/-! ## Decisions -/

theorem owedStakes_strict_le (n : Nat) (os : List (Switch.Owed Caller)) :
    owedStakes true n os ≤ owedStakes false n os := by
  refine List.sum_le_sum fun o _ => ?_
  unfold owedStake
  rw [Caller.stake_lenient n _ (if o.decision then some o.id else none)]
  exact Caller.stake_strict_le n o.handle _

theorem messageStake_strict_le (n : Nat) (m : Message Caller Sink) :
    messageStake true n m ≤ messageStake false n m := by
  cases m with
  | request id request handle => exact owedStakes_strict_le n _
  | subscribe filter sink handle => cases handle <;> exact Nat.le_refl _
  | unsubscribe | shutdown => exact Nat.le_refl _

theorem Post.stake_strict_le (n : Nat) (p : Post) : p.stake true n ≤ p.stake false n := by
  have hmail : mailStake true n p.channel.mailbox ≤ mailStake false n p.channel.mailbox :=
    List.sum_le_sum fun m _ => messageStake_strict_le n m
  have hheld := owedStakes_strict_le n p.station.switch.held
  have hgiven := owedStakes_strict_le n (Switch.given p.station.switch.outbox)
  unfold Post.stake
  split <;> omega

theorem commandStake_strict_le (n : Nat) (c : Arbiter.Command Client) :
    commandStake true n c ≤ commandStake false n c := by
  cases c with
  | activate t d client | deactivate t d client => exact Client.stake_strict_le n client true
  | status | setDefaultTenant | shutdown => exact Nat.le_refl _

theorem Errand.stake_strict_le (n : Nat) (e : Errand) : e.stake true n ≤ e.stake false n := by
  cases e with
  | ask t id c caller => exact Caller.stake_strict_le n caller _
  | answer t id caller outcome => exact Caller.stake_strict_le n caller _
  | settle t id tracked client outcome => exact Client.stake_strict_le n client _

/-- Where the two counts agree, every answer is a decision. -/
theorem isDecision_of_custody_eq (h : custody true n s = custody false n s) {a : Answer}
    (ha : a ∈ s.answers n) : a.isDecision = true := by
  have hposts : (s.posts.map (Post.stake true n)).sum ≤ (s.posts.map (Post.stake false n)).sum :=
    List.sum_le_sum fun p _ => p.stake_strict_le n
  have hcommands : (s.commands.map (commandStake true n)).sum ≤
      (s.commands.map (commandStake false n)).sum :=
    List.sum_le_sum fun c _ => commandStake_strict_le n c
  have herrands : (s.errands.map (Errand.stake true n)).sum ≤
      (s.errands.map (Errand.stake false n)).sum :=
    List.sum_le_sum fun e _ => e.stake_strict_le n
  by_contra hno
  -- An answer that is no decision counts once for one count, and not for the other one.
  have hended : (s.journal.finished.map (endedStake true n)).sum <
      (s.journal.finished.map (endedStake false n)).sum := by
    obtain ⟨e, he, rfl⟩ := List.mem_map.1 ha
    obtain ⟨hmem, hn⟩ := List.mem_filter.1 he
    have hnumber : e.1 = n := of_decide_eq_true hn
    refine List.sum_lt_sum _ _ (fun e _ => ?_) ⟨e, hmem, ?_⟩
    · unfold endedStake
      split <;> simp_all
    · simp [endedStake, hnumber, hno]
  unfold custody at h
  omega

/-! ## Answers of a run -/

/-- A call that was asked under a number of its own is never answered twice.  When nothing is left
to do it has been answered, unless the modem was told to stop and the call waits for the end of a
release ever since.  As long as neither a switch nor the arbiter was told to stop, its answer is not
that there was no reply, or one to another request. -/
theorem answered_of_runs {input : Input} (h : Runs config modem asked s)
    (hcall : input.isCall = true) (hone : asked.filter (fun call => call.1 = n) = [(n, input)]) :
    (s.answers n).length ≤ 1 ∧
    (IsQuiet s → (∃ a, s.answers n = [a]) ∨
      (∃ call ∈ asked, call.2 = .steer .shutdown) ∧ ∃ t, s.AwaitsRelease n t) ∧
    ((∀ call ∈ asked, call.2.stops = false) → ∀ a ∈ s.answers n,
      a ≠ .outcome (.failed .noReply) ∧ a ≠ .outcome (.failed .mismatchedReply)) := by
  have hcalls : calls n asked = 1 := by
    unfold calls
    rw [hone]
    simp [hcall]
  have hlenient : custody false n s = 1 :=
    ((custody_of_runs h fun hs => absurd hs Bool.false_ne_true).2 n).trans hcalls
  refine ⟨hlenient ▸ length_answers_le s n, fun hq => ?_, fun hstops a ha => ?_⟩
  · by_cases hwaits : ∃ t, s.AwaitsRelease n t
    · obtain ⟨t, ht⟩ := hwaits
      exact .inr ⟨exists_shutdown_of_awaitsRelease h hq ht, t, ht⟩
    · have hattended : s.Attended false := attended_of_runs h fun hgo => absurd hgo Bool.false_ne_true
      have hlength := hattended.custody_eq hq fun t ht => hwaits ⟨t, ht⟩
      rw [hlenient] at hlength
      exact .inl (List.length_eq_one_iff.1 hlength.symm)
  · have hstrict : custody true n s = 1 := ((custody_of_runs h fun _ => hstops).2 n).trans hcalls
    have hdecision := isDecision_of_custody_eq (hstrict.trans hlenient.symm) ha
    constructor <;> rintro rfl <;> cases hdecision

/-- Both slots are asked for, and the first one again, while it is being released. -/
def rivalry : List (Nat × Input) :=
  [(0, .activate ⟨0⟩ .default), (1, .steer (.hold true)), (2, .activate ⟨1⟩ .default),
    (3, .call ⟨0⟩ (.connect .default)), (4, .steer (.hold false))]

/-- The connect waits for the release to end, is then asked of the arbiter, and waits for the
release of the other slot.  It is answered all the same. -/
theorem answered_in_rivalry : ∃ before s, Runs {} (promptModem 2) (rivalry.take 4) before ∧
    (∃ p, before.post? ⟨0⟩ = some p ∧ p.station.switch.parked ≠ []) ∧ before.answers 3 = [] ∧
    Runs {} (promptModem 2) rivalry s ∧ IsQuiet s ∧ s.answers 3 = [.outcome .started] := by
  have hstart : Service.start {} (promptModem 2) = .ok (ofConfig {} (promptModem 2)) := rfl
  have hruns := (Runs.start hstart).exchange rivalry
  have hparked : (∃ p, ((ofConfig {} (promptModem 2)).exchange (rivalry.take 4)).post? ⟨0⟩ = some p ∧
      p.station.switch.parked ≠ []) ∧
      ((ofConfig {} (promptModem 2)).exchange (rivalry.take 4)).answers 3 = [] := by
    refine ⟨⟨_, rfl, ?_⟩, ?_⟩ <;> decide +kernel
  have hquiet : IsQuiet ((ofConfig {} (promptModem 2)).exchange rivalry) := by decide +kernel
  have hmem : Answer.outcome .started ∈
      ((ofConfig {} (promptModem 2)).exchange rivalry).answers 3 := by decide +kernel
  have hone : (rivalry.filter fun call => call.1 = 3) = [(3, .call ⟨0⟩ (.connect .default))] := rfl
  obtain ⟨-, hanswered, -⟩ := answered_of_runs hruns (by rfl) hone
  obtain ⟨a, ha⟩ := (hanswered hquiet).resolve_right fun hstop => absurd hstop.1 (by decide)
  rw [ha, List.mem_singleton] at hmem
  exact ⟨_, _, (Runs.start hstart).exchange (rivalry.take 4), hparked.1, hparked.2, hruns, hquiet,
    hmem ▸ ha⟩

/-- The modem is told to stop during a release, for which a connect waits. -/
def interruption : List (Nat × Input) :=
  [(0, .activate ⟨0⟩ .default), (1, .steer (.hold true)), (2, .call ⟨0⟩ .cleanupAll),
    (3, .call ⟨0⟩ (.connect .default)), (4, .steer .shutdown)]

/-- Then nothing is left to do, and the connect has not been answered. -/
theorem unanswered_release : ∃ s, Runs {} (promptModem 2) interruption s ∧
    (interruption.filter fun call => call.1 = 3) = [(3, .call ⟨0⟩ (.connect .default))] ∧
    IsQuiet s ∧ s.answers 3 = [] := by
  have hstart : Service.start {} (promptModem 2) = .ok (ofConfig {} (promptModem 2)) := rfl
  have hruns := (Runs.start hstart).exchange interruption
  have hend : IsQuiet ((ofConfig {} (promptModem 2)).exchange interruption) ∧
      ((ofConfig {} (promptModem 2)).exchange interruption).answers 3 = [] := by decide +kernel
  exact ⟨_, hruns, rfl, hend⟩

end DataPath.Service
