import DataPath.Proofs.Modem.Oracle

/-!
# The order of executions

Commands are submitted to a modem, which works on them; meanwhile sinks are attached, radios are set,
failures are injected, force-idle commands are held and let go, and time goes by.  From time to time
the modem makes a pass over the commands that it works on.  All this may happen in any order, and a
pass may be made when there is nothing to do.

What happens to the commands is written down beside the modem (`Works`), and what comes of that is
this (`sequenced_of_run`).

* The commands that were executed are the first ones of those that were submitted, and each was
  executed once, and not before its time.  The modem itself is as it is after these commands, with
  the settings between them.
* A pass goes on until there is no command left, or the next one must wait.  While force-idle
  commands are held, no pass comes to such a command, nor to anything behind it.
* Whoever was attached when a command was executed has heard of its end once, and in the order of the
  commands; right behind that stands that a class has come up, if one has (`Woven`).
-/

namespace DataPath.Modem

/-! ## What is written down -/

/-- A command that was submitted, and when. -/
structure Submission where
  time : Nat
  tenant : Tenant
  token : Nat
  command : Command
  deriving DecidableEq, Repr

/-- The command as the modem works on it. -/
def Submission.job (latency : Nat) (s : Submission) : Job :=
  ⟨s.time + latency, s.tenant, s.token, s.command⟩

/-- A command that was executed: when, what has come of it, and who was attached for its tenant. -/
structure Execution (σ : Type) where
  job : Job
  time : Nat
  fault : Option ModemFault
  sink : Option σ
  deriving DecidableEq, Repr

/-- The modem after some orders, with what has become of the commands. -/
structure Works (σ : Type) where
  pipeline : Pipeline σ
  clock : Nat := 0
  /-- All commands that were submitted, oldest first. -/
  submitted : List Submission := []
  /-- All commands that were executed, oldest first. -/
  executed : List (Execution σ) := []
  /-- All that the modem itself was told, oldest first. -/
  orders : List Order := []
  /-- All signals that were sent, oldest first. -/
  sent : List (Sent σ) := []
  deriving Repr

/-- What may happen to a modem at work. -/
inductive Stimulus (σ : Type) where
  | submit (tenant : Tenant) (token : Nat) (command : Command)
  | attach (tenant : Tenant) (sink : σ)
  | tune (tenant : Tenant) (radio : Radio)
  | failEnables (tenant : Tenant) (count : Nat)
  | failDisables (tenant : Tenant) (count : Nat)
  /-- From now on force-idle commands are held, or no longer held. -/
  | hold (holding : Bool)
  /-- Time goes by. -/
  | wait (ms : Nat)
  /-- The modem executes what it can. -/
  | pass
  deriving DecidableEq, Repr

variable {σ : Type} {p : Pipeline σ} {now : Nat} {jobs : List Job} {w : Works σ} {t : Tenant}
  {config : ModemConfig} {stimuli : List (Stimulus σ)} {e : Execution σ}

/-- What the modem itself was told by an execution. -/
def Execution.order (e : Execution σ) : Order := .execute e.job.tenant e.job.command

/-- The class that has come up by an execution, if one has. -/
def Execution.connected? (e : Execution σ) : Option DataClass :=
  match e.job.command, e.fault with
  | .enable c, none => some c
  | _, _ => none

/-- What is heard of an execution, if anybody was attached: its end, and then of the class. -/
def Execution.signals (e : Execution σ) : List (Sent σ) :=
  match e.sink with
  | none => []
  | some sink =>
    ⟨sink, e.job.tenant, .completed e.job.token e.fault⟩ ::
      e.connected?.toList.map fun c => ⟨sink, e.job.tenant, .classConnected c⟩

/-- The commands of a list that are executed at a given time. -/
def Pipeline.executions (p : Pipeline σ) (now : Nat) : List Job → List (Execution σ)
  | [] => []
  | job :: rest =>
    if p.isReady now job then
      ⟨job, now, (p.modem.execute job.tenant job.command).2, p.sinks.lookup job.tenant⟩ ::
        (p.complete job).1.executions now rest
    else []

namespace Works

/-- The modem goes on as this pipeline, and sends these signals. -/
def goOn (w : Works σ) (after : Pipeline σ × List (Sent σ)) : Works σ :=
  { w with pipeline := after.1, sent := w.sent ++ after.2 }

/-- What one thing that happens comes to. -/
def step (w : Works σ) : Stimulus σ → Works σ
  | .submit t token command =>
    { w with
      pipeline := w.pipeline.submit w.clock t token command
      submitted := w.submitted ++ [⟨w.clock, t, token, command⟩] }
  | .attach t sink => w.goOn (w.pipeline.attach t sink)
  | .tune t radio =>
    { w.goOn (w.pipeline.setRadio t radio) with orders := w.orders ++ [.tune t radio] }
  | .failEnables t count =>
    { w with
      pipeline := { w.pipeline with modem := w.pipeline.modem.failNextEnable t count }
      orders := w.orders ++ [.failEnables t count] }
  | .failDisables t count =>
    { w with
      pipeline := { w.pipeline with modem := w.pipeline.modem.failNextDisable t count }
      orders := w.orders ++ [.failDisables t count] }
  | .hold holding => { w with pipeline := { w.pipeline with holding := holding } }
  | .wait ms => { w with clock := w.clock + ms }
  | .pass =>
    let executed := w.pipeline.executions w.clock w.pipeline.jobs
    { w.goOn (w.pipeline.completeDue w.clock) with
      executed := w.executed ++ executed
      orders := w.orders ++ executed.map Execution.order }

/-- The modem of a configuration, after all this has happened. -/
def run (config : ModemConfig) (stimuli : List (Stimulus σ)) : Works σ :=
  stimuli.foldl step { pipeline := .ofConfig config }

@[simp] theorem run_append (config : ModemConfig) (stimuli : List (Stimulus σ))
    (stimulus : Stimulus σ) :
    run config (stimuli ++ [stimulus]) = (run config stimuli).step stimulus := by
  simp [run]

end Works

/-- Who was attached by something that has happened, if it was for this tenant. -/
def Stimulus.sink? (t : Tenant) : Stimulus σ → Option σ
  | .attach u sink => if u = t then some sink else none
  | .submit .. | .tune .. | .failEnables .. | .failDisables .. | .hold _ | .wait _ | .pass => none

/-- Who was attached last for a tenant. -/
def attached? (stimuli : List (Stimulus σ)) (t : Tenant) : Option σ :=
  (stimuli.filterMap (Stimulus.sink? t)).getLast?

/-- These signals are those of these executions in their order, with reports on radios between them;
the signals of one execution stand together. -/
inductive Woven : List (Execution σ) → List (Sent σ) → Prop where
  | nil : Woven [] []
  | execution {executed : List (Execution σ)} {sent : List (Sent σ)} (h : Woven executed sent)
      (e : Execution σ) : Woven (executed ++ [e]) (sent ++ e.signals)
  | report {executed : List (Execution σ)} {sent : List (Sent σ)} (h : Woven executed sent)
      (sink : σ) (t : Tenant) (radio : Radio) : Woven executed (sent ++ [⟨sink, t, .radio radio⟩])

/-- The end of a command for a tenant, as somebody hears of it. -/
def Sent.ending? (t : Tenant) (s : Sent σ) : Option (σ × Nat × Option ModemFault) :=
  match s.signal with
  | .completed token fault => if s.tenant = t then some (s.sink, token, fault) else none
  | .classConnected _ | .radio _ => none

/-- The end of a command for a tenant, as whoever was attached is to hear of it. -/
def Execution.ending? (t : Tenant) (e : Execution σ) : Option (σ × Nat × Option ModemFault) :=
  if e.job.tenant = t then e.sink.map fun sink => (sink, e.job.token, e.fault) else none

/-! ## A pass -/

theorem Pipeline.send_signals (p : Pipeline σ) (job : Job) (now : Nat) (fault : Option ModemFault) :
    p.send job.tenant (signals job.token job.command fault) =
      (⟨job, now, fault, p.sinks.lookup job.tenant⟩ : Execution σ).signals := by
  rw [Pipeline.send, Execution.signals]
  cases p.sinks.lookup job.tenant with
  | none => rfl
  | some sink => cases hcommand : job.command <;> cases fault <;>
      simp [signals, Execution.connected?, hcommand]

/-- A pass does what the executions say: the modem is told the commands, these are no longer worked
on, and what is heard of them is sent. -/
theorem Pipeline.completeReady_eq (p : Pipeline σ) (now : Nat) (jobs : List Job) :
    p.completeReady now jobs =
      ({ p with
        modem := ((p.executions now jobs).map Execution.order).foldl after p.modem
        jobs := jobs.drop (p.executions now jobs).length },
        (p.executions now jobs).flatMap Execution.signals) := by
  induction jobs generalizing p with
  | nil => rfl
  | cons job rest ih =>
    rw [Pipeline.completeReady, Pipeline.executions]
    split
    · simp only [ih, List.map_cons, List.foldl_cons, List.length_cons, List.drop_succ_cons,
        List.flatMap_cons, Prod.mk.injEq]
      exact ⟨rfl, congrArg (· ++ _) (p.send_signals job now _)⟩
    · rfl

/-- The commands that are executed are the first ones, and the others are left. -/
theorem Pipeline.map_job_executions (p : Pipeline σ) (now : Nat) (jobs : List Job) :
    (p.executions now jobs).map Execution.job ++ jobs.drop (p.executions now jobs).length =
      jobs := by
  induction jobs generalizing p with
  | nil => rfl
  | cons job rest ih =>
    rw [Pipeline.executions]
    split
    · exact congrArg (job :: ·) (ih _)
    · rfl

/-- The modem has said to the commands what the executions tell. -/
theorem Pipeline.verdicts_executions (p : Pipeline σ) (now : Nat) (jobs : List Job) :
    p.modem.verdicts ((p.executions now jobs).map Execution.order) =
      (p.executions now jobs).map Execution.fault := by
  induction jobs generalizing p with
  | nil => rfl
  | cons job rest ih =>
    rw [Pipeline.executions]
    split
    · exact congrArg (_ :: ·) (ih (p.complete job).1)
    · rfl

theorem Pipeline.isReady_iff {job : Job} :
    p.isReady now job = true ↔ job.due ≤ now ∧ p.holds job = false := by
  simp [Pipeline.isReady]

/-- What is executed is ready, and is told to whoever is attached. -/
theorem Pipeline.of_mem_executions (he : e ∈ p.executions now jobs) :
    e.time = now ∧ e.job.due ≤ now ∧ p.holds e.job = false ∧
      e.sink = p.sinks.lookup e.job.tenant := by
  induction jobs generalizing p with
  | nil => exact nomatch he
  | cons job rest ih =>
    rw [Pipeline.executions] at he
    split at he
    · next hready =>
      rcases List.mem_cons.1 he with rfl | hrest
      · obtain ⟨hdue, hholds⟩ := Pipeline.isReady_iff.1 hready
        exact ⟨rfl, hdue, hholds, rfl⟩
      · exact ih (p := (p.complete job).1) hrest
    · exact nomatch he

/-- The first command that is left is not ready. -/
theorem Pipeline.isReady_drop {job : Job} {rest : List Job}
    (hleft : jobs.drop (p.executions now jobs).length = job :: rest) : p.isReady now job = false := by
  induction jobs generalizing p with
  | nil => exact nomatch hleft
  | cons first others ih =>
    rw [Pipeline.executions] at hleft
    by_cases hready : p.isReady now first = true
    · rw [if_pos hready, List.length_cons, List.drop_succ_cons] at hleft
      exact ih (p := (p.complete first).1) hleft
    · rw [if_neg hready] at hleft
      obtain ⟨rfl, rfl⟩ := List.cons.inj hleft
      exact Bool.eq_false_iff.2 hready

/-- Something is executed just when the next command is not held and its time has come. -/
theorem Pipeline.executions_ne_nil (p : Pipeline σ) (now : Nat) :
    p.executions now p.jobs ≠ [] ↔ ∃ due, p.nextDue? = some due ∧ due ≤ now := by
  unfold Pipeline.nextDue?
  cases p.jobs with
  | nil => simp [Pipeline.executions]
  | cons job rest =>
    cases hholds : p.holds job <;> simp [Pipeline.executions, Pipeline.isReady, hholds]

/-- A pass over some commands does not look at what else is worked on. -/
theorem Pipeline.completeReady_jobs (p : Pipeline σ) (now : Nat) (jobs others : List Job) :
    { p with jobs := others }.completeReady now jobs = p.completeReady now jobs := by
  induction jobs generalizing p with
  | nil => rfl
  | cons job rest ih =>
    show (if p.isReady now job then _ else _) = (if p.isReady now job then _ else _)
    split
    · have hrest := ih (p.complete job).1
      exact congrArg (fun after => (after.1, (p.complete job).2 ++ after.2)) hrest
    · rfl

/-- A pass is nothing but the next commands, one after the other. -/
theorem Pipeline.completeDue_eq (p : Pipeline σ) (now : Nat) :
    p.completeDue now = match p.next? now with
      | some (q, sent) => ((q.completeDue now).1, sent ++ (q.completeDue now).2)
      | none => (p, []) := by
  unfold Pipeline.completeDue Pipeline.next?
  cases hjobs : p.jobs with
  | nil =>
    show ({ p with jobs := [] }, []) = (p, [])
    rw [← hjobs]
  | cons job rest =>
    by_cases hready : p.isReady now job = true
    · have hrest := (p.complete job).1.completeReady_jobs now rest rest
      simp only [Pipeline.completeReady, if_pos hready]
      exact (congrArg (fun after => (after.1, (p.complete job).2 ++ after.2)) hrest).symm
    · simp only [Pipeline.completeReady, if_neg hready, ← hjobs]

/-! ## What is heard -/

theorem Woven.executions {executed : List (Execution σ)} {sent : List (Sent σ)}
    (h : Woven executed sent) (fresh : List (Execution σ)) :
    Woven (executed ++ fresh) (sent ++ fresh.flatMap Execution.signals) := by
  induction fresh generalizing executed sent with
  | nil => rwa [List.flatMap_nil, List.append_nil, List.append_nil]
  | cons e fresh ih =>
    have hrest := ih (h.execution e)
    rwa [List.append_assoc, List.append_assoc] at hrest

theorem Woven.reports {executed : List (Execution σ)} {sent : List (Sent σ)}
    (h : Woven executed sent) (p : Pipeline σ) (t : Tenant) (radio : Option Radio) :
    Woven executed (sent ++ p.send t (radio.map Signal.radio).toList) := by
  unfold Pipeline.send
  cases p.sinks.lookup t with
  | none => rwa [List.append_nil]
  | some sink =>
    cases radio with
    | none => exact (List.append_nil sent).symm ▸ h
    | some radio => exact h.report sink t radio

theorem Execution.ending?_signals (e : Execution σ) (t : Tenant) :
    e.signals.filterMap (Sent.ending? t) = (e.ending? t).toList := by
  unfold Execution.signals Execution.ending?
  cases e.sink with
  | none => simp
  | some sink =>
    have hclass : (e.connected?.toList.map fun c =>
        (⟨sink, e.job.tenant, .classConnected c⟩ : Sent σ)).filterMap (Sent.ending? t) = [] := by
      cases e.connected? <;> rfl
    by_cases ht : e.job.tenant = t <;> simp [Sent.ending?, ht, ← hclass]

/-- The ends of commands that are heard of are those of the executions, in their order. -/
theorem Woven.endings {executed : List (Execution σ)} {sent : List (Sent σ)}
    (h : Woven executed sent) (t : Tenant) :
    sent.filterMap (Sent.ending? t) = executed.filterMap (Execution.ending? t) := by
  induction h with
  | nil => rfl
  | execution _ e ih =>
    rw [List.filterMap_append, List.filterMap_append, ih, e.ending?_signals]
    cases hending : e.ending? t <;> simp [hending]
  | report _ sink u radio ih => rw [List.filterMap_append, ih]; exact List.append_nil _

theorem Pipeline.lookup_attach (p : Pipeline σ) (t u : Tenant) (sink : σ) :
    (p.attach t sink).1.sinks.lookup u = if t = u then some sink else p.sinks.lookup u := by
  show List.lookup u ((t, sink) :: p.sinks.filter fun entry => entry.1 ≠ t) = _
  by_cases ht : t = u
  · subst ht
    rw [List.lookup_cons_self, if_pos rfl]
  · rw [List.lookup_cons, if_neg ht, beq_eq_false_iff_ne.2 (Ne.symm ht)]
    exact lookup_filter_ne p.sinks (Ne.symm ht)

theorem attached?_append (stimuli : List (Stimulus σ)) (stimulus : Stimulus σ) (t : Tenant) :
    attached? (stimuli ++ [stimulus]) t = (stimulus.sink? t).or (attached? stimuli t) := by
  unfold attached?
  rw [List.filterMap_append, List.getLast?_append]
  cases hsink : stimulus.sink? t <;> simp [hsink]

/-! ## What is kept -/

namespace Works

/-- What is known of a modem at work, when all this has happened. -/
structure Kept (config : ModemConfig) (stimuli : List (Stimulus σ)) (w : Works σ) : Prop where
  latency : w.pipeline.latency = config.latency
  order : w.submitted.map (Submission.job config.latency) =
    w.executed.map Execution.job ++ w.pipeline.jobs
  timely : ∀ e ∈ w.executed, e.job.due ≤ e.time ∧ e.time ≤ w.clock
  modem : w.pipeline.modem = Modem.run config w.orders
  commands : w.orders.filter Order.isCommand = w.executed.map Execution.order
  faults : (Modem.ofConfig config).verdicts w.orders = w.executed.map Execution.fault
  attached : ∀ t, w.pipeline.sinks.lookup t = attached? stimuli t
  woven : Woven w.executed w.sent

theorem kept_new (config : ModemConfig) : Kept config [] (run config [] : Works σ) where
  latency := rfl
  order := rfl
  timely _ he := nomatch he
  modem := rfl
  commands := rfl
  faults := rfl
  attached _ := rfl
  woven := .nil

/-- The modem itself was told something that is no command. -/
theorem Kept.told (h : w.Kept config stimuli) (order : Order) (hcommand : order.isCommand = false) :
    Modem.run config (w.orders ++ [order]) = w.pipeline.modem.after order ∧
      (w.orders ++ [order]).filter Order.isCommand = w.executed.map Execution.order ∧
      (Modem.ofConfig config).verdicts (w.orders ++ [order]) = w.executed.map Execution.fault := by
  refine ⟨by rw [Modem.run_append, h.modem], ?_, ?_⟩
  · rw [List.filter_append, h.commands, List.filter_cons_of_neg (by simp [hcommand])]
    exact List.append_nil _
  · rw [verdicts_append, h.faults, verdicts, verdicts]
    cases order with
    | execute => exact Bool.noConfusion hcommand
    | tune | failEnables | failDisables => exact List.append_nil _

/-- Nobody was attached, so it is as before who is. -/
theorem Kept.attached_after (h : w.Kept config stimuli) {stimulus : Stimulus σ}
    (hnobody : ∀ u, stimulus.sink? u = none) (u : Tenant) :
    w.pipeline.sinks.lookup u = attached? (stimuli ++ [stimulus]) u := by
  rw [attached?_append, hnobody u, Option.none_or]
  exact h.attached u

theorem Kept.step_submit (h : w.Kept config stimuli) (t : Tenant) (token : Nat)
    (command : Command) :
    (w.step (.submit t token command)).Kept config (stimuli ++ [.submit t token command]) where
  latency := h.latency
  order := by
    show (w.submitted ++ [_]).map _ = _ ++ (w.pipeline.jobs ++ [_])
    rw [List.map_append, h.order, List.append_assoc, h.latency]
    rfl
  timely := h.timely
  modem := h.modem
  commands := h.commands
  faults := h.faults
  attached := h.attached_after fun _ => rfl
  woven := h.woven

theorem Kept.step_attach (h : w.Kept config stimuli) (t : Tenant) (sink : σ) :
    (w.step (.attach t sink)).Kept config (stimuli ++ [.attach t sink]) where
  latency := h.latency
  order := h.order
  timely := h.timely
  modem := h.modem
  commands := h.commands
  faults := h.faults
  attached u := by
    show (w.pipeline.attach t sink).1.sinks.lookup u = _
    rw [attached?_append, Pipeline.lookup_attach, h.attached u]
    by_cases ht : t = u <;> simp [Stimulus.sink?, ht]
  woven := h.woven.reports _ t (w.pipeline.modem.radio? t)

theorem Kept.step_tune (h : w.Kept config stimuli) (t : Tenant) (radio : Radio) :
    (w.step (.tune t radio)).Kept config (stimuli ++ [.tune t radio]) := by
  obtain ⟨hmodem, hcommands, hfaults⟩ := h.told (.tune t radio) rfl
  exact {
    latency := h.latency
    order := h.order
    timely := h.timely
    modem := hmodem.symm
    commands := hcommands
    faults := hfaults
    attached := h.attached_after fun _ => rfl
    woven := by
      show Woven w.executed
        (w.sent ++ if (w.pipeline.modem.setRadio t radio).2 then _ else [])
      split
      · exact h.woven.reports _ t (some radio)
      · rw [List.append_nil]
        exact h.woven }

theorem Kept.step_pass (h : w.Kept config stimuli) :
    (w.step .pass).Kept config (stimuli ++ [.pass]) := by
  have hpass := w.pipeline.completeReady_eq w.clock w.pipeline.jobs
  have hjobs := w.pipeline.map_job_executions w.clock w.pipeline.jobs
  have hverdicts := w.pipeline.verdicts_executions w.clock w.pipeline.jobs
  have hready : ∀ e ∈ w.pipeline.executions w.clock w.pipeline.jobs, _ := fun _ =>
    Pipeline.of_mem_executions
  generalize hexecutions : w.pipeline.executions w.clock w.pipeline.jobs = executions
    at hpass hjobs hverdicts hready
  have hstep : w.step .pass =
      { w with
        pipeline := { w.pipeline with
          modem := (executions.map Execution.order).foldl after w.pipeline.modem
          jobs := w.pipeline.jobs.drop executions.length }
        executed := w.executed ++ executions
        orders := w.orders ++ executions.map Execution.order
        sent := w.sent ++ executions.flatMap Execution.signals } := by
    simp only [step, hexecutions, goOn, Pipeline.completeDue, hpass]
  rw [hstep]
  exact {
    latency := h.latency
    order := by rw [h.order, List.map_append, List.append_assoc, hjobs]
    timely := fun e he => by
      rcases List.mem_append.1 he with hold | hnew
      · exact h.timely e hold
      · obtain ⟨htime, hdue, -⟩ := hready e hnew
        show e.job.due ≤ e.time ∧ e.time ≤ w.clock
        omega
    modem := by
      show (executions.map Execution.order).foldl after w.pipeline.modem = _
      rw [h.modem, Modem.run, Modem.run, List.foldl_append]
    commands := by
      rw [List.filter_append, h.commands, List.map_append]
      refine congrArg _ (List.filter_eq_self.2 fun order horder => ?_)
      obtain ⟨e, -, rfl⟩ := List.mem_map.1 horder
      rfl
    faults := by
      rw [verdicts_append, h.faults, List.map_append, ← hverdicts, h.modem]
      rfl
    attached := h.attached_after fun _ => rfl
    woven := h.woven.executions executions }

/-- Whatever happens to a modem at work, all this stays known. -/
theorem Kept.step (h : w.Kept config stimuli) (stimulus : Stimulus σ) :
    (w.step stimulus).Kept config (stimuli ++ [stimulus]) := by
  cases stimulus with
  | submit t token command => exact h.step_submit t token command
  | attach t sink => exact h.step_attach t sink
  | tune t radio => exact h.step_tune t radio
  | failEnables t count =>
    obtain ⟨hmodem, hcommands, hfaults⟩ := h.told (.failEnables t count) rfl
    exact ⟨h.latency, h.order, h.timely, hmodem.symm, hcommands, hfaults,
      h.attached_after fun _ => rfl, h.woven⟩
  | failDisables t count =>
    obtain ⟨hmodem, hcommands, hfaults⟩ := h.told (.failDisables t count) rfl
    exact ⟨h.latency, h.order, h.timely, hmodem.symm, hcommands, hfaults,
      h.attached_after fun _ => rfl, h.woven⟩
  | hold holding =>
    exact ⟨h.latency, h.order, h.timely, h.modem, h.commands, h.faults,
      h.attached_after fun _ => rfl, h.woven⟩
  | wait ms =>
    have htimely : ∀ e ∈ w.executed, e.job.due ≤ e.time ∧ e.time ≤ w.clock + ms := by
      intro e he
      obtain ⟨hdue, htime⟩ := h.timely e he
      omega
    exact ⟨h.latency, h.order, htimely, h.modem, h.commands, h.faults,
      h.attached_after fun _ => rfl, h.woven⟩
  | pass => exact h.step_pass

theorem kept_run (config : ModemConfig) (stimuli : List (Stimulus σ)) :
    (run config stimuli).Kept config stimuli := by
  induction stimuli using List.reverseRecOn with
  | nil => exact kept_new config
  | append_singleton stimuli stimulus ih =>
    rw [run_append]
    exact ih.step stimulus

/-! ## Commands that are held -/

/-- Force-idle commands are held, and the command at this place among all that were submitted is one
that was not executed. -/
structure Blocks (n : Nat) (w : Works σ) : Prop where
  holding : w.pipeline.holding = true
  behind : w.executed.length ≤ n
  held : ∃ job, w.pipeline.jobs[n - w.executed.length]? = some job ∧ job.command = .forceIdle

/-- No pass comes to a command that is held. -/
theorem Blocks.step_pass {n : Nat} (h : w.Blocks n) : (w.step .pass).Blocks n := by
  obtain ⟨job, hjob, hidle⟩ := h.held
  generalize hexecutions : w.pipeline.executions w.clock w.pipeline.jobs = executions
  have hjobs : executions.map Execution.job ++ w.pipeline.jobs.drop executions.length =
      w.pipeline.jobs := hexecutions ▸ w.pipeline.map_job_executions w.clock w.pipeline.jobs
  have hlength : (w.step .pass).executed.length = w.executed.length + executions.length := by
    show (w.executed ++ w.pipeline.executions w.clock w.pipeline.jobs).length = _
    rw [hexecutions, List.length_append]
  have hdrop : (w.step .pass).pipeline.jobs = w.pipeline.jobs.drop executions.length := by
    show (w.pipeline.completeDue w.clock).1.jobs = _
    rw [Pipeline.completeDue, Pipeline.completeReady_eq, hexecutions]
  -- Were the command among those that are executed, it would be ready, and so not be held.
  have hbefore : executions.length ≤ n - w.executed.length := by
    by_contra hlt
    have hlt' : n - w.executed.length < (executions.map Execution.job).length := by
      rw [List.length_map]
      omega
    rw [← hjobs, List.getElem?_append_left hlt', List.getElem?_map] at hjob
    obtain ⟨e, he, rfl⟩ := Option.map_eq_some_iff.1 hjob
    have hmem : e ∈ w.pipeline.executions w.clock w.pipeline.jobs :=
      hexecutions ▸ List.mem_of_getElem? he
    have hfree := (Pipeline.of_mem_executions hmem).2.2.1
    simp [Pipeline.holds, h.holding, hidle] at hfree
  have hbehind := h.behind
  refine ⟨?_, by omega, job, ?_, hidle⟩
  · show (w.pipeline.completeDue w.clock).1.holding = true
    rw [Pipeline.completeDue, Pipeline.completeReady_eq]
    exact h.holding
  · rw [hdrop, hlength, List.getElem?_drop, ← hjob]
    congr 1
    omega

/-- A command stays held until the modem is told otherwise. -/
theorem Blocks.step {n : Nat} (h : w.Blocks n) {stimulus : Stimulus σ}
    (hkeep : stimulus ≠ .hold false) : (w.step stimulus).Blocks n := by
  obtain ⟨job, hjob, hidle⟩ := h.held
  cases stimulus with
  | submit t token command =>
    refine ⟨h.holding, h.behind, job, ?_, hidle⟩
    exact (List.getElem?_append_left (List.getElem?_eq_some_iff.1 hjob).1).trans hjob
  | hold holding =>
    cases holding with
    | true => exact ⟨rfl, h.behind, job, hjob, hidle⟩
    | false => exact absurd rfl hkeep
  | attach | tune | failEnables | failDisables | wait =>
    exact ⟨h.holding, h.behind, job, hjob, hidle⟩
  | pass => exact h.step_pass

theorem Blocks.foldl {n : Nat} (h : w.Blocks n) {more : List (Stimulus σ)}
    (hkeep : .hold false ∉ more) : (more.foldl Works.step w).Blocks n := by
  induction more generalizing w with
  | nil => exact h
  | cons stimulus more ih =>
    rw [List.mem_cons, not_or] at hkeep
    exact ih (h.step (Ne.symm hkeep.1)) hkeep.2

/-! ## The order of executions -/

/-- What becomes of the commands, when all this has happened to the modem of a configuration. -/
structure Sequenced (config : ModemConfig) (stimuli : List (Stimulus σ)) (w : Works σ) : Prop where
  /-- The commands that were executed and then those that are worked on are all that were submitted,
  each once and in this order. -/
  order : w.submitted.map (Submission.job config.latency) =
    w.executed.map Execution.job ++ w.pipeline.jobs
  /-- No command was executed before its time, which is the latency after its submission. -/
  timely : ∀ (k : Nat) (e : Execution σ), w.executed[k]? = some e →
    ∃ s : Submission, w.submitted[k]? = some s ∧ e.job = s.job config.latency ∧
      s.time + config.latency ≤ e.time ∧ e.time ≤ w.clock
  /-- The modem itself is as it is after what it was told. -/
  modem : w.pipeline.modem = Modem.run config w.orders
  /-- The commands that it was told are those that were executed, in this order. -/
  commands : w.orders.filter Order.isCommand = w.executed.map Execution.order
  /-- This is what it has said to them. -/
  faults : (Modem.ofConfig config).verdicts w.orders = w.executed.map Execution.fault
  /-- As long as force-idle commands are held, none that waits is executed, nor anything behind it. -/
  held : w.pipeline.holding = true → ∀ before job behind,
    w.pipeline.jobs = before ++ job :: behind → job.command = .forceIdle →
    ∀ more : List (Stimulus σ), .hold false ∉ more →
      (more.foldl step w).executed.length ≤ w.executed.length + before.length
  /-- After a pass there is nothing left, or the next command must wait, for its time or because it
  is held. -/
  stops : (w.step .pass).pipeline.jobs = [] ∨
    ∃ job rest, (w.step .pass).pipeline.jobs = job :: rest ∧
      (w.clock < job.due ∨ w.pipeline.holding = true ∧ job.command = .forceIdle)
  /-- A pass executes something just when the time has come for which the modem would wait. -/
  wakes : (w.step .pass).executed ≠ w.executed ↔
    ∃ due, w.pipeline.nextDue? = some due ∧ due ≤ w.clock
  /-- Nothing but a pass executes anything. -/
  idles : ∀ stimulus, stimulus ≠ .pass → (w.step stimulus).executed = w.executed
  /-- A pass sends the signals of what it executes to whoever was attached last, and nothing else. -/
  addressed : ∃ fresh, (w.step .pass).executed = w.executed ++ fresh ∧
    (w.step .pass).sent = w.sent ++ fresh.flatMap Execution.signals ∧
    ∀ e ∈ fresh, e.time = w.clock ∧ e.sink = attached? stimuli e.job.tenant
  /-- All that was heard are the signals of the executions, in their order and undivided, and reports
  on radios between them. -/
  woven : Woven w.executed w.sent
  /-- For every tenant those who were attached have heard the end of each command once, in order. -/
  endings : ∀ t, w.sent.filterMap (Sent.ending? t) = w.executed.filterMap (Execution.ending? t)

theorem length_executed_of_held (hholding : w.pipeline.holding = true) {before behind : List Job}
    {job : Job} (hjobs : w.pipeline.jobs = before ++ job :: behind)
    (hidle : job.command = .forceIdle) {more : List (Stimulus σ)} (hkeep : .hold false ∉ more) :
    (more.foldl step w).executed.length ≤ w.executed.length + before.length := by
  have hblocks : w.Blocks (w.executed.length + before.length) := by
    refine ⟨hholding, Nat.le_add_right .., job, ?_, hidle⟩
    rw [Nat.add_sub_cancel_left, hjobs, List.getElem?_append_right (Nat.le_refl _), Nat.sub_self]
    rfl
  exact (hblocks.foldl hkeep).behind

theorem Kept.timely_at (h : w.Kept config stimuli) {k : Nat} (he : w.executed[k]? = some e) :
    ∃ s, w.submitted[k]? = some s ∧ e.job = s.job config.latency ∧
      s.time + config.latency ≤ e.time ∧ e.time ≤ w.clock := by
  have hk : k < (w.executed.map Execution.job).length := by
    rw [List.length_map]
    exact (List.getElem?_eq_some_iff.1 he).1
  have hjob : (w.submitted.map (Submission.job config.latency))[k]? = some e.job := by
    rw [h.order, List.getElem?_append_left hk, List.getElem?_map, he]
    rfl
  rw [List.getElem?_map] at hjob
  obtain ⟨s, hs, hsame⟩ := Option.map_eq_some_iff.1 hjob
  obtain ⟨hdue, htime⟩ := h.timely e (List.mem_of_getElem? he)
  refine ⟨s, hs, hsame.symm, ?_, htime⟩
  rw [← hsame] at hdue
  exact hdue

/-- After a pass the next command is not ready. -/
theorem stops_pass (w : Works σ) {job : Job} {rest : List Job}
    (hleft : (w.step .pass).pipeline.jobs = job :: rest) :
    w.clock < job.due ∨ w.pipeline.holding = true ∧ job.command = .forceIdle := by
  replace hleft : (w.pipeline.completeReady w.clock w.pipeline.jobs).1.jobs = job :: rest := hleft
  rw [Pipeline.completeReady_eq] at hleft
  have hready := Pipeline.isReady_drop hleft
  by_cases hdue : job.due ≤ w.clock
  · right
    simpa [Pipeline.isReady, Pipeline.holds, hdue] using hready
  · left
    omega

/-- **Commands are executed in their order**, whatever happens to a modem at work, and whoever is
attached hears of it in this order. -/
theorem sequenced_of_run (config : ModemConfig) (stimuli : List (Stimulus σ)) :
    (run config stimuli).Sequenced config stimuli := by
  have h := kept_run config stimuli
  generalize run config stimuli = w at h
  exact {
    order := h.order
    timely := fun k e he => h.timely_at he
    modem := h.modem
    commands := h.commands
    faults := h.faults
    held := fun hholding before job behind hjobs hidle more hkeep =>
      length_executed_of_held hholding hjobs hidle hkeep
    stops := by
      cases hleft : (w.step .pass).pipeline.jobs with
      | nil => exact .inl rfl
      | cons job rest => exact .inr ⟨job, rest, rfl, w.stops_pass hleft⟩
    wakes := by
      rw [← Pipeline.executions_ne_nil]
      exact not_congr List.append_right_eq_self
    idles := fun stimulus hpass => by
      cases stimulus with
      | pass => exact absurd rfl hpass
      | submit | attach | tune | failEnables | failDisables | hold | wait => rfl
    addressed := by
      refine ⟨w.pipeline.executions w.clock w.pipeline.jobs, rfl, ?_, fun e he => ?_⟩
      · show w.sent ++ (w.pipeline.completeReady w.clock w.pipeline.jobs).2 = _
        rw [Pipeline.completeReady_eq]
      · obtain ⟨htime, -, -, hsink⟩ := Pipeline.of_mem_executions he
        exact ⟨htime, hsink.trans (h.attached e.job.tenant)⟩
    woven := h.woven
    endings := h.woven.endings }

end Works

end DataPath.Modem
