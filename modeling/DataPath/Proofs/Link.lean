import DataPath.Proofs.Modem
import DataPath.Proofs.Switch.Holding
import Mathlib.Data.List.Induction

/-!
# A switch alone with the modem

A `Link` is one switch and the modem, with the commands that the modem works on and the signals
that the switch has not taken.  Requests, signals, work of the modem, changes of the radio and
failures that are injected come in any order.

When a link is quiet the two ends should agree: what is up on the slot is held by the switch, which
lets go of it on a disconnect.  They do, with one exception (`up_of_quiet`).  A class is *left
behind* when the switch hears that one attempt to bring it up has failed, although another attempt
has brought it up or will: the switch forgets the class then, and does not hear of it any more.

The proof follows the last word on a class, as the modem will have it (`ComesUp`).  One step is
`step_comesUp`; what a switch adds to it is `Switch.Keeps`, and what the modem makes of it is
`Modem.Yields.word_of_mem_up`.
-/

namespace DataPath

/-- A switch and the modem, with what is on the way between them. -/
structure Link (ρ : Type) where
  switch : Switch ρ
  pipeline : Modem.Pipeline Unit
  /-- The signals that the switch has not taken, oldest first. -/
  signals : List Signal
  /-- The time, in milliseconds. -/
  clock : Nat := 0

/-- What may happen on a link. -/
inductive Link.Input (ρ : Type) where
  /-- The switch takes a request. -/
  | request (id : Nat) (request : Request) (handle : Option ρ)
  /-- The switch takes the oldest signal. -/
  | hear
  /-- The modem executes the next command, if its time has come. -/
  | work
  /-- The radio of the slot is set. -/
  | tune (radio : Radio)
  /-- So many more commands to bring up a class will fail. -/
  | failEnables (count : Nat)
  /-- So many milliseconds go by. -/
  | wait (time : Nat)

namespace Link

variable {ρ : Type} {l : Link ρ} {c : DataClass}

/-! ## Runs -/

/-- The link of a tenant, at the start: the switch is attached to the modem. -/
def start (tenant : Tenant) (arbitrated : Bool) (config : ModemConfig) : Link ρ :=
  let (pipeline, sent) := (Modem.Pipeline.ofConfig config).attach tenant ()
  { switch := { tenant := tenant, arbitrated := arbitrated }
    pipeline := pipeline
    signals := sent.map Modem.Sent.signal }

/-- What the switch has become; its commands are submitted. -/
def settle (l : Link ρ) (switch : Switch ρ) : Link ρ :=
  let (switch, effects) := switch.carryOut fun _ => true
  { l with
    switch := switch
    pipeline := (Switch.submissions effects).foldl
      (fun pipeline e => pipeline.submit l.clock switch.tenant e.1 e.2) l.pipeline }

/-- What the modem has become, and what it signals. -/
def signal (l : Link ρ) : Modem.Pipeline Unit × List (Modem.Sent Unit) → Link ρ
  | (pipeline, sent) =>
    { l with pipeline := pipeline, signals := l.signals ++ sent.map Modem.Sent.signal }

/-- One thing happens. -/
def step (l : Link ρ) : Input ρ → Link ρ
  | .request id request handle => l.settle (l.switch.handle id request handle)
  | .hear =>
    match l.signals with
    | [] => l
    | signal :: rest => { l with signals := rest }.settle (l.switch.hear signal)
  | .work => ((l.pipeline.next? l.clock).map l.signal).getD l
  | .tune radio => l.signal (l.pipeline.setRadio l.switch.tenant radio)
  | .failEnables count =>
    { l with pipeline := { l.pipeline with
      modem := l.pipeline.modem.failNextEnable l.switch.tenant count } }
  | .wait time => { l with clock := l.clock + time }

/-- One thing happens after the other. -/
def run (l : Link ρ) (inputs : List (Input ρ)) : Link ρ := inputs.foldl step l

theorem run_append (l : Link ρ) (inputs inputs' : List (Input ρ)) :
    l.run (inputs ++ inputs') = (l.run inputs).run inputs' := List.foldl_append

/-- The classes that are up on the slot. -/
def up (l : Link ρ) : ClassSet := l.pipeline.modem.up l.switch.tenant

/-- The commands that the modem has not executed. -/
def commands (l : Link ρ) : List Command := l.pipeline.jobs.map Modem.Job.command

/-- Nothing is in flight: the modem has no command left, and the switch no signal. -/
def Quiet (l : Link ρ) : Prop := l.pipeline.jobs = [] ∧ l.signals = []

instance (l : Link ρ) : Decidable l.Quiet := inferInstanceAs (Decidable (_ ∧ _))

/-- A class is up, or will be when the modem has executed everything. -/
def ComesUp (l : Link ρ) (c : DataClass) : Prop :=
  Command.lastWord c (c ∈ l.up) l.commands = true

/-- The switch is about to hear that an attempt to bring up a class has failed, and the class comes
up all the same. -/
def Misled (l : Link ρ) (c : DataClass) : Prop :=
  l.ComesUp c ∧ ∃ token fault rest, l.signals = .completed token (some fault) :: rest ∧
    l.switch.inflight.lookup token = some (.enable c)

/-- The switch held a class when it was misled about it, and has not held the class since. -/
def LeftBehind (l : Link ρ) (inputs : List (Input ρ)) (c : DataClass) : Prop :=
  ∃ earlier later, inputs = earlier ++ .hear :: later ∧
    (l.run earlier).switch.Holds c ∧ (l.run earlier).Misled c ∧
    ∀ since, since <+: later → ¬((l.run earlier).step .hear |>.run since).switch.Holds c

/-! ## One step -/

/-- Between steps the switch has nothing left to carry out, the modem works for its tenant only,
and no command to take down a class was made to fail. -/
structure Orderly (l : Link ρ) : Prop where
  outbox : l.switch.outbox = []
  tenants : ∀ job ∈ l.pipeline.jobs, job.tenant = l.switch.tenant
  yields : l.pipeline.modem.Yields l.switch.tenant

/-- The commands join those that the modem works on. -/
theorem foldl_submit_eq (now : Nat) (t : Tenant) (cs : List (Nat × Command))
    (pipeline : Modem.Pipeline Unit) :
    cs.foldl (fun pipeline e => pipeline.submit now t e.1 e.2) pipeline =
      { pipeline with
        jobs := pipeline.jobs ++ cs.map fun e => ⟨now + pipeline.latency, t, e.1, e.2⟩ } := by
  induction cs generalizing pipeline with
  | nil => simp
  | cons e cs ih =>
    rw [List.foldl_cons, ih]
    simp [Modem.Pipeline.submit]

theorem settle_eq (l : Link ρ) (s : Switch ρ) :
    l.settle s =
      { l with
        switch := { s with outbox := [] }
        pipeline := { l.pipeline with
          jobs := l.pipeline.jobs ++ (Switch.submissions s.outbox).map fun e =>
            ⟨l.clock + l.pipeline.latency, s.tenant, e.1, e.2⟩ } } := by
  unfold settle
  rw [Switch.carryOut_eq fun _ => rfl]
  simp only [foldl_submit_eq, Switch.submissions_drain]

theorem commands_settle (l : Link ρ) (s : Switch ρ) :
    (l.settle s).commands = l.commands ++ (Switch.submissions s.outbox).map Prod.snd := by
  rw [settle_eq]
  simp [commands]

theorem Orderly.settle (h : l.Orderly) {s : Switch ρ} (htenant : s.tenant = l.switch.tenant) :
    (l.settle s).Orderly := by
  rw [settle_eq]
  refine ⟨rfl, fun job hjob => ?_, ?_⟩
  · rcases List.mem_append.1 hjob with hold | hnew
    · exact (h.tenants job hold).trans htenant.symm
    · obtain ⟨e, -, rfl⟩ := List.mem_map.1 hnew
      rfl
  · intro slot hslot
    have hslot' : l.pipeline.modem.slot? s.tenant = some slot := hslot
    rw [htenant] at hslot'
    exact h.yields slot hslot'

/-- What the switch has come to, and which classes come up after that. -/
theorem settle_comesUp {s₀ s : Switch ρ} {dropped : Option DataClass}
    (hkeeps : Switch.Keeps dropped s₀ s) (hout : s₀.outbox = [])
    (htenant : s₀.tenant = l.switch.tenant) (hup : (l.settle s).ComesUp c) :
    (l.settle s).switch.Holds c ∨ l.ComesUp c ∧ (s₀.Holds c → dropped = some c) := by
  obtain ⟨es, hadds, hword⟩ := hkeeps
  have hes : s.outbox = es := by rw [hadds.outbox, hout, List.nil_append]
  have hsame : (l.settle s).up = l.up := by
    rw [settle_eq, up, up]
    simp only
    rw [hadds.tenant, htenant]
  rw [ComesUp, commands_settle, hsame, Command.lastWord_append, hes] at hup
  rcases hword c _ hup with hheld | hold
  · left
    rw [settle_eq]
    exact hheld
  · exact .inr hold

/-- Forgetting that a command was in flight changes nothing about the classes. -/
theorem holds_ended {s : Switch ρ} {signal : Signal} : (s.ended signal).Holds c ↔ s.Holds c := by
  cases signal <;> rfl

theorem misled_of_dropped {signal : Signal} {rest : List Signal} (hsignals : l.signals = signal :: rest)
    (hdropped : l.switch.dropped? signal = some c) (hup : l.ComesUp c) : l.Misled c := by
  refine ⟨hup, ?_⟩
  cases signal with
  | completed token fault =>
    obtain ⟨command, hlook, hlost⟩ := Option.bind_eq_some_iff.1 hdropped
    cases command with
    | enable d =>
      cases fault with
      | none => cases hlost
      | some f =>
        cases hlost
        exact ⟨token, f, rest, hsignals, hlook⟩
    | disable d => cases hlost
    | forceIdle => cases hlost
  | classConnected d => cases hdropped
  | radio state => cases hdropped

/-- The modem executes its first command, which is one of the switch. -/
theorem Orderly.exists_of_next? (h : l.Orderly) {out : Modem.Pipeline Unit × List (Modem.Sent Unit)}
    (hnext : l.pipeline.next? l.clock = some out) :
    ∃ job rest, l.pipeline.jobs = job :: rest ∧ out.1.jobs = rest ∧
      out.1.modem = (l.pipeline.modem.execute l.switch.tenant job.command).1 := by
  obtain ⟨job, rest, hjobs, rfl⟩ := Modem.Pipeline.exists_of_next? hnext
  refine ⟨job, rest, hjobs, rfl, ?_⟩
  rw [← h.tenants job (hjobs ▸ List.mem_cons_self)]
  rfl

theorem Orderly.step (h : l.Orderly) (input : Input ρ) : (l.step input).Orderly := by
  cases input with
  | request id request handle =>
    obtain ⟨es, hadds, -⟩ := l.switch.keeps_handle id request handle
    exact h.settle hadds.tenant
  | hear =>
    unfold Link.step
    cases hsignals : l.signals with
    | nil => exact h
    | cons signal rest =>
      obtain ⟨es, hadds, -⟩ := l.switch.keeps_hear signal
      have hrest : { l with signals := rest }.Orderly := ⟨h.outbox, h.tenants, h.yields⟩
      exact hrest.settle (hadds.tenant.trans (l.switch.ended_tenant signal))
  | work =>
    unfold Link.step
    cases hnext : l.pipeline.next? l.clock with
    | none => exact h
    | some out =>
      obtain ⟨job, rest, hjobs, hrest, hmodem⟩ := h.exists_of_next? hnext
      have htenants : ∀ j ∈ out.1.jobs, j.tenant = l.switch.tenant := by
        intro j hj
        rw [hrest] at hj
        exact h.tenants j (hjobs ▸ List.mem_cons_of_mem job hj)
      have hyields : out.1.modem.Yields l.switch.tenant := hmodem ▸ h.yields.execute job.command
      exact ⟨h.outbox, htenants, hyields⟩
  | tune radio => exact ⟨h.outbox, h.tenants, h.yields.setRadio radio⟩
  | failEnables count => exact ⟨h.outbox, h.tenants, h.yields.failNextEnable count⟩
  | wait time => exact ⟨h.outbox, h.tenants, h.yields⟩

/-- A signal lets go of a class that comes up only if the switch is misled by it. -/
theorem hear_comesUp (h : l.Orderly) {signal : Signal} {rest : List Signal}
    (hsignals : l.signals = signal :: rest)
    (hup : ({ l with signals := rest }.settle (l.switch.hear signal)).ComesUp c) :
    ({ l with signals := rest }.settle (l.switch.hear signal)).switch.Holds c ∨
      l.ComesUp c ∧ (l.switch.Holds c → l.Misled c) := by
  have hout : (l.switch.ended signal).outbox = [] := (l.switch.ended_outbox signal).trans h.outbox
  rcases settle_comesUp (l.switch.keeps_hear signal) hout (l.switch.ended_tenant signal) hup with
    hheld | ⟨hold, hnot⟩
  · exact .inl hheld
  · have hold' : l.ComesUp c := hold
    refine .inr ⟨hold', fun hheld => ?_⟩
    exact misled_of_dropped hsignals (hnot (holds_ended.2 hheld)) hold'

/-- By its work the modem brings up what was asked for. -/
theorem comesUp_of_work (h : l.Orderly) (hup : (l.step .work).ComesUp c) : l.ComesUp c := by
  unfold step at hup
  cases hnext : l.pipeline.next? l.clock with
  | none =>
    rw [hnext] at hup
    exact hup
  | some out =>
    rw [hnext] at hup
    obtain ⟨job, rest, hjobs, hrest, hmodem⟩ := h.exists_of_next? hnext
    have hup' : Command.lastWord c (c ∈ out.1.modem.up l.switch.tenant)
        (out.1.jobs.map Modem.Job.command) = true := hup
    rw [hrest, hmodem] at hup'
    rw [ComesUp, commands, hjobs, List.map_cons, Command.lastWord_cons]
    refine Command.lastWord_mono (fun hnew => ?_) hup'
    exact h.yields.word_of_mem_up (of_decide_eq_true hnew)

/-- Setting the radio brings up nothing. -/
theorem comesUp_of_tune {radio : Radio} (hup : (l.step (.tune radio)).ComesUp c) : l.ComesUp c := by
  refine Command.lastWord_mono (fun hnew => ?_) hup
  have hnew' : c ∈ (l.pipeline.modem.setRadio l.switch.tenant radio).1.up l.switch.tenant :=
    of_decide_eq_true hnew
  obtain ⟨-, -, ⟨-, -, hempty⟩ | hsame⟩ := l.pipeline.modem.setRadio_cases l.switch.tenant radio
  · rw [hempty] at hnew'
    exact absurd hnew' (ClassSet.not_mem_empty c)
  · rw [hsame] at hnew'
    exact decide_eq_true hnew'

theorem up_failEnables (l : Link ρ) (count : Nat) : (l.step (.failEnables count)).up = l.up :=
  congrArg (Option.getD · ∅) (Modem.connected?_amend_keep _ _ _ fun _ => rfl)

/-- When a class comes up after a step, the switch holds it then; or it came up before, and was not
held then either, unless the switch was misled. -/
theorem step_comesUp (h : l.Orderly) {input : Input ρ} (hup : (l.step input).ComesUp c) :
    (l.step input).switch.Holds c ∨
      l.ComesUp c ∧ (l.switch.Holds c → input = .hear ∧ l.Misled c) := by
  -- A step of the modem changes nothing about what the switch holds.
  have hmodem : ∀ {l' : Link ρ}, l'.switch = l.switch → l.ComesUp c →
      l'.switch.Holds c ∨ l.ComesUp c ∧ (l.switch.Holds c → input = .hear ∧ l.Misled c) := by
    intro l' hswitch hold
    by_cases hheld : l.switch.Holds c
    · exact .inl (hswitch ▸ hheld)
    · exact .inr ⟨hold, fun hyes => absurd hyes hheld⟩
  cases input with
  | request id request handle =>
    rcases settle_comesUp (l.switch.keeps_handle id request handle) h.outbox rfl hup with
      hheld | ⟨hold, hnot⟩
    · exact .inl hheld
    · refine .inr ⟨hold, fun hheld => ?_⟩
      cases hnot hheld
  | hear =>
    unfold step at hup ⊢
    cases hsignals : l.signals with
    | nil =>
      rw [hsignals] at hup
      exact hmodem rfl hup
    | cons signal rest =>
      rw [hsignals] at hup
      rcases hear_comesUp h hsignals hup with hheld | ⟨hold, hmisled⟩
      · exact .inl hheld
      · exact .inr ⟨hold, fun hheld => ⟨rfl, hmisled hheld⟩⟩
  | work =>
    refine hmodem ?_ (comesUp_of_work h hup)
    unfold step
    cases l.pipeline.next? l.clock <;> rfl
  | tune radio => exact hmodem rfl (comesUp_of_tune hup)
  | failEnables count =>
    have hold : l.ComesUp c := by
      rw [ComesUp, up_failEnables] at hup
      exact hup
    exact hmodem rfl hold
  | wait time => exact hmodem rfl hup

/-! ## Runs -/

theorem Orderly.run (h : l.Orderly) (inputs : List (Input ρ)) : (l.run inputs).Orderly := by
  induction inputs generalizing l with
  | nil => exact h
  | cons input inputs ih => exact ih (h.step input)

theorem orderly_start (tenant : Tenant) (arbitrated : Bool) (config : ModemConfig) :
    (start tenant arbitrated config : Link ρ).Orderly :=
  ⟨rfl, nofun, Modem.yields_ofConfig config tenant⟩

theorem not_comesUp_start (tenant : Tenant) (arbitrated : Bool) (config : ModemConfig)
    (c : DataClass) : ¬(start tenant arbitrated config : Link ρ).ComesUp c := by
  intro hup
  have hmem : c ∈ (Modem.ofConfig config).up tenant := of_decide_eq_true hup
  rw [Modem.up_ofConfig] at hmem
  exact ClassSet.not_mem_empty c hmem

/-- A class that was left behind is left behind until the switch holds it. -/
theorem LeftBehind.concat {inputs : List (Input ρ)} {input : Input ρ} (h : l.LeftBehind inputs c)
    (hnot : ¬(l.run (inputs ++ [input])).switch.Holds c) : l.LeftBehind (inputs ++ [input]) c := by
  obtain ⟨earlier, later, rfl, hheld, hmisled, hsince⟩ := h
  refine ⟨earlier, later ++ [input], by simp, hheld, hmisled, fun since hprefix => ?_⟩
  rcases List.prefix_concat_iff.1 hprefix with rfl | hprefix
  · simpa [run] using hnot
  · exact hsince since hprefix

/-- A class that comes up is held, or was left behind. -/
theorem holds_or_leftBehind (h : l.Orderly) (hnone : ¬l.ComesUp c) (inputs : List (Input ρ))
    (hup : (l.run inputs).ComesUp c) :
    (l.run inputs).switch.Holds c ∨ l.LeftBehind inputs c := by
  induction inputs using List.reverseRecOn with
  | nil => exact absurd hup hnone
  | append_singleton inputs input ih =>
    by_cases hheld : (l.run (inputs ++ [input])).switch.Holds c
    · exact .inl hheld
    · right
      rw [run_append] at hup
      rcases step_comesUp (h.run inputs) hup with hholds | ⟨hup', hwas⟩
      · rw [run_append] at hheld
        exact absurd hholds hheld
      · by_cases hheld' : (l.run inputs).switch.Holds c
        · obtain ⟨rfl, hmisled⟩ := hwas hheld'
          refine ⟨inputs, [], rfl, hheld', hmisled, fun since hprefix => ?_⟩
          rw [List.prefix_nil.1 hprefix]
          rwa [run_append] at hheld
        · exact ((ih hup').resolve_left hheld').concat hheld

/-- When nothing is in flight, what is up on the slot is held by the switch, which lets go of it
when it is told to; or it was left behind, and the switch takes it for inactive. -/
theorem up_of_quiet (tenant : Tenant) (arbitrated : Bool) (config : ModemConfig)
    (inputs : List (Input ρ)) (c : DataClass) :
    let l : Link ρ := (start tenant arbitrated config).run inputs
    l.Quiet → c ∈ l.up →
      c ∈ l.switch.classes ∧ (l.switch.disconnect c).2 = .started ∨
        (start tenant arbitrated config).LeftBehind inputs c ∧
          (l.switch.disconnect c).2 = .alreadyInactive := by
  intro l hquiet hup
  have hcomes : l.ComesUp c := by
    rw [ComesUp, commands, hquiet.1]
    exact decide_eq_true hup
  have hcases := holds_or_leftBehind (orderly_start tenant arbitrated config)
    (not_comesUp_start tenant arbitrated config c) inputs hcomes
  rw [Switch.disconnect_outcome]
  by_cases hheld : l.switch.Holds c
  · rw [if_pos hheld]
    exact .inl ⟨hheld.2, rfl⟩
  · rw [if_neg hheld]
    exact .inr ⟨hcases.resolve_left hheld, rfl⟩

/-- The default class is brought up. -/
def opening : List (Input Unit) :=
  [.hear, .request 1 (.connect .default) none, .wait 20, .work, .hear, .hear]

/-- After that, a second class is asked for, and no longer, and asked for again, and the first
attempt to bring it up fails. -/
def changeOfMind : List (Input Unit) :=
  [.failEnables 1, .request 2 (.connect .mms) none, .request 3 (.disconnect .mms) none,
    .request 4 (.connect .mms) none, .wait 20, .work, .work, .work, .hear, .hear, .hear, .hear]

/-- In the end both classes are up; the first one is held, and the second one was left behind. -/
theorem leftBehind_of_changeOfMind :
    let l : Link Unit := (start ⟨0⟩ false {}).run (opening ++ changeOfMind)
    l.Quiet ∧ l.up = .ofList [.default, .mms] ∧
      (.default ∈ l.switch.classes ∧ (l.switch.disconnect .default).2 = .started) ∧
      (start ⟨0⟩ false {} : Link Unit).LeftBehind (opening ++ changeOfMind) .mms := by
  intro l
  have hquiet : l.Quiet := by decide +kernel
  have hup : l.up = .ofList [.default, .mms] := by decide +kernel
  refine ⟨hquiet, hup, ?_, ?_⟩
  · rcases up_of_quiet ⟨0⟩ false {} (opening ++ changeOfMind) .default hquiet
      (by rw [hup]; decide) with hheld | ⟨-, hinactive⟩
    · exact hheld
    · exact absurd hinactive (by decide +kernel)
  · rcases up_of_quiet ⟨0⟩ false {} (opening ++ changeOfMind) .mms hquiet
      (by rw [hup]; decide) with ⟨-, hstarted⟩ | ⟨hleft, -⟩
    · exact absurd hstarted (by decide +kernel)
    · exact hleft

/-- So a class may be up that the switch takes for inactive, although nothing is in flight. -/
theorem up_of_changeOfMind :
    let l : Link Unit := (start ⟨0⟩ false {}).run (opening ++ changeOfMind)
    l.Quiet ∧ l.up = .ofList [.default, .mms] ∧ .mms ∉ l.switch.classes ∧
      (l.switch.disconnect .mms).2 = .alreadyInactive := by
  decide +kernel

end Link

end DataPath
