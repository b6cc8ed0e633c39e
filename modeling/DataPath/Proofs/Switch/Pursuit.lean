import DataPath.Proofs.Switch.Release

/-!
# Pursuing a class

A switch *pursues* a class by a command to bring it up or by a question for the arbiter about it.
There are three ways to come to this: a connect of the class, another attempt for a class that the
switch holds, and a parked connect that is tried again.

So a switch that neither holds a class nor has a connect of it in the queue does not pursue it, and
stays such a switch, as long as nobody asks for the class: it *shuns* the class (`Shuns`).  Every
rule keeps to this, and `Shuns.step` and `Shuns.log` put it together for one input and for many.  A
class that is held may be shunned too, as long as nobody asks for another attempt.
-/

namespace DataPath.Switch

variable {ρ : Type} {s : Switch ρ} {c d : DataClass} {es fs : List (Effect ρ)} {held : Prop}
  {input : Input ρ} {later : List (Input ρ)}

/-! ## Pursuing a class -/

/-- Whether an effect is a command to bring up a class, or a question for the arbiter about it. -/
def Effect.pursues (c : DataClass) : Effect ρ → Bool
  | .submit _ (.enable d) => d = c
  | .askOwnership _ d _ => d = c
  | _ => false

/-- The effects by which a class is pursued. -/
def pursuits (c : DataClass) (es : List (Effect ρ)) : List (Effect ρ) := es.filter (Effect.pursues c)

@[simp] theorem pursuits_nil : pursuits c ([] : List (Effect ρ)) = [] := rfl

@[simp] theorem pursuits_append :
    pursuits c (es ++ fs) = pursuits c es ++ pursuits c fs := List.filter_append ..

@[simp] theorem pursuits_cons {e : Effect ρ} :
    pursuits c (e :: es) = (if e.pursues c then [e] else []) ++ pursuits c es := by
  by_cases he : e.pursues c = true
  · simp [pursuits, he]
  · simp [pursuits, he]

theorem pursuits_eq_nil (hsub : ∀ e ∈ submissions es, e.2 ≠ .enable c)
    (hask : ∀ id handle, .askOwnership id c handle ∉ es) : pursuits c es = [] := by
  refine List.filter_eq_nil_iff.2 fun e he => ?_
  intro hpursues
  cases e with
  | submit k command =>
    cases command with
    | enable d =>
      obtain rfl : d = c := by simpa [Effect.pursues] using hpursues
      exact hsub _ (List.mem_filterMap.2 ⟨_, he, rfl⟩) rfl
    | disable | forceIdle => cases hpursues
  | askOwnership id d handle =>
    obtain rfl : d = c := by simpa [Effect.pursues] using hpursues
    exact hask id handle he
  | notice | event | reply => cases hpursues

/-- What neither submits a command nor asks the arbiter pursues nothing. -/
theorem pursuits_of_quiet (hsub : submissions es = []) (hans : answers es = []) :
    pursuits c es = [] := by
  refine pursuits_eq_nil (by simp [hsub]) fun id handle hmem => ?_
  have hanswer : .askOwnership id c handle ∈ answers es := List.mem_filter.2 ⟨hmem, rfl⟩
  rw [hans] at hanswer
  cases hanswer

@[simp] theorem pursuits_phaseEvent (t : Tenant) (p q : Phase) :
    pursuits c (phaseEvent t p q : List (Effect ρ)) = [] :=
  pursuits_of_quiet (submissions_phaseEvent t p q) (answers_phaseEvent t p q)

@[simp] theorem pursuits_changeNotice (before after : Snapshot) :
    pursuits c (changeNotice before after : List (Effect ρ)) = [] :=
  pursuits_of_quiet (submissions_changeNotice before after) (answers_changeNotice before after)

@[simp] theorem pursuits_replyTo (handle : Option ρ) (id : Nat) (body : ReplyBody) :
    pursuits c (replyTo handle id body) = [] := by
  cases handle <;> rfl

/-- Whether an input asks for a class. -/
def Input.Wants (input : Input ρ) (c : DataClass) : Prop :=
  ∃ p, input.connect? = some p ∧ p.dataClass = c

theorem Input.wants_request {id : Nat} {request : Request} {handle : Option ρ} :
    (Input.request id request handle).Wants c ↔ request.wanted? = some c := by
  constructor
  · rintro ⟨p, hp, rfl⟩
    obtain ⟨d, hd, rfl⟩ := Option.map_eq_some_iff.1 hp
    exact hd
  · intro hwant
    exact ⟨⟨id, c, handle⟩, by simp [Input.connect?, hwant], rfl⟩

/-! ## Shunning a class -/

/-- A switch has nothing of a class in the queue, has pursued it so far by these effects, and has it
among its classes at most during a release, or because it is held all the same. -/
structure Shuns (held : Prop) (c : DataClass) (es : List (Effect ρ)) (s : Switch ρ) : Prop where
  classes : c ∈ s.classes → s.phase = .releasing ∨ held
  parked : ∀ p ∈ s.parked, p.dataClass ≠ c
  outbox : pursuits c s.outbox = es

namespace Shuns

theorem emit (h : Shuns held c es s) {e : Effect ρ} (he : e.pursues c = false) :
    Shuns held c es (s.emit e) := by
  refine ⟨h.classes, h.parked, ?_⟩
  show pursuits c (s.outbox ++ [e]) = es
  simp [he, h.outbox]

theorem answer (h : Shuns held c es s) (handle : Option ρ) (id : Nat) (body : ReplyBody) :
    Shuns held c es (s.answer handle id body) := by
  rw [answer_eq]
  exact ⟨h.classes, h.parked, by simp [h.outbox]⟩

theorem publishChange (h : Shuns held c es s) (before : Snapshot) :
    Shuns held c es (s.publishChange before) := by
  rw [publishChange_eq]
  exact ⟨h.classes, h.parked, by simp [h.outbox]⟩

theorem enter (h : Shuns held c es s) {p : Phase} (hp : c ∈ s.classes → p = .releasing ∨ held) :
    Shuns held c es (s.enter p) := by
  rw [enter_eq]
  exact ⟨hp, h.parked, by simp [h.outbox]⟩

theorem submit (h : Shuns held c es s) (command : Command) (hcommand : command ≠ .enable c) :
    Shuns held c es (s.submit command) := by
  have hinflight : Shuns held c es { s with
      inflight := s.inflight ++ [(s.nextToken, command)], nextToken := s.nextToken + 1 } :=
    ⟨h.classes, h.parked, h.outbox⟩
  refine hinflight.emit ?_
  cases command with
  | enable d =>
    have hne : d ≠ c := fun heq => hcommand (congrArg Command.enable heq)
    simp [Effect.pursues, hne]
  | disable | forceIdle => rfl

theorem beginRelease (h : Shuns held c es s) : Shuns held c es s.beginRelease := by
  have hsubmit := h.submit .forceIdle nofun
  have htoken : Shuns held c es { s.submit .forceIdle with releaseToken := some s.nextToken } :=
    ⟨hsubmit.classes, hsubmit.parked, hsubmit.outbox⟩
  exact htoken.enter fun _ => .inl rfl

theorem untrack (h : Shuns held c es s) (d : DataClass) : Shuns held c es (s.untrack d) :=
  ⟨fun hc => h.classes (ClassSet.mem_erase.1 hc).2, h.parked, h.outbox⟩

/-- A switch that tracks another class goes on shunning this one. -/
theorem track (h : Shuns held c es s) (hd : d ≠ c) : Shuns held c es (s.track d) := by
  have hinsert : Shuns held c es { s with classes := s.classes.insert d } := by
    refine ⟨fun hc => ?_, h.parked, h.outbox⟩
    rcases ClassSet.mem_insert.1 hc with heq | hmem
    · exact absurd heq.symm hd
    · exact h.classes hmem
  exact hinsert.submit (.enable d) fun heq => hd (Command.enable.inj heq)

/-- A switch that is not releasing has the class at most because it is held. -/
theorem held_of_mem (h : Shuns held c es s) (hp : s.phase ≠ .releasing) (hc : c ∈ s.classes) :
    held := (h.classes hc).resolve_left hp

theorem settle (h : Shuns held c es s) (hp : s.phase ≠ .releasing) : Shuns held c es s.settle := by
  rcases s.settle_cases with ⟨-, heq⟩ | ⟨-, heq⟩ | ⟨-, heq⟩
  · rw [heq]
    exact h.beginRelease
  · rw [heq]
    exact h.enter fun hc => .inr (h.held_of_mem hp hc)
  · rw [heq]
    exact h

theorem foldl_enable (h : Shuns held c es s) {ds : List DataClass} (hds : ∀ d ∈ ds, d ≠ c) :
    Shuns held c es ((ds.map .enable).foldl Switch.submit s) := by
  induction ds generalizing s with
  | nil => exact h
  | cons d ds ih =>
    obtain ⟨hfirst, hrest⟩ := List.forall_mem_cons.1 hds
    exact ih (h.submit (.enable d) fun heq => hfirst (Command.enable.inj heq)) hrest

/-! ### Requests -/

theorem connect (h : Shuns held c es s) (hd : d ≠ c) (id : Nat) (handle : Option ρ)
    (grant : Option Grant) : Shuns held c es (s.connect id d handle grant) := by
  rcases s.connect_rules id d handle grant with ⟨o, heq⟩ | ⟨-, heq⟩ | ⟨-, -, heq⟩ | ⟨hp, -, -, heq⟩ |
    ⟨-, -, heq⟩
  · rw [heq]
    exact h.answer handle id _
  · rw [heq]
    refine ⟨h.classes, fun p hp => ?_, h.outbox⟩
    rcases List.mem_append.1 hp with hold | hnew
    · exact h.parked p hold
    · rw [List.mem_singleton.1 hnew]
      exact hd
  · rw [heq]
    exact h.emit (by simp [Effect.pursues, hd])
  · rw [heq]
    have htrack := h.track hd
    have hidle : (s.track d).phase ≠ .releasing := by
      show s.phase ≠ .releasing
      rw [hp]
      decide
    exact (htrack.enter fun hc => .inr (htrack.held_of_mem hidle hc)).answer handle id _
  · rw [heq]
    exact (h.track hd).answer handle id _

theorem disconnect (h : Shuns held c es s) (d : DataClass) :
    Shuns held c es (s.disconnect d).1 := by
  unfold Switch.disconnect
  split
  · next hlive =>
    have hgone := (h.untrack d).submit (.disable d) nofun
    exact hgone.settle (Phase.isLive_iff.1 hlive.1).2
  · exact h

theorem retryConnect (h : Shuns held c es s) (hheld : ¬held) :
    Shuns held c es s.retryConnect.1 := by
  unfold Switch.retryConnect
  split
  · exact h
  · next hlive =>
    have hphase : s.phase ≠ .releasing := (Phase.isLive_iff.1 (by simpa using hlive)).2
    have hnot : c ∉ s.classes := fun hc => hheld (h.held_of_mem hphase hc)
    split
    · exact h
    · obtain ⟨ds, hds, heq⟩ := exists_foldl_retry_eq s s.waiting.toList
      simp only [heq]
      refine h.foldl_enable ?_
      rintro d hd rfl
      exact hnot (ClassSet.mem_diff.1 (ClassSet.mem_toList.1 (hds.subset hd))).1

theorem cleanupAll (h : Shuns held c es s) : Shuns held c es s.cleanupAll.1 := by
  unfold Switch.cleanupAll
  split
  · exact h.submit .forceIdle nofun
  · exact h.beginRelease
  · exact h.beginRelease
  · exact h

/-- No request makes a switch pursue the class, unless it asks for the class, or for another attempt
while the class is held. -/
theorem handle (h : Shuns held c es s) (id : Nat) {request : Request} (handle : Option ρ)
    (hwant : request.wanted? ≠ some c) (hretry : held → request ≠ .retryConnect) :
    Shuns held c es (s.handle id request handle) := by
  refine Shuns.publishChange ?_ _
  cases request with
  | connect d => exact h.connect (fun heq => hwant (congrArg some heq)) id handle _
  | acquire d g => exact h.connect (fun heq => hwant (congrArg some heq)) id handle _
  | disconnect d => exact (h.disconnect d).answer handle id _
  | retryConnect => exact (h.retryConnect fun hheld => hretry hheld rfl).answer handle id _
  | cleanupAll => exact h.cleanupAll.answer handle id _
  | isIdle | isIdleOrReleasing | snapshot => exact h.answer handle id _

/-! ### Signals -/

theorem foldl_replay (h : Shuns held c es s) {ps : List (Parked ρ)}
    (hps : ∀ p ∈ ps, p.dataClass ≠ c) : Shuns held c es (ps.foldl replay s) := by
  induction ps generalizing s with
  | nil => exact h
  | cons p ps ih =>
    obtain ⟨hfirst, hrest⟩ := List.forall_mem_cons.1 hps
    have htold := h.emit (e := .event (.deferredReplayed s.tenant p.dataClass)) rfl
    exact ih (htold.connect hfirst p.id p.handle none) hrest

/-- At the end of a release the classes are forgotten, and nothing in the queue is of this one. -/
theorem completeRelease (h : Shuns held c es s) : Shuns held c es s.completeRelease := by
  have hempty : Shuns held c es
      { s with releaseToken := none, classes := ∅, connected := ∅, parked := [] } :=
    ⟨fun hc => absurd hc (ClassSet.not_mem_empty c), nofun, h.outbox⟩
  have hidle := hempty.enter (p := .idle) fun hc => absurd hc (ClassSet.not_mem_empty c)
  have htold := hidle.emit (e := .notice (.enteredIdle s.tenant (s.parked.map Parked.dataClass))) rfl
  exact htold.foldl_replay h.parked

theorem finish (h : Shuns held c es s) (token : Nat) (command : Command)
    (fault : Option ModemFault) : Shuns held c es (s.finish token command fault) := by
  cases command with
  | enable d =>
    cases fault with
    | none => exact h
    | some f =>
      have hfailed := (h.untrack d).emit
        (e := .event (.requestFailed s.tenant (some d) (.transport f))) rfl
      show Shuns held c es (if d ∈ s.classes ∧ s.phase.isLive then _ else _)
      split
      · next hlive => exact hfailed.settle (Phase.isLive_iff.1 hlive.2).2
      · exact hfailed
  | disable d =>
    cases fault with
    | none => exact h
    | some f => exact h.emit rfl
  | forceIdle =>
    show Shuns held c es (if s.phase = .releasing ∧ s.releaseToken = some token then _ else _)
    split
    · exact h.completeRelease
    · exact h

theorem classConnected (h : Shuns held c es s) (d : DataClass) :
    Shuns held c es (s.classConnected d) := by
  unfold Switch.classConnected
  split
  · next hlive =>
    have hactive : c ∈ s.classes → Phase.active = .releasing ∨ held :=
      fun hc => .inr (h.held_of_mem (Phase.isLive_iff.1 hlive.1).2 hc)
    split
    · exact h.enter hactive
    · have hconnected : Shuns held c es { s with connected := s.connected.insert d } :=
        ⟨h.classes, h.parked, h.outbox⟩
      have htold := hconnected.emit (e := .event (.classConnected s.tenant d)) rfl
      exact htold.enter hactive
  · exact h

theorem radioReported (h : Shuns held c es s) (radio : Radio) :
    Shuns held c es (s.radioReported radio) := by
  unfold Switch.radioReported
  split
  · exact h
  · have hradio : Shuns held c es { s with radio := radio } := ⟨h.classes, h.parked, h.outbox⟩
    have hnotice := hradio.emit (e := .notice (.radioChanged s.tenant s.radio radio)) rfl
    have htold := hnotice.emit (e := .event (.radioChanged s.tenant s.radio radio)) rfl
    simp only
    split
    · exact htold.beginRelease
    · exact htold

/-- No signal makes a switch pursue the class. -/
theorem hear (h : Shuns held c es s) (signal : Signal) : Shuns held c es (s.hear signal) := by
  cases signal with
  | completed token fault =>
    unfold Switch.hear
    simp only
    split
    · exact h
    · next command _ =>
      have hended : Shuns held c es (s.without token) := ⟨h.classes, h.parked, h.outbox⟩
      exact (hended.finish token command fault).publishChange _
  | classConnected d => exact (h.classConnected d).publishChange _
  | radio state => exact (h.radioReported state).publishChange _

/-! ### Runs -/

/-- With an input that does not ask for the class nothing is done for it, and the switch shuns it
still. -/
theorem step (h : Shuns held c es s) (hwants : ¬input.Wants c)
    (hretry : held → ∀ id handle, input ≠ .request id .retryConnect handle) :
    pursuits c (s.emitted input) = [] ∧ ∃ es', Shuns held c es' (s.after input) := by
  by_cases hdrain : input = .drain
  · subst hdrain
    exact ⟨rfl, _, h.classes, h.parked, rfl⟩
  · have hafter : Shuns held c es (s.after input) := by
      cases input with
      | request id request handle =>
        refine h.handle id handle (fun hwant => hwants (Input.wants_request.2 hwant)) ?_
        rintro hheld rfl
        exact hretry hheld id handle rfl
      | signal signal => exact h.hear signal
      | drain => exact absurd rfl hdrain
    refine ⟨?_, es, hafter⟩
    have hout := hafter.outbox
    rw [outbox_after s hdrain, pursuits_append, h.outbox] at hout
    exact List.append_right_eq_self.1 hout

/-- A switch that neither holds the class nor has it in the queue does nothing for it, as long as
nobody asks for it. -/
theorem log (h : Shuns False c es s) (hlater : ∀ input ∈ later, ¬input.Wants c) :
    pursuits c (s.log later) = [] := by
  induction later generalizing s es with
  | nil => rfl
  | cons input later ih =>
    obtain ⟨hfirst, hrest⟩ := List.forall_mem_cons.1 hlater
    obtain ⟨hnone, es', hafter⟩ := h.step hfirst nofun
    rw [log_cons, pursuits_append, hnone, List.nil_append]
    exact ih hafter hrest

end Shuns

end DataPath.Switch
