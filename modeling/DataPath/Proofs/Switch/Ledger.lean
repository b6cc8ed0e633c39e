import DataPath.Proofs.Switch.Sound

/-!
# What a switch issues and what it owes

Two accounts are kept of a switch, arbitrated or not.

* Every command it submits has the next token, so that no token is issued twice.
* Every caller that hands it a request is owed an answer.  Who is owed one stands in a parked
  connect, or in an effect that answers, or asks the arbiter to, and in one place only.

An operation grows the outbox, and `Grows` says what that does to the two accounts, for requests,
signals and everything they are made of.  Signals bring in nobody who is owed anything; the end
of a release moves everybody from the parked connects to the outbox.

The second account outlasts the carrying out of effects, in which commands may be refused and
come back to the switch as signals (`perm_carryOut`).
-/

namespace DataPath

/-- Whether an outcome is a decision about a request, and not the failure to get one. -/
def Outcome.isDecision : Outcome → Bool
  | .failed .noReply | .failed .mismatchedReply => false
  | _ => true

/-- Whether a reply decides about a request. -/
def ReplyBody.isDecision : ReplyBody → Bool
  | .outcome o => o.isDecision
  | _ => false

/-- Whether a request asks for a decision. -/
def Request.wantsDecision (request : Request) : Bool := request.expects = .outcome

namespace Switch

variable {ρ : Type} {s s' s₁ s₂ s₃ : Switch ρ}

/-! ## Who is owed an answer -/

/-- A caller who waits for an answer: how it is reached, the number of its request, and whether it
is to get a decision. -/
structure Owed (ρ : Type) where
  handle : ρ
  id : Nat
  decision : Bool
  deriving DecidableEq, Repr

/-- A request is owed an answer if somebody waits for it. -/
def owed (handle : Option ρ) (id : Nat) (decision : Bool) : List (Owed ρ) :=
  (handle.map fun h => ⟨h, id, decision⟩).toList

/-- The caller of a parked connect. -/
def Parked.owed (p : Parked ρ) : List (Owed ρ) := Switch.owed p.handle p.id true

/-- The callers that a switch keeps waiting. -/
def held (s : Switch ρ) : List (Owed ρ) := s.parked.flatMap Parked.owed

/-- The caller that an effect answers, or for whom it asks the arbiter. -/
def Effect.owed : Effect ρ → List (Owed ρ)
  | .reply h r => [⟨h, r.id, r.body.isDecision⟩]
  | .askOwnership id _ handle => Switch.owed handle id true
  | .submit .. | .notice _ | .event _ => []

/-- The callers that effects answer, or for whom they ask the arbiter. -/
def given (es : List (Effect ρ)) : List (Owed ρ) := es.flatMap Effect.owed

@[simp] theorem given_nil : given ([] : List (Effect ρ)) = [] := rfl

@[simp] theorem given_append (es fs : List (Effect ρ)) : given (es ++ fs) = given es ++ given fs :=
  List.flatMap_append

@[simp] theorem given_cons (e : Effect ρ) (es : List (Effect ρ)) :
    given (e :: es) = e.owed ++ given es := rfl

/-- Emptying the outbox answers everybody in it. -/
theorem perm_drain (s : Switch ρ) : (given s.drain.1).Perm (given s.outbox) := by
  have hperm : s.drain.1.Perm s.outbox := by
    unfold drain
    have h := List.filter_append_perm (fun e : Effect ρ => !e.isAnswer) s.outbox
    simpa using h
  exact hperm.flatMap_right _

/-! ## Growing outboxes -/

theorem numbered_append (k : Nat) (cs ds : List Command) :
    numbered k (cs ++ ds) = numbered k cs ++ numbered (k + cs.length) ds := by
  induction cs generalizing k with
  | nil => rfl
  | cons c cs ih => simp [numbered, ih, Nat.add_assoc, Nat.add_comm 1]

/-- The switch has new effects.  The commands among them have the next tokens, and with callers
who were owed an answer before, and some who are now, it is as the accounts say. -/
structure Growth (s s' : Switch ρ) (due : List (Owed ρ)) (new : List (Effect ρ)) : Prop where
  outbox : s'.outbox = s.outbox ++ new
  tokens : ∃ cs, submissions new = numbered s.nextToken cs ∧
    s'.nextToken = s.nextToken + cs.length
  accounts : (s'.held ++ given new).Perm (s.held ++ due)

/-- The outbox has grown by some effects. -/
def Grows (s s' : Switch ρ) (due : List (Owed ρ)) : Prop := ∃ new, Growth s s' due new

/-- Operations that say nothing. -/
theorem Grows.of_eq (houtbox : s'.outbox = s.outbox) (htoken : s'.nextToken = s.nextToken)
    (hparked : s'.parked = s.parked) : Grows s s' [] := by
  refine ⟨[], by simpa using houtbox, ⟨[], rfl, htoken⟩, ?_⟩
  unfold held
  rw [hparked, given_nil]

theorem Grows.refl (s : Switch ρ) : Grows s s [] := Grows.of_eq rfl rfl rfl

theorem Grows.trans {due due' : List (Owed ρ)} (h : Grows s₁ s₂ due) (h' : Grows s₂ s₃ due') :
    Grows s₁ s₃ (due ++ due') := by
  obtain ⟨es, houtbox, ⟨cs, hcs, htoken⟩, hperm⟩ := h
  obtain ⟨fs, houtbox', ⟨ds, hds, htoken'⟩, hperm'⟩ := h'
  refine ⟨es ++ fs, by rw [houtbox', houtbox, List.append_assoc], ⟨cs ++ ds, ?_, ?_⟩, ?_⟩
  · rw [submissions_append, hcs, hds, htoken, numbered_append]
  · rw [htoken', htoken, List.length_append, Nat.add_assoc]
  · rw [given_append]
    calc (s₃.held ++ (given es ++ given fs)).Perm (s₃.held ++ given fs ++ given es) := by
          rw [List.append_assoc]
          exact List.perm_append_comm.append_left _
      _ |>.Perm (s₂.held ++ due' ++ given es) := hperm'.append_right _
      _ |>.Perm (s₂.held ++ given es ++ due') := by
          rw [List.append_assoc, List.append_assoc]
          exact List.perm_append_comm.append_left _
      _ |>.Perm (s₁.held ++ due ++ due') := hperm.append_right _
      _ = (s₁.held ++ (due ++ due')) := List.append_assoc ..

/-- Who is owed an answer by a later operation may be counted at once. -/
theorem Grows.and_then {due : List (Owed ρ)} (h : Grows s₁ s₂ []) (h' : Grows s₂ s₃ due) :
    Grows s₁ s₃ due := h.trans h'

/-- A change of other records may come first. -/
theorem Grows.after_eq {due : List (Owed ρ)} (h : Grows s₁ s₂ due) (houtbox : s₁.outbox = s.outbox)
    (htoken : s₁.nextToken = s.nextToken) (hparked : s₁.parked = s.parked) : Grows s s₂ due :=
  (Grows.of_eq houtbox htoken hparked).and_then h

theorem Grows.still {due : List (Owed ρ)} (h : Grows s₁ s₂ due) (h' : Grows s₂ s₃ []) :
    Grows s₁ s₃ due := List.append_nil due ▸ h.trans h'

/-! ## Small operations -/

/-- An effect that is no command. -/
theorem grows_emit (s : Switch ρ) {e : Effect ρ} (he : e.submission? = none) :
    Grows s (s.emit e) e.owed := by
  refine ⟨[e], rfl, ⟨[], by simp [he, numbered], rfl⟩, ?_⟩
  rw [given_cons, given_nil, List.append_nil]
  rfl

theorem grows_answer (s : Switch ρ) (handle : Option ρ) (id : Nat) (body : ReplyBody) :
    Grows s (s.answer handle id body) (owed handle id body.isDecision) := by
  cases handle with
  | none => exact Grows.refl s
  | some h => exact grows_emit s rfl

theorem grows_submit (s : Switch ρ) (c : Command) : Grows s (s.submit c) [] := by
  refine ⟨[.submit s.nextToken c], rfl, ⟨[c], rfl, rfl⟩, ?_⟩
  rw [given_cons, given_nil]
  exact List.Perm.refl _

theorem grows_enter (s : Switch ρ) (p : Phase) : Grows s (s.enter p) [] := by
  unfold enter
  split
  · exact Grows.refl s
  · exact (grows_emit { s with phase := p }
      (e := .event (.phaseChanged s.tenant s.phase p)) rfl).after_eq rfl rfl rfl

theorem grows_publishChange (s : Switch ρ) (before : Snapshot) :
    Grows s (s.publishChange before) [] := by
  unfold publishChange
  split
  · exact Grows.refl s
  · exact grows_emit s rfl

theorem grows_beginRelease (s : Switch ρ) : Grows s s.beginRelease [] := by
  have hrelease := (grows_enter { s.submit .forceIdle with releaseToken := some s.nextToken }
    .releasing).after_eq (s := s.submit .forceIdle) rfl rfl rfl
  exact (grows_submit s .forceIdle).and_then hrelease

theorem grows_track (s : Switch ρ) (c : DataClass) : Grows s (s.track c) [] :=
  (grows_submit { s with classes := s.classes.insert c } (.enable c)).after_eq rfl rfl rfl

theorem grows_settle (s : Switch ρ) : Grows s s.settle [] := by
  unfold Switch.settle
  split
  · exact grows_beginRelease s
  · split
    · exact grows_enter s _
    · exact Grows.refl s

theorem grows_foldl_retry (s : Switch ρ) (cs : List DataClass) : Grows s (cs.foldl retry s) [] := by
  induction cs generalizing s with
  | nil => exact Grows.refl s
  | cons c cs ih =>
    refine Grows.and_then ?_ (ih (s.retry c))
    unfold retry
    split
    · exact Grows.refl s
    · exact grows_submit s _

/-! ## Requests -/

/-- A connect is answered, parked or passed on. -/
theorem grows_connect (s : Switch ρ) (id : Nat) (c : DataClass) (handle : Option ρ)
    (grant : Option Grant) : Grows s (s.connect id c handle grant) (owed handle id true) := by
  unfold connect
  split
  · exact grows_answer s handle id _
  · split
    · refine ⟨[], by simp, ⟨[], rfl, rfl⟩, ?_⟩
      simp [held, Parked.owed]
    · split
      · exact grows_emit s rfl
      · exact ((grows_track s c).and_then (grows_enter _ _)).and_then (grows_answer _ handle id _)
    all_goals
      split
      · exact grows_answer s handle id _
      · split
        · exact grows_answer s handle id _
        · exact (grows_track s c).and_then (grows_answer _ handle id _)

theorem grows_disconnect (s : Switch ρ) (c : DataClass) : Grows s (s.disconnect c).1 [] := by
  unfold disconnect
  split
  · have hsubmit := (grows_submit (s.untrack c) (.disable c)).after_eq (s := s) rfl rfl rfl
    exact hsubmit.and_then (grows_settle _)
  · exact Grows.refl s

theorem grows_retryConnect (s : Switch ρ) : Grows s s.retryConnect.1 [] := by
  unfold retryConnect
  split
  · exact Grows.refl s
  · split
    · exact Grows.refl s
    · exact grows_foldl_retry s _

theorem grows_cleanupAll (s : Switch ρ) : Grows s s.cleanupAll.1 [] := by
  unfold cleanupAll
  split
  · exact grows_submit s _
  · exact grows_beginRelease s
  · exact grows_beginRelease s
  · exact Grows.refl s

/-- The outcomes that a switch gives of its own are decisions. -/
theorem isDecision_retryConnect (s : Switch ρ) : s.retryConnect.2.isDecision = true := by
  unfold retryConnect
  split
  · rfl
  · split <;> rfl

theorem isDecision_disconnect (s : Switch ρ) (c : DataClass) :
    (s.disconnect c).2.isDecision = true := by
  unfold disconnect
  split <;> rfl

theorem isDecision_cleanupAll (s : Switch ρ) : s.cleanupAll.2.isDecision = true := by
  unfold cleanupAll
  split <;> rfl

/-- Whoever waits for a request is owed an answer from then on. -/
theorem grows_handle (s : Switch ρ) (id : Nat) (request : Request) (handle : Option ρ) :
    Grows s (s.handle id request handle) (owed handle id request.wantsDecision) := by
  refine Grows.still ?_ (grows_publishChange _ _)
  cases request with
  | connect c => exact grows_connect s id c handle none
  | acquire c grant => exact grows_connect s id c handle (some grant)
  | disconnect c =>
    have h := grows_answer (s.disconnect c).1 handle id (.outcome (s.disconnect c).2)
    rw [ReplyBody.isDecision, isDecision_disconnect] at h
    exact (grows_disconnect s c).and_then h
  | retryConnect =>
    have h := grows_answer s.retryConnect.1 handle id (.outcome s.retryConnect.2)
    rw [ReplyBody.isDecision, isDecision_retryConnect] at h
    exact (grows_retryConnect s).and_then h
  | cleanupAll =>
    have h := grows_answer s.cleanupAll.1 handle id (.outcome s.cleanupAll.2)
    rw [ReplyBody.isDecision, isDecision_cleanupAll] at h
    exact (grows_cleanupAll s).and_then h
  | isIdle | isIdleOrReleasing | snapshot => exact grows_answer s handle id _

/-! ## Signals -/

/-- Every connect that is tried again is owed an answer once more. -/
theorem grows_foldl_replay (s : Switch ρ) (ps : List (Parked ρ)) :
    Grows s (ps.foldl replay s) (ps.flatMap Parked.owed) := by
  induction ps generalizing s with
  | nil => exact Grows.refl s
  | cons p ps ih =>
    have hreplay : Grows s (s.replay p) p.owed :=
      (grows_emit s rfl).and_then (grows_connect _ p.id p.dataClass p.handle none)
    exact hreplay.trans (ih _)

/-- At the end of a release everybody parked is tried again, and nobody is forgotten. -/
theorem grows_completeRelease (s : Switch ρ) : Grows s s.completeRelease [] := by
  have hidle : Grows { s with releaseToken := none, classes := ∅, connected := ∅, parked := [] }
      s.completeRelease s.held :=
    ((grows_enter _ _).and_then (grows_emit _ rfl)).and_then (grows_foldl_replay _ _)
  obtain ⟨new, houtbox, htokens, hperm⟩ := hidle
  refine ⟨new, houtbox, htokens, hperm.trans ?_⟩
  rw [List.append_nil]
  exact List.Perm.refl _

theorem grows_finish (s : Switch ρ) (token : Nat) (command : Command) (fault : Option ModemFault) :
    Grows s (s.finish token command fault) [] := by
  cases command with
  | enable c =>
    cases fault with
    | none => exact Grows.refl s
    | some f =>
      unfold finish
      simp only
      have hfailed : Grows s ((s.untrack c).emit
          (.event (.requestFailed s.tenant (some c) (.transport f)))) [] :=
        (grows_emit (s.untrack c)
          (e := .event (.requestFailed s.tenant (some c) (.transport f))) rfl).after_eq rfl rfl rfl
      split
      · exact hfailed.and_then (grows_settle _)
      · exact hfailed
  | disable c =>
    cases fault with
    | none => exact Grows.refl s
    | some f => exact grows_emit s rfl
  | forceIdle =>
    unfold finish
    simp only
    split
    · exact grows_completeRelease s
    · exact Grows.refl s

theorem grows_classConnected (s : Switch ρ) (c : DataClass) : Grows s (s.classConnected c) [] := by
  unfold classConnected
  split
  · split
    · exact grows_enter s _
    · have hconnected := (grows_emit { s with connected := s.connected.insert c }
        (e := .event (.classConnected s.tenant c)) rfl).after_eq (s := s) rfl rfl rfl
      exact hconnected.and_then (grows_enter _ _)
  · exact Grows.refl s

theorem grows_radioReported (s : Switch ρ) (radio : Radio) :
    Grows s (s.radioReported radio) [] := by
  unfold radioReported
  split
  · exact Grows.refl s
  · have hnotice := (grows_emit { s with radio := radio }
      (e := .notice (.radioChanged s.tenant s.radio radio)) rfl).after_eq (s := s) rfl rfl rfl
    have htold := hnotice.and_then (grows_emit _
      (e := .event (.radioChanged s.tenant s.radio radio)) rfl)
    simp only
    split
    · exact htold.and_then (grows_beginRelease _)
    · exact htold

/-- A signal brings in nobody who is owed an answer. -/
theorem grows_hear (s : Switch ρ) (signal : Signal) : Grows s (s.hear signal) [] := by
  cases signal with
  | completed token fault =>
    unfold Switch.hear
    simp only
    split
    · exact Grows.refl s
    · next command _ =>
      have hended := (grows_finish
        { s with inflight := s.inflight.filter fun entry => entry.1 ≠ token } token command
        fault).after_eq (s := s) rfl rfl rfl
      exact hended.and_then (grows_publishChange _ _)
  | classConnected c => exact (grows_classConnected s c).and_then (grows_publishChange _ _)
  | radio state => exact (grows_radioReported s state).and_then (grows_publishChange _ _)

/-! ## Carrying out effects -/

/-- Everybody who is owed an answer stands in a parked connect or in the outbox. -/
def accounts (s : Switch ρ) : List (Owed ρ) := s.held ++ given s.outbox

theorem Grows.perm_accounts {due : List (Owed ρ)} (h : Grows s s' due) :
    s'.accounts.Perm (s.accounts ++ due) := by
  obtain ⟨new, houtbox, -, hperm⟩ := h
  unfold accounts
  rw [houtbox, given_append]
  calc (s'.held ++ (given s.outbox ++ given new)).Perm (s'.held ++ given new ++ given s.outbox) := by
        rw [List.append_assoc]
        exact List.perm_append_comm.append_left _
    _ |>.Perm (s.held ++ due ++ given s.outbox) := hperm.append_right _
    _ |>.Perm (s.held ++ given s.outbox ++ due) := by
        rw [List.append_assoc, List.append_assoc]
        exact List.perm_append_comm.append_left _

/-- Commands that are refused change nobody's account. -/
theorem perm_foldl_attempt (accepts : Nat → Bool) (s : Switch ρ) (es : List (Effect ρ)) :
    (es.foldl (attempt accepts) s).accounts.Perm s.accounts := by
  induction es generalizing s with
  | nil => exact List.Perm.refl _
  | cons e es ih =>
    refine (ih _).trans ?_
    cases e with
    | submit token command =>
      change (if accepts token then s else s.hear (.completed token (some .closed))).accounts.Perm _
      split
      · exact List.Perm.refl _
      · have h := (grows_hear s (.completed token (some .closed))).perm_accounts
        rwa [List.append_nil] at h
    | notice | event | reply | askOwnership => exact List.Perm.refl _

theorem perm_carryOutFor (accepts : Nat → Bool) (rounds : Nat) (s : Switch ρ) :
    ((s.carryOutFor accepts rounds).1.accounts ++ given (s.carryOutFor accepts rounds).2).Perm
      s.accounts := by
  induction rounds generalizing s with
  | zero =>
    rw [carryOutFor, given_nil, List.append_nil]
  | succ rounds ih =>
    have hrest : (s.drain.2.accounts ++ given s.drain.1).Perm s.accounts := by
      have heq : s.drain.2.accounts = s.held := List.append_nil _
      rw [heq]
      exact (perm_drain s).append_left _
    unfold carryOutFor
    simp only
    split
    · next hnil =>
      rw [List.isEmpty_iff.1 hnil] at hrest
      exact hrest
    · -- What is carried out in this round comes first, and the accounts of the next one follow.
      rw [given_append]
      have hnext := (ih (s.drain.1.foldl (attempt accepts) s.drain.2)).trans
        (perm_foldl_attempt accepts s.drain.2 s.drain.1)
      refine List.Perm.trans ?_ hrest
      refine List.Perm.trans ?_ (hnext.append_right _)
      rw [List.append_assoc]
      exact List.perm_append_comm.append_left _

/-- Whoever was owed an answer before effects are carried out is answered by them, or still owed
an answer. -/
theorem perm_carryOut (accepts : Nat → Bool) (s : Switch ρ) :
    ((s.carryOut accepts).1.accounts ++ given (s.carryOut accepts).2).Perm s.accounts :=
  perm_carryOutFor accepts maxRounds s

end Switch

end DataPath
