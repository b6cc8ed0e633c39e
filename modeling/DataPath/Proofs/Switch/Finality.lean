import DataPath.Proofs.Switch.Barrier
import DataPath.Proofs.Switch.Holding
import DataPath.Proofs.Switch.Pursuit
import DataPath.Proofs.Switch.Retry

/-!
# A class that was disconnected

A disconnect makes a switch let go of a class, and then the switch shuns the class until somebody
asks for it again.  But it does not empty the queue.  During a release nothing is owned, so that a
disconnect is answered at once and changes nothing, and what is parked is tried again as it was
asked.  A connect of the class that was parked before comes back after the disconnect
(`revived_after_disconnect`).

`final_of_run` says what can come of such connects.  Nothing is done for them before the end of the
release.  Then each of them is tried once (`Revives`): an arbitrated switch asks for each, a
standalone one submits one command for all, and when the radio is off they are refused.  After that
an arbitrated switch shuns the class.  A standalone one holds it again, and tries another time only
when it is told to retry, by one command for each retry at most (`pursuits_retry`).
-/

namespace DataPath.Switch

variable {ρ : Type} {s : Switch ρ} {c : DataClass} {es : List (Effect ρ)} {p : Parked ρ}
  {ps : List (Parked ρ)} {input : Input ρ} {later rest : List (Input ρ)} {k : Nat}

/-! ## The disconnect -/

/-- A disconnect is answered, by what the switch holds, and nobody else is. -/
theorem answers_disconnect (s : Switch ρ) (id : Nat) (c : DataClass) (handle : Option ρ) :
    answers (s.emitted (.request id (.disconnect c) handle)) =
      replyTo handle id (.outcome (if s.Holds c then .started else .alreadyInactive)) := by
  obtain ⟨new, hadds, hquiet, -⟩ := s.disconnect_spec c
  have hanswered := hadds.trans (adds_answer (s.disconnect c).1 handle id (.outcome (s.disconnect c).2))
  have hemitted : s.emitted (.request id (.disconnect c) handle) = _ :=
    emitted_eq (hanswered.trans (adds_publishChange _ s.snapshot)).outbox
  rw [hemitted, answers_append, answers_append, hquiet.2, answers_replyTo, answers_changeNotice,
    s.disconnect_outcome c, List.nil_append, List.append_nil]

/-- Nothing is pursued by a request that is only answered. -/
theorem pursuits_of_serve {id : Nat} {request : Request} {handle : Option ρ} {body : ReplyBody}
    (hserve : s.serve id request handle = s.answer handle id body) :
    pursuits c (s.emitted (.request id request handle)) = [] := by
  have hemitted : s.emitted (.request id request handle) =
      replyTo handle id body ++ changeNotice s.snapshot s.snapshot := by
    refine emitted_eq ?_
    show ((s.serve id request handle).publishChange s.snapshot).outbox = _
    rw [hserve, publishChange_eq, answer_eq, List.append_assoc]
    rfl
  rw [hemitted, pursuits_append, pursuits_replyTo, pursuits_changeNotice, List.nil_append]

/-- The class is not pursued by it. -/
theorem pursuits_disconnect (h : s.Sound) (id : Nat) (handle : Option ρ) :
    pursuits c (s.emitted (.request id (.disconnect c) handle)) = [] := by
  by_cases hc : s.Holds c
  · have hnobody : s.parked = [] := h.tracks.parked_eq_nil (Phase.isLive_iff.1 hc.1).2
    have hshuns : Shuns True c (pursuits c s.outbox) s :=
      ⟨fun _ => .inr trivial, by simp [hnobody], rfl⟩
    have hwants : ¬(Input.request id (.disconnect c) handle).Wants c := by
      rw [Input.wants_request]
      nofun
    exact (hshuns.step hwants fun _ _ _ => nofun).1
  · have hsame : s.disconnect c = (s, .alreadyInactive) := if_neg hc
    have hserve : s.serve id (.disconnect c) handle =
        s.answer handle id (.outcome .alreadyInactive) := by
      show (s.disconnect c).1.answer handle id (.outcome (s.disconnect c).2) = _
      rw [hsame]
    exact pursuits_of_serve hserve

/-- A disconnect parks nobody and frees nobody. -/
theorem parked_disconnect (h : s.Sound) (id : Nat) (handle : Option ρ) :
    (s.after (.request id (.disconnect c) handle)).parked = s.parked := by
  rw [parked_after h, admitted_of_connect?_eq_none rfl, List.append_nil]
  rfl

/-- After it the class is not held. -/
theorem releasing_of_mem_disconnect (h : s.Sound) (id : Nat) (handle : Option ρ)
    (hc : c ∈ (s.after (.request id (.disconnect c) handle)).classes) :
    (s.after (.request id (.disconnect c) handle)).phase = .releasing := by
  have hafter : s.after (.request id (.disconnect c) handle) =
      ((s.disconnect c).1.answer handle id (.outcome (s.disconnect c).2)).publishChange
        s.snapshot := rfl
  rw [hafter, publishChange_eq, answer_eq] at hc ⊢
  by_cases hheld : s.Holds c
  · have hgone : c ∉ ((s.untrack c).submit (.disable c)).settle.classes := by
      have herased : c ∉ s.classes.erase c := fun hmem => (ClassSet.mem_erase.1 hmem).1 rfl
      rcases settle_cases ((s.untrack c).submit (.disable c)) with ⟨-, heq⟩ | ⟨-, heq⟩ | ⟨-, heq⟩
      · rw [heq, beginRelease_eq]
        exact herased
      · rw [heq, enter_eq]
        exact herased
      · rw [heq]
        exact herased
    have hdropped : s.disconnect c = (((s.untrack c).submit (.disable c)).settle, .started) :=
      if_pos hheld
    rw [hdropped] at hc
    exact absurd hc hgone
  · have hsame : s.disconnect c = (s, .alreadyInactive) := if_neg hheld
    rw [hsame] at hc ⊢
    show s.phase = .releasing
    cases hp : s.phase with
    | idle => exact absurd hc (h.tracks.idle hp c)
    | acquiring => exact absurd ⟨by rw [hp]; rfl, hc⟩ hheld
    | active => exact absurd ⟨by rw [hp]; rfl, hc⟩ hheld
    | releasing => rfl

/-! ## Trying again -/

/-- Commands for other classes are not for this one. -/
theorem pursuits_numbered_of_not_mem {cs : List DataClass} (hc : c ∉ cs) (n : Nat) :
    pursuits c ((numbered n (cs.map .enable)).map fun e => (.submit e.1 e.2 : Effect ρ)) = [] := by
  induction cs generalizing n with
  | nil => rfl
  | cons d cs ih =>
    obtain ⟨hne, hc⟩ := not_or.1 (mt List.mem_cons.2 hc)
    have hother : Effect.pursues c (.submit n (.enable d) : Effect ρ) = false :=
      decide_eq_false (Ne.symm hne)
    rw [List.map_cons, numbered, List.map_cons, pursuits_cons, hother, ih hc]
    rfl

/-- One command is for the class, if it is listed, and listed once. -/
theorem exists_pursuits_numbered {cs : List DataClass} (hcs : cs.Nodup) (hc : c ∈ cs) (n : Nat) :
    ∃ k, pursuits c ((numbered n (cs.map .enable)).map fun e => (.submit e.1 e.2 : Effect ρ)) =
      [.submit k (.enable c)] := by
  induction cs generalizing n with
  | nil => cases hc
  | cons d cs ih =>
    obtain ⟨hd, hcs⟩ := List.nodup_cons.1 hcs
    rw [List.map_cons, numbered, List.map_cons, pursuits_cons]
    by_cases heq : d = c
    · subst heq
      refine ⟨n, ?_⟩
      rw [pursuits_numbered_of_not_mem hd]
      simp [Effect.pursues]
    · obtain ⟨k, hk⟩ := ih hcs ((List.mem_cons.1 hc).resolve_left (Ne.symm heq)) (n + 1)
      refine ⟨k, ?_⟩
      rw [hk]
      simp [Effect.pursues, heq]

/-- A retry pursues a class by one command at most. -/
theorem pursuits_retry (s : Switch ρ) (c : DataClass) (id : Nat) (handle : Option ρ) :
    pursuits c (s.emitted (.request id .retryConnect handle)) = [] ∨
      ∃ k, pursuits c (s.emitted (.request id .retryConnect handle)) = [.submit k (.enable c)] := by
  by_cases hlive : s.phase.isLive = true
  · rw [emitted_retry hlive, pursuits_append, pursuits_replyTo, List.append_nil]
    by_cases hc : c ∈ s.lacking
    · exact .inr (exists_pursuits_numbered s.nodup_lacking hc s.nextToken)
    · exact .inl (pursuits_numbered_of_not_mem hc s.nextToken)
  · have hsame : s.retryConnect = (s, .alreadyInactive) := if_pos hlive
    have hserve : s.serve id .retryConnect handle =
        s.answer handle id (.outcome .alreadyInactive) := by
      show s.retryConnect.1.answer handle id (.outcome s.retryConnect.2) = _
      rw [hsame]
    exact .inl (pursuits_of_serve hserve)

/-- The question for the arbiter that a parked connect becomes. -/
def Parked.question (p : Parked ρ) : Effect ρ := .askOwnership p.id p.dataClass p.handle

/-- An idle arbitrated switch asks for each of the class, unless the radio is off. -/
theorem pursuits_replayed (t : Tenant) (radio : Radio) (ps : List (Parked ρ)) :
    pursuits c (ps.flatMap fun p => (replayed t radio p).1 :: (replayed t radio p).2) =
      if radio.isOff then [] else (ps.filter fun p => p.dataClass = c).map Parked.question := by
  induction ps with
  | nil => simp
  | cons p ps ih =>
    have hfirst : pursuits c ((replayed t radio p).1 :: (replayed t radio p).2) =
        if radio.isOff then [] else ([p].filter fun p => p.dataClass = c).map Parked.question := by
      have hevent : pursuits c ((replayed t radio p).1 :: (replayed t radio p).2) =
          pursuits c (replayed t radio p).2 := rfl
      rw [hevent]
      by_cases hoff : radio.isOff = true
      · simp [replayed, hoff]
      · by_cases hc : p.dataClass = c
        · simp [replayed, hoff, hc, Effect.pursues, Parked.question]
        · simp [replayed, hoff, hc, Effect.pursues]
    rw [List.flatMap_cons, pursuits_append, hfirst, ih]
    by_cases hoff : radio.isOff = true
    · simp [hoff]
    · by_cases hc : p.dataClass = c
      · simp [hoff, hc]
      · simp [hoff, hc]

/-- With the radio off every connect is refused. -/
theorem pursuits_foldl_replay_of_isOff (hoff : s.radio.isOff = true) :
    pursuits c (ps.foldl replay s).outbox = pursuits c s.outbox := by
  induction ps generalizing s with
  | nil => rfl
  | cons p ps ih =>
    have hrefused : s.replay p = (s.emit (.event (.deferredReplayed s.tenant p.dataClass))).answer
        p.handle p.id (.outcome (.failed (.radioOff s.tenant))) := if_pos hoff
    have hstill : (s.replay p).radio.isOff = true := by
      rw [hrefused, answer_eq]
      exact hoff
    rw [List.foldl_cons, ih hstill, hrefused, answer_eq]
    simp [emit, Effect.pursues]

/-- A class that is held is not asked for again. -/
theorem pursuits_foldl_replay_of_holds (hc : s.Holds c) :
    pursuits c (ps.foldl replay s).outbox = pursuits c s.outbox := by
  induction ps generalizing s with
  | nil => rfl
  | cons p ps ih =>
    have hstep : (s.replay p).Holds c ∧ pursuits c (s.replay p).outbox = pursuits c s.outbox := by
      obtain ⟨hlive, hmem⟩ := hc
      have hne := Phase.isLive_iff.1 hlive
      rcases connect_rules (s.emit (.event (.deferredReplayed s.tenant p.dataClass))) p.id
        p.dataClass p.handle none with ⟨o, heq⟩ | ⟨hp, -⟩ | ⟨hp, -⟩ | ⟨hp, -⟩ | ⟨-, hnew, heq⟩
      · rw [replay, heq, answer_eq]
        exact ⟨⟨hlive, hmem⟩, by simp [emit, Effect.pursues]⟩
      · exact absurd hp hne.2
      · exact absurd hp hne.1
      · exact absurd hp hne.1
      · have hother : p.dataClass ≠ c := fun heq => hnew (heq ▸ hmem)
        rw [replay, heq, answer_eq]
        refine ⟨⟨hlive, ClassSet.mem_insert.2 (.inr hmem)⟩, ?_⟩
        simp [track, submit, emit, Effect.pursues, hother]
    rw [List.foldl_cons, ih hstep.1, hstep.2]

/-- A standalone switch could bring up a class at once, has nothing of it, and has pursued it so far
by these effects. -/
structure Lacks (c : DataClass) (es : List (Effect ρ)) (s : Switch ρ) : Prop where
  phase : s.phase ≠ .releasing
  radio : s.radio.isOff = false
  arbitrated : s.arbitrated = false
  classes : c ∉ s.classes
  connected : c ∉ s.connected
  outbox : pursuits c s.outbox = es

/-- A connect of another class makes no difference. -/
theorem Lacks.replay (h : Lacks c es s) (hp : p.dataClass ≠ c) : Lacks c es (s.replay p) := by
  have hclasses : c ∉ s.classes.insert p.dataClass := by
    intro hmem
    rcases ClassSet.mem_insert.1 hmem with heq | hold
    · exact hp heq.symm
    · exact h.classes hold
  rcases connect_rules (s.emit (.event (.deferredReplayed s.tenant p.dataClass))) p.id
    p.dataClass p.handle none with ⟨o, heq⟩ | ⟨hrel, -⟩ | ⟨-, -, heq⟩ | ⟨-, -, -, heq⟩ | ⟨-, -, heq⟩
  · rw [Switch.replay, heq, answer_eq]
    exact ⟨h.phase, h.radio, h.arbitrated, h.classes, h.connected,
      by simp [emit, Effect.pursues, h.outbox]⟩
  · exact absurd hrel h.phase
  · rw [Switch.replay, heq]
    exact ⟨h.phase, h.radio, h.arbitrated, h.classes, h.connected,
      by simp [emit, Effect.pursues, hp, h.outbox]⟩
  · rw [Switch.replay, heq, answer_eq, enter_eq]
    have hacquiring : Phase.acquiring ≠ .releasing := by decide
    refine ⟨hacquiring, h.radio, h.arbitrated, hclasses, h.connected, ?_⟩
    simp [track, submit, emit, Effect.pursues, hp, h.outbox]
  · rw [Switch.replay, heq, answer_eq]
    refine ⟨h.phase, h.radio, h.arbitrated, hclasses, h.connected, ?_⟩
    simp [track, submit, emit, Effect.pursues, hp, h.outbox]

/-- A connect of the class brings it up, and then it is held. -/
theorem Lacks.tries (h : Lacks c es s) (hp : p.dataClass = c) :
    (s.replay p).Holds c ∧
      pursuits c (s.replay p).outbox = es ++ [.submit s.nextToken (.enable c)] := by
  obtain rfl := hp
  -- A live switch stays in its phase, an idle one is acquiring then.
  obtain ⟨q, hq, heq⟩ : ∃ q : Phase, q.isLive = true ∧ s.replay p =
      (((s.emit (.event (.deferredReplayed s.tenant p.dataClass))).track p.dataClass).enter
        q).answer p.handle p.id (.outcome .started) := by
    cases hphase : s.phase with
    | idle =>
      refine ⟨.acquiring, rfl, ?_⟩
      simp [Switch.replay, connect, emit, hphase, h.radio, h.arbitrated]
    | acquiring =>
      refine ⟨.acquiring, rfl, ?_⟩
      simp [Switch.replay, connect, emit, hphase, h.radio, h.classes, h.connected, enter, track,
        submit]
    | active =>
      refine ⟨.active, rfl, ?_⟩
      simp [Switch.replay, connect, emit, hphase, h.radio, h.classes, h.connected, enter, track,
        submit]
    | releasing => exact absurd hphase h.phase
  rw [heq, answer_eq, enter_eq]
  refine ⟨⟨hq, ClassSet.mem_insert.2 (.inl rfl)⟩, ?_⟩
  simp [track, submit, emit, Effect.pursues, h.outbox]

/-- Of many connects, the first one of the class brings it up, and the others find it there. -/
theorem Lacks.foldl_replay (h : Lacks c es s) (hsome : ∃ p ∈ ps, p.dataClass = c) :
    ∃ k, pursuits c (ps.foldl Switch.replay s).outbox = es ++ [.submit k (.enable c)] := by
  induction ps generalizing s with
  | nil =>
    obtain ⟨p, hp, -⟩ := hsome
    cases hp
  | cons p ps ih =>
    rw [List.foldl_cons]
    by_cases hp : p.dataClass = c
    · obtain ⟨hheld, hout⟩ := h.tries hp
      refine ⟨s.nextToken, ?_⟩
      rw [pursuits_foldl_replay_of_holds hheld, hout]
    · obtain ⟨p', hmem, hp'⟩ := hsome
      rcases List.mem_cons.1 hmem with rfl | hmem
      · exact absurd hp' hp
      · exact ih (h.replay hp) ⟨p', hmem, hp'⟩

/-! ## The end of the release -/

/-- What is done for a class when the release is over, and connects wait for it. -/
structure Revives (s : Switch ρ) (c : DataClass) (waiting : List (Parked ρ)) (input : Input ρ) :
    Prop where
  /-- Nothing, if the radio is off. -/
  refused : s.radio.isOff = true → pursuits c (s.emitted input) = []
  /-- An arbitrated switch asks once for each connect of the class, in their order. -/
  asked : s.radio.isOff = false → s.arbitrated = true →
    pursuits c (s.emitted input) = (waiting.filter fun p => p.dataClass = c).map Parked.question
  /-- A standalone switch submits one command, if there is a connect of the class. -/
  tried : s.radio.isOff = false → s.arbitrated = false → (∃ p ∈ waiting, p.dataClass = c) →
    ∃ k, pursuits c (s.emitted input) = [.submit k (.enable c)]

theorem pursuits_emitted_of_ends (h : s.Tokens) (hk : s.releaseToken = some k)
    (fault : Option ModemFault)
    (hes : pursuits c (s.parked.foldl replay (s.without k).atIdle).outbox =
      pursuits c (s.without k).atIdle.outbox ++ es) :
    pursuits c (s.emitted (.signal (.completed k fault))) = es := by
  have hsignal : Input.signal (.completed k fault) ≠ (.drain : Input ρ) := nofun
  have hout := outbox_after s hsignal
  have hidle : pursuits c (s.without k).atIdle.outbox = pursuits c s.outbox := by
    simp [atIdle, without, Effect.pursues]
  have hpursuits := congrArg (pursuits c) hout
  rw [Switch.after, hear_of_ends h hk, publishChange_eq, pursuits_append, pursuits_changeNotice,
    List.append_nil, hes, hidle, pursuits_append] at hpursuits
  exact (List.append_cancel_left hpursuits).symm

/-- When a release is over, everything in the queue is tried again. -/
theorem Sound.revives (h : s.Sound) (hk : s.releaseToken = some k) (fault : Option ModemFault) :
    s.Revives c s.parked (.signal (.completed k fault)) := by
  constructor
  · intro hoff
    refine pursuits_emitted_of_ends h.tokens hk fault ?_
    rw [List.append_nil]
    exact pursuits_foldl_replay_of_isOff hoff
  · intro hon harb
    refine pursuits_emitted_of_ends h.tokens hk fault ?_
    rw [foldl_replay_eq (s.without k).atIdle s.parked rfl harb, pursuits_append, pursuits_replayed]
    exact congrArg (_ ++ ·) (if_neg (Bool.eq_false_iff.1 hon))
  · intro hon harb hsome
    have hlacks : Lacks c (pursuits c (s.without k).atIdle.outbox) (s.without k).atIdle :=
      ⟨nofun, hon, harb, ClassSet.not_mem_empty c, ClassSet.not_mem_empty c, rfl⟩
    obtain ⟨j, hj⟩ := hlacks.foldl_replay hsome
    exact ⟨j, pursuits_emitted_of_ends h.tokens hk fault hj⟩

/-! ## What is left of a class -/

/-- Who is in the queue after an input that does not ask for the class was there, or is not of the
class. -/
theorem parked_after_avoids (h : s.Sound) (hqueue : ∀ p ∈ s.parked, p.dataClass ≠ c)
    (hwants : ¬input.Wants c) : ∀ p ∈ (s.after input).parked, p.dataClass ≠ c := by
  rw [parked_after h]
  split
  · exact nofun
  · intro p hp
    rcases List.mem_append.1 hp with hold | hnew
    · exact hqueue p hold
    · exact fun hc => hwants ⟨p, connect?_of_mem_admitted hnew, hc⟩

theorem parked_foldl_after_avoids (h : s.Sound) (hqueue : ∀ p ∈ s.parked, p.dataClass ≠ c)
    (hlater : ∀ input ∈ later, ¬input.Wants c) :
    ∀ p ∈ (later.foldl Switch.after s).parked, p.dataClass ≠ c := by
  induction later generalizing s with
  | nil => exact hqueue
  | cons input later ih =>
    obtain ⟨hfirst, hrest⟩ := List.forall_mem_cons.1 hlater
    exact ih (h.after input) (parked_after_avoids h hqueue hfirst) hrest

theorem arbitrated_foldl_after (h : s.Sound) (inputs : List (Input ρ)) :
    (inputs.foldl Switch.after s).arbitrated = s.arbitrated := by
  induction inputs generalizing s with
  | nil => rfl
  | cons input inputs ih =>
    obtain ⟨es, hpassage⟩ := exists_passage h.tokens input
    exact (ih (h.after input)).trans hpassage.arbitrated

/-- The connects that join the queue of a releasing switch are asked for. -/
theorem exists_of_mem_along_admitted (hp : p ∈ s.along admitted later) :
    ∃ input ∈ later, input.connect? = some p := by
  induction later generalizing s with
  | nil => cases hp
  | cons input later ih =>
    rcases List.mem_append.1 hp with hfirst | hrest
    · exact ⟨input, List.mem_cons_self, connect?_of_mem_admitted hfirst⟩
    · obtain ⟨input', hmem, hwants⟩ := ih hrest
      exact ⟨input', List.mem_cons_of_mem _ hmem, hwants⟩

/-- When a release is over the class is done with, but for one command when a standalone switch is
told to retry. -/
theorem Sound.rests (h : s.Sound) (hk : s.releaseToken = some k) (fault : Option ModemFault)
    (hrest : ∀ input' ∈ rest ++ [input], ¬input'.Wants c) :
    pursuits c ((rest.foldl Switch.after
        (s.after (.signal (.completed k fault)))).emitted input) = [] ∨
      s.arbitrated = false ∧ (∃ id handle, input = .request id .retryConnect handle) ∧
        ∃ j, pursuits c ((rest.foldl Switch.after
          (s.after (.signal (.completed k fault)))).emitted input) = [.submit j (.enable c)] := by
  have hover := h.confirms hk fault
  by_cases harb : s.arbitrated = true
  · -- Nothing is tracked, as the arbiter has not answered yet.
    have hclasses : (s.after (.signal (.completed k fault))).classes = ∅ := by
      rw [Switch.after, hear_of_ends h.tokens hk, publishChange_eq,
        foldl_replay_eq (s.without k).atIdle s.parked rfl harb]
      rfl
    have hshuns : Shuns False c (pursuits c (s.after (.signal (.completed k fault))).outbox)
        (s.after (.signal (.completed k fault))) := by
      refine ⟨fun hc => ?_, by simp [hover.parked], rfl⟩
      rw [hclasses] at hc
      exact absurd hc (ClassSet.not_mem_empty c)
    have hlog := hshuns.log hrest
    rw [log_append, pursuits_append, log_cons, log_nil, List.append_nil] at hlog
    exact .inl (List.append_eq_nil_iff.1 hlog).2
  · obtain ⟨hbefore, hlast⟩ := List.forall_mem_append.1 hrest
    have hempty : ∀ p ∈ (s.after (.signal (.completed k fault))).parked, p.dataClass ≠ c := by
      simp [hover.parked]
    have hqueue := parked_foldl_after_avoids (h.after _) hempty hbefore
    have hshuns : Shuns True c (pursuits c (rest.foldl Switch.after
        (s.after (.signal (.completed k fault)))).outbox)
        (rest.foldl Switch.after (s.after (.signal (.completed k fault)))) :=
      ⟨fun _ => .inr trivial, hqueue, rfl⟩
    by_cases hretry : ∃ id handle, input = .request id .retryConnect handle
    · obtain ⟨id, handle, rfl⟩ := hretry
      refine (pursuits_retry _ c id handle).imp_right fun hone => ?_
      exact ⟨by simpa using harb, ⟨id, handle, rfl⟩, hone⟩
    · refine .inl (hshuns.step (hlast input (List.mem_singleton_self input)) ?_).1
      exact fun _ id handle heq => hretry ⟨id, handle, heq⟩

/-- What a switch does for a class that it has let go of, with inputs that do not ask for it. -/
structure Final (s : Switch ρ) (c : DataClass) : Prop where
  /-- Nothing, if no connect of the class is parked. -/
  unparked : (∀ p ∈ s.parked, p.dataClass ≠ c) → ∀ later : List (Input ρ),
    (∀ input ∈ later, ¬input.Wants c) → pursuits c (s.log later) = []
  /-- If some are, still nothing before the end of the release. -/
  waits : ∀ (k : Nat) (later : List (Input ρ)), s.releaseToken = some k →
    (∀ fault, .signal (.completed k fault) ∉ later) → pursuits c (s.log later) = []
  /-- With the end of the release these are tried again, and no others of the class. -/
  again : ∀ (k : Nat) (later : List (Input ρ)) (fault : Option ModemFault),
    s.releaseToken = some k → (∀ input ∈ later, ¬input.Wants c) →
    (∀ fault', .signal (.completed k fault') ∉ later) →
    (later.foldl after s).Revives c s.parked (.signal (.completed k fault))
  /-- And after that nothing, but for one command when a standalone switch is told to retry. -/
  rests : ∀ (k : Nat) (later : List (Input ρ)) (fault : Option ModemFault)
    (rest : List (Input ρ)) (input : Input ρ), s.releaseToken = some k →
    (∀ fault', .signal (.completed k fault') ∉ later) →
    (∀ input' ∈ rest ++ [input], ¬input'.Wants c) →
    pursuits c (((later ++ .signal (.completed k fault) :: rest).foldl after s).emitted input) = [] ∨
      s.arbitrated = false ∧ (∃ id handle, input = .request id .retryConnect handle) ∧
        ∃ j, pursuits c (((later ++ .signal (.completed k fault) :: rest).foldl after s).emitted
          input) = [.submit j (.enable c)]

theorem Sound.final (h : s.Sound) (hgone : c ∈ s.classes → s.phase = .releasing) : s.Final c := by
  have hwaits : ∀ {k : Nat} {later : List (Input ρ)}, s.releaseToken = some k →
      (∀ fault, .signal (.completed k fault) ∉ later) → s.Waits later := fun hk hlater =>
    waits_of_forall (h.tokens.releaseToken_eq hk) hk hlater
  constructor
  · intro hqueue later hlater
    have hshuns : Shuns False c (pursuits c s.outbox) s := ⟨fun hc => .inl (hgone hc), hqueue, rfl⟩
    exact hshuns.log hlater
  · intro k later hk hlater
    have hw := hwaits hk hlater
    exact pursuits_eq_nil (by simp [hw.submissions]) fun id handle => hw.not_mem_log id c handle
  · intro k later fault hk hwants hlater
    have hw := hwaits hk hlater
    -- Whoever has joined the queue meanwhile asks for other classes.
    have hqueue : ((later.foldl Switch.after s).parked.filter fun p => p.dataClass = c) =
        s.parked.filter fun p => p.dataClass = c := by
      rw [hw.parked, List.filter_append, List.append_right_eq_self, List.filter_eq_nil_iff]
      intro p hp hc
      obtain ⟨input, hinput, hconnect⟩ := exists_of_mem_along_admitted hp
      exact hwants input hinput ⟨p, hconnect, by simpa using hc⟩
    have hrevives := (h.foldl_after later).revives (c := c) (hw.token.trans hk) fault
    refine ⟨hrevives.refused, fun hon harb => ?_, fun hon harb hsome => ?_⟩
    · rw [hrevives.asked hon harb, hqueue]
    · obtain ⟨p, hp, hc⟩ := hsome
      refine hrevives.tried hon harb ⟨p, ?_, hc⟩
      rw [hw.parked]
      exact List.mem_append_left _ hp
  · intro k later fault rest input hk hlater hrest
    have hw := hwaits hk hlater
    rw [List.foldl_append, List.foldl_cons, ← arbitrated_foldl_after h later]
    exact (h.foldl_after later).rests (hw.token.trans hk) fault hrest

/-- After every run a disconnect is answered and pursues nothing, leaves the queue as it is, and is
final but for the connects of the class that were parked before. -/
theorem final_of_run (tenant : Tenant) (arbitrated : Bool) (inputs : List (Input ρ)) (id : Nat)
    (c : DataClass) (handle : Option ρ) :
    answers ((run tenant arbitrated inputs).emitted (.request id (.disconnect c) handle)) =
        replyTo handle id (.outcome
          (if (run tenant arbitrated inputs).Holds c then .started else .alreadyInactive)) ∧
      pursuits c ((run tenant arbitrated inputs).emitted (.request id (.disconnect c) handle)) = [] ∧
      ((run tenant arbitrated inputs).after (.request id (.disconnect c) handle)).parked =
        (run tenant arbitrated inputs).parked ∧
      ((run tenant arbitrated inputs).after (.request id (.disconnect c) handle)).Final c := by
  have hsound := sound_run tenant arbitrated inputs
  exact ⟨answers_disconnect _ id c handle, pursuits_disconnect hsound id handle,
    parked_disconnect hsound id handle,
    (hsound.after _).final (releasing_of_mem_disconnect hsound id handle)⟩

/-- A connect of a class is parked during a release, and the class is disconnected: there is nothing
to let go of.  Nobody asks for the class again, and still, when the release is over, it is brought
up, or the arbiter is asked for it. -/
theorem revived_after_disconnect :
    let before (first : Request) : List (Input Nat) :=
      [.request 1 first (some 1), .request 2 .cleanupAll (some 2),
        .request 3 (.connect .mms) (some 3)]
    let disconnect : Input Nat := .request 4 (.disconnect .mms) (some 4)
    let later : List (Input Nat) := [.signal (.completed 2 none)]
    let standalone := run ⟨0⟩ false (before (.connect .mms))
    let arbitrated := run ⟨0⟩ true (before (.acquire .mms ⟨1⟩))
    (∀ input ∈ later, ¬input.Wants .mms) ∧
      (standalone.emitted disconnect = [.reply 4 ⟨4, .outcome .alreadyInactive⟩] ∧
        pursuits .mms ((standalone.after disconnect).log later) = [.submit 3 (.enable .mms)]) ∧
      arbitrated.emitted disconnect = [.reply 4 ⟨4, .outcome .alreadyInactive⟩] ∧
        pursuits .mms ((arbitrated.after disconnect).log later) = [.askOwnership 3 .mms (some 3)] := by
  refine ⟨?_, by decide +kernel⟩
  simp [Input.Wants, Input.connect?]

end DataPath.Switch
