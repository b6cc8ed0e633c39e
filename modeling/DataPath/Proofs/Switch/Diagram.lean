import DataPath.Proofs.Switch.Release

/-!
# The diagram of a switch

A switch walks along six arrows (`Phase.Leads`).  Every change of phase is an event, and the events
of a run make a path from idle to the present phase (`Path`).

Idle is entered at the end of a release and at no other time.  The arrow and the notice that tells
of it come together, before anybody parked is tried again, so there is one notice for each time that
idle is entered (`entrance`).

An arbitrated switch leaves idle with a grant only.  Nor does it ask the modem for a class before
that: when such a command goes out while the switch is idle, it goes out on a request that carries a
grant.  A connect that was parked with a grant is tried again without it, so the end of a release is
no exception.

Between the entrances to idle, what an input makes a switch emit is a `Walk`: it follows the arrows,
does not enter idle, and leaves idle only if the input is bold enough.  That is proved for each
rule, and everything else is read off it.
-/

namespace DataPath

/-- The arrows of the diagram. -/
inductive Phase.Leads : Phase → Phase → Prop where
  /-- A first class is wanted. -/
  | acquire : Leads .idle .acquiring
  /-- A class is connected. -/
  | connect : Leads .acquiring .active
  /-- The last connected class is gone, and others are wanted. -/
  | fallBack : Leads .active .acquiring
  /-- Everything is let go of before anything was connected. -/
  | giveUp : Leads .acquiring .releasing
  /-- Everything is let go of. -/
  | letGo : Leads .active .releasing
  /-- The modem has confirmed idle. -/
  | confirm : Leads .releasing .idle

theorem Phase.leads_releasing {p : Phase} (h : p.isLive = true) : p.Leads .releasing := by
  cases p with
  | idle | releasing => cases h
  | acquiring => exact .giveUp
  | active => exact .letGo

/-- Between acquiring and active there is an arrow either way. -/
theorem Phase.eq_or_leads_of_isLive {p q : Phase} (hp : p.isLive = true) (hq : q.isLive = true) :
    p = q ∨ p.Leads q := by
  cases p with
  | idle | releasing => cases hp
  | acquiring =>
    cases q with
    | idle | releasing => cases hq
    | acquiring => exact .inl rfl
    | active => exact .inr .connect
  | active =>
    cases q with
    | idle | releasing => cases hq
    | acquiring => exact .inr .fallBack
    | active => exact .inl rfl

namespace Switch

variable {ρ : Type} {s s₁ s₂ s₃ : Switch ρ} {input : Input ρ} {t : Tenant} {bold : Prop}
  {p q r : Phase} {e : Effect ρ} {es fs : List (Effect ρ)}

/-! ## Paths -/

/-- The change of phase that an effect tells of. -/
def Effect.turn? : Effect ρ → Option (Tenant × Phase × Phase)
  | .event (.phaseChanged tenant source target) => some (tenant, source, target)
  | _ => none

/-- The changes of phase that effects tell of. -/
def turns (es : List (Effect ρ)) : List (Tenant × Phase × Phase) := es.filterMap Effect.turn?

@[simp] theorem turns_append (es fs : List (Effect ρ)) : turns (es ++ fs) = turns es ++ turns fs :=
  List.filterMap_append

/-- Changes of phase that lead along arrows, one to the next, from one phase to another. -/
def Path (t : Tenant) : Phase → List (Tenant × Phase × Phase) → Phase → Prop
  | first, [], last => first = last
  | first, (tenant, source, target) :: rest, last =>
    tenant = t ∧ source = first ∧ source.Leads target ∧ Path t target rest last

theorem Path.append {l m : List (Tenant × Phase × Phase)} (h : Path t p l q) (h' : Path t q m r) :
    Path t p (l ++ m) r := by
  induction l generalizing p with
  | nil =>
    obtain rfl : p = q := h
    exact h'
  | cons turn l ih => exact ⟨h.1, h.2.1, h.2.2.1, ih h.2.2.2⟩

/-! ## Walks -/

/-- Whether an effect has to do with entering idle: it is the change of phase, or the notice that
tells of it. -/
def Effect.entersIdle : Effect ρ → Bool
  | .event (.phaseChanged _ _ .idle) | .notice (.enteredIdle ..) => true
  | _ => false

/-- Whether an effect tells the modem to bring up a class. -/
def Effect.isEnable : Effect ρ → Bool
  | .submit _ (.enable _) => true
  | _ => false

/-- Whether an effect has nothing to do with the phase. -/
def Effect.isSteady (e : Effect ρ) : Bool := e.turn?.isNone && !e.entersIdle

/-- Effects that follow the arrows and do not enter idle.  To leave idle, or to bring up a class
while idle, takes a bold input. -/
inductive Walk (t : Tenant) (bold : Prop) : Phase → List (Effect ρ) → Phase → Prop where
  | nil (p : Phase) : Walk t bold p [] p
  /-- The phase changes. -/
  | turn {p q r : Phase} {es : List (Effect ρ)} (hleads : p.Leads q) (hidle : q ≠ .idle)
      (hbold : p = .idle → bold) (rest : Walk t bold q es r) :
      Walk t bold p (.event (.phaseChanged t p q) :: es) r
  /-- The phase stays. -/
  | stay {p r : Phase} {e : Effect ρ} {es : List (Effect ρ)} (hsteady : e.isSteady = true)
      (hbold : p = .idle → e.isEnable = true → bold) (rest : Walk t bold p es r) :
      Walk t bold p (e :: es) r

theorem Walk.append (h : Walk t bold p es q) (h' : Walk t bold q fs r) :
    Walk t bold p (es ++ fs) r := by
  induction h with
  | nil => exact h'
  | turn hleads hidle hbold _ ih => exact .turn hleads hidle hbold (ih h')
  | stay hsteady hbold _ ih => exact .stay hsteady hbold (ih h')

/-- Effects that have nothing to do with the phase. -/
theorem Walk.of_all (h : es.all Effect.isSteady = true)
    (hbold : p = .idle → es.any Effect.isEnable = true → bold) : Walk t bold p es p := by
  induction es with
  | nil => exact .nil p
  | cons e es ih =>
    rw [List.all_cons, Bool.and_eq_true] at h
    refine .stay h.1 (fun hp he => hbold hp ?_) (ih h.2 fun hp hes => hbold hp ?_)
    · rw [List.any_cons, he, Bool.true_or]
    · rw [List.any_cons, hes, Bool.or_true]

theorem walk_phaseEvent (h : p = q ∨ p.Leads q ∧ q ≠ .idle ∧ (p = .idle → bold)) :
    Walk t bold p (phaseEvent t p q : List (Effect ρ)) q := by
  unfold phaseEvent
  split
  · next heq =>
    subst heq
    exact .nil p
  · next hne =>
    obtain ⟨hleads, hidle, hbold⟩ := h.resolve_left hne
    exact .turn hleads hidle hbold (.nil q)

theorem turns_cons_of_isSteady (h : e.isSteady = true) (es : List (Effect ρ)) :
    turns (e :: es) = turns es :=
  List.filterMap_cons_none (by simpa using (Bool.and_eq_true_iff.1 h).1)

/-- The changes of phase on a walk make a path. -/
theorem Walk.path (h : Walk t bold p es q) : Path t p (turns es) q := by
  induction h with
  | nil => rfl
  | turn hleads _ _ _ ih => exact ⟨rfl, rfl, hleads, ih⟩
  | stay hsteady _ _ ih =>
    rw [turns_cons_of_isSteady hsteady]
    exact ih

/-- A walk does not enter idle. -/
theorem Walk.filter_entersIdle (h : Walk t bold p es q) : es.filter Effect.entersIdle = [] := by
  induction h with
  | nil => rfl
  | @turn p q r es _ hidle _ _ ih =>
    rw [List.filter_cons_of_neg, ih]
    cases q with
    | idle => exact absurd rfl hidle
    | acquiring | active | releasing => exact Bool.false_ne_true
  | stay hsteady _ _ ih =>
    rw [List.filter_cons_of_neg (by simpa using (Bool.and_eq_true_iff.1 hsteady).2), ih]

/-- It does not leave idle either, unless it is bold. -/
theorem Walk.bold_of_mem (h : Walk t bold p es q) (hmem : (t, .idle, r) ∈ turns es) : bold := by
  induction h with
  | nil => cases hmem
  | turn _ _ hbold _ ih =>
    rcases List.mem_cons.1 hmem with heq | hmem
    · cases heq
      exact hbold rfl
    · exact ih hmem
  | stay hsteady _ _ ih =>
    rw [turns_cons_of_isSteady hsteady] at hmem
    exact ih hmem

/-- A class is brought up on a walk while the switch is idle only if the walk is bold. -/
theorem Walk.bold_of_enable (h : Walk t bold p (es ++ e :: fs) q) (he : e.isEnable = true)
    (hpath : Path t p (turns es) .idle) : bold := by
  induction es generalizing p with
  | nil =>
    cases h with
    | turn => cases he
    | stay _ hbold _ => exact hbold hpath he
  | cons e' es ih =>
    cases h with
    | turn _ _ _ rest => exact ih rest hpath.2.2.2
    | stay hsteady _ rest =>
      rw [turns_cons_of_isSteady hsteady] at hpath
      exact ih rest hpath

/-! ## Operations -/

/-- An operation that adds effects, which are a walk between the phases before and after it. -/
def Walks (bold : Prop) (s s' : Switch ρ) : Prop :=
  ∃ new, Adds s s' new ∧ Walk s.tenant bold s.phase new s'.phase

theorem Walks.refl (s : Switch ρ) : Walks bold s s := ⟨[], Adds.refl s, .nil _⟩

theorem Walks.trans (h : Walks bold s₁ s₂) (h' : Walks bold s₂ s₃) : Walks bold s₁ s₃ := by
  obtain ⟨es, hadds, hwalk⟩ := h
  obtain ⟨fs, hadds', hwalk'⟩ := h'
  rw [hadds.tenant] at hwalk'
  exact ⟨es ++ fs, hadds.trans hadds', hwalk.append hwalk'⟩

/-- An operation that says nothing of the phase, and keeps it. -/
theorem Adds.walks {new : List (Effect ρ)} (h : Adds s₁ s₂ new) (hphase : s₂.phase = s₁.phase)
    (hsteady : new.all Effect.isSteady = true)
    (hbold : s₁.phase = .idle → new.any Effect.isEnable = true → bold) : Walks bold s₁ s₂ := by
  refine ⟨new, h, ?_⟩
  rw [hphase]
  exact .of_all hsteady hbold

/-- An operation that brings up nothing either. -/
theorem Adds.walks_of_plain {new : List (Effect ρ)} (h : Adds s₁ s₂ new)
    (hphase : s₂.phase = s₁.phase)
    (hplain : new.all (fun e => e.isSteady && !e.isEnable) = true) : Walks bold s₁ s₂ := by
  have hplain' := List.all_eq_true.1 hplain
  refine h.walks hphase (List.all_eq_true.2 fun e he => ?_) fun _ hany => ?_
  · exact (Bool.and_eq_true_iff.1 (hplain' e he)).1
  · obtain ⟨e, he, henable⟩ := List.any_eq_true.1 hany
    simpa [henable] using hplain' e he

/-- An event that has nothing to do with the phase. -/
theorem walks_event (s : Switch ρ) {event : Event}
    (h : (Effect.event event : Effect ρ).isSteady = true) :
    Walks bold s (s.emit (.event event)) := by
  refine (adds_emit s (e := .event event) rfl).walks_of_plain rfl ?_
  simp [h, Effect.isEnable]

theorem walks_answer (s : Switch ρ) (handle : Option ρ) (id : Nat) (body : ReplyBody) :
    Walks bold s (s.answer handle id body) :=
  (adds_answer s handle id body).walks_of_plain (by rw [answer_eq]) (by cases handle <;> rfl)

theorem walks_publishChange (s : Switch ρ) (before : Snapshot) :
    Walks bold s (s.publishChange before) := by
  refine (adds_publishChange s before).walks_of_plain (by rw [publishChange_eq]) ?_
  unfold changeNotice
  split <;> rfl

theorem walks_enter (h : s.phase = q ∨ s.phase.Leads q ∧ q ≠ .idle ∧ (s.phase = .idle → bold)) :
    Walks bold s (s.enter q) := by
  refine ⟨_, adds_enter s q, ?_⟩
  rw [enter_eq]
  exact walk_phaseEvent h

/-- A live switch stays live. -/
theorem walks_enter_of_isLive (hlive : s.phase.isLive = true) (hq : q.isLive = true) :
    Walks bold s (s.enter q) :=
  walks_enter ((Phase.eq_or_leads_of_isLive hlive hq).imp_right fun hleads =>
    ⟨hleads, (Phase.isLive_iff.1 hq).1, fun hidle => absurd hidle (Phase.isLive_iff.1 hlive).1⟩)

/-- A class is tracked, by a live switch or a bold one. -/
theorem walks_track (c : DataClass) (hbold : s.phase = .idle → bold) : Walks bold s (s.track c) :=
  (adds_track s c).walks rfl rfl fun hidle _ => hbold hidle

theorem walks_disable (s : Switch ρ) (c : DataClass) :
    Walks bold s ((s.untrack c).submit (.disable c)) :=
  (adds_disable s c).walks_of_plain rfl rfl

/-- A live switch does not leave idle. -/
theorem walks_beginRelease (hlive : s.phase.isLive = true) : Walks bold s s.beginRelease := by
  refine ⟨_, adds_beginRelease s, ?_⟩
  rw [beginRelease_eq]
  exact .stay rfl (fun _ h => by cases h)
    (walk_phaseEvent (.inr ⟨Phase.leads_releasing hlive, nofun,
      fun hidle => absurd hidle (Phase.isLive_iff.1 hlive).1⟩))

theorem walks_settle (hlive : s.phase.isLive = true) : Walks bold s s.settle := by
  rcases s.settle_cases with ⟨-, h⟩ | ⟨-, h⟩ | ⟨-, h⟩
  · rw [h]
    exact walks_beginRelease hlive
  · rw [h]
    exact walks_enter_of_isLive hlive rfl
  · rw [h]
    exact .refl s

/-! ## Requests and signals -/

/-- The input is a request that carries a grant. -/
def Input.HasGrant (input : Input ρ) : Prop :=
  ∃ id c grant handle, input = .request id (.acquire c grant) handle

/-- What an input needs to be bold: with an arbitrated switch, a grant. -/
def Licence (s : Switch ρ) (input : Input ρ) : Prop := s.arbitrated = true → input.HasGrant

theorem Served.walks {id : Nat} {request : Request} {handle : Option ρ}
    (h : Served s id handle request s₁)
    (hbold : (s.arbitrated = true → request.isAcquire = true) → bold) : Walks bold s s₁ := by
  have hlive : s.phase.isLive = true → s.phase = .idle → bold :=
    fun hl hidle => absurd hidle (Phase.isLive_iff.1 hl).1
  cases h with
  | answered => exact walks_answer s handle id _
  | parked => exact ⟨[], ⟨rfl, rfl, by simp, by simp⟩, .nil _⟩
  | asked c => exact (adds_emit s (e := .askOwnership id c handle) rfl).walks_of_plain rfl rfl
  | entered c hp hgrant =>
    have htrack : Walks bold s (s.track c) := walks_track c fun _ => hbold hgrant
    have henter : Walks bold (s.track c) ((s.track c).enter .acquiring) :=
      walks_enter (.inr ⟨hp ▸ .acquire, nofun, fun _ => hbold hgrant⟩)
    exact (htrack.trans henter).trans (walks_answer _ handle id _)
  | tracked c hl => exact (walks_track c (hlive hl)).trans (walks_answer _ handle id _)
  | dropped c hl =>
    have hsettle : Walks bold ((s.untrack c).submit (.disable c)) _ := walks_settle hl
    exact ((walks_disable s c).trans hsettle).trans (walks_answer _ handle id _)
  | retried ds hl =>
    have hsubmit : Walks bold s ((ds.map .enable).foldl submit s) :=
      (adds_foldl_submit s _).walks (by rw [foldl_submit_eq])
        (by simp [Effect.isSteady, Effect.turn?, Effect.entersIdle]) fun hidle _ => hlive hl hidle
    exact hsubmit.trans (walks_answer _ handle id _)
  | swept =>
    have hsubmit : Walks bold s (s.submit .forceIdle) := (adds_submit s _).walks_of_plain rfl rfl
    exact hsubmit.trans (walks_answer _ handle id _)
  | released hl => exact (walks_beginRelease hl).trans (walks_answer _ handle id _)

/-- Except at the end of a release. -/
theorem Heeded.walks {signal : Signal} (h : Heeded s signal s₁)
    (hends : s.ends (.signal signal) = false) : Walks bold (s.ended signal) s₁ := by
  have hfailed : ∀ (s : Switch ρ) (c : DataClass) (f : ModemFault), Walks bold s
      ((s.untrack c).emit (.event (.requestFailed s.tenant (some c) (.transport f)))) :=
    fun s c f => (adds_failed s c f).walks_of_plain rfl rfl
  have hradio : ∀ state : Radio, Walks bold s
      (({ s with radio := state }.emit (.notice (.radioChanged s.tenant s.radio state))).emit
        (.event (.radioChanged s.tenant s.radio state))) :=
    fun state => (adds_radio s state).walks_of_plain rfl rfl
  cases h with
  | ignored => exact .refl _
  | reported token c f => exact walks_event (s.without token) rfl
  | failed token c f => exact hfailed (s.without token) c f
  | lost token c f hl =>
    refine (hfailed (s.without token) c f).trans (walks_settle ?_)
    exact hl
  | again c hl => exact walks_enter_of_isLive hl rfl
  | connected c hl =>
    have hconnected : Walks bold s
        ({ s with connected := s.connected.insert c }.emit (.event (.classConnected s.tenant c))) :=
      (adds_connected s c).walks_of_plain rfl rfl
    exact hconnected.trans (walks_enter_of_isLive hl rfl)
  | radio state => exact hradio state
  | cut state hl => exact (hradio state).trans (walks_beginRelease hl)
  | released token fault _ htoken => simp [ends, htoken] at hends

/-- Nobody parked comes with a grant. -/
theorem walks_foldl_replay (ps : List (Parked ρ)) (hbold : s.arbitrated = false → bold) :
    Walks bold s (ps.foldl replay s) := by
  induction ps generalizing s with
  | nil => exact .refl s
  | cons p ps ih =>
    have hevent : Walks bold s (s.emit (.event (.deferredReplayed s.tenant p.dataClass))) :=
      walks_event s rfl
    have hserved : Served (s.emit (.event (.deferredReplayed s.tenant p.dataClass))) p.id p.handle
        (.connect p.dataClass) (s.replay p) :=
      served_connect _ p.id p.handle none rfl (fun _ => rfl) fun h => absurd rfl h
    have hreplay : Walks bold s (s.replay p) := by
      refine hevent.trans (hserved.walks fun himp => hbold ?_)
      exact Bool.eq_false_iff.2 fun harb => Bool.false_ne_true (himp harb)
    obtain ⟨new, hadds, hwalk⟩ := hreplay
    exact Walks.trans ⟨new, hadds, hwalk⟩ (ih fun harb => hbold (hadds.arbitrated ▸ harb))

/-! ## Inputs -/

/-- An input leads a switch into idle, if it ends a release, and from there or from where it was on
a walk. -/
structure Passage (s : Switch ρ) (input : Input ρ) (es : List (Effect ρ)) : Prop where
  tenant : (s.after input).tenant = s.tenant
  arbitrated : (s.after input).arbitrated = s.arbitrated
  emitted : s.emitted input = s.entrance input ++ es
  walk : Walk s.tenant (s.Licence input) (if s.ends input then .idle else s.phase) es
    (s.after input).phase

theorem Walks.passage (h : Walks (s.Licence input) s₁ (s.after input))
    (htenant : s₁.tenant = s.tenant) (harb : s₁.arbitrated = s.arbitrated)
    (hout : s₁.outbox = s.outbox ++ s.entrance input)
    (hphase : s₁.phase = if s.ends input then .idle else s.phase) : ∃ es, s.Passage input es := by
  obtain ⟨es, hadds, hwalk⟩ := h
  refine ⟨es, hadds.tenant.trans htenant, hadds.arbitrated.trans harb, emitted_eq ?_, ?_⟩
  · rw [hadds.outbox, hout, List.append_assoc]
  · rw [← htenant, ← hphase]
    exact hwalk

theorem exists_passage (h : s.Tokens) (input : Input ρ) : ∃ es, s.Passage input es := by
  cases input with
  | request id request handle =>
    have hserved :
        Walks (s.Licence (.request id request handle)) s (s.serve id request handle) := by
      refine (served s id request handle).walks fun himp harb => ?_
      cases request with
      | acquire c grant => exact ⟨id, c, grant, handle, rfl⟩
      | connect | disconnect | retryConnect | cleanupAll | isIdle | isIdleOrReleasing | snapshot =>
        cases himp harb
    exact (hserved.trans (walks_publishChange _ s.snapshot)).passage rfl rfl
      (List.append_nil _).symm rfl
  | signal signal =>
    cases hends : s.ends (.signal signal) with
    | true =>
      obtain ⟨k, fault, heq, hk⟩ := exists_of_ends hends
      cases heq
      have hreplay : Walks (s.Licence (.signal (.completed k fault))) (s.without k).atIdle
          (s.hear (.completed k fault)) := by
        rw [hear_of_ends h hk]
        refine (walks_foldl_replay s.parked fun harb hand => ?_).trans (walks_publishChange _ _)
        exact absurd (harb.symm.trans hand) Bool.false_ne_true
      exact hreplay.passage rfl rfl (by rw [entrance, if_pos hends]; rfl) (by rw [hends]; rfl)
    | false =>
      obtain ⟨s₁, hheeded, heq⟩ := s.heeded signal
      have hwalks : Walks (s.Licence (.signal signal)) (s.ended signal) (s.hear signal) := by
        rw [heq]
        exact (hheeded.walks hends).trans (walks_publishChange s₁ s.snapshot)
      refine Walks.passage hwalks (ended_tenant s signal) (ended_arbitrated s signal) ?_ ?_
      · rw [ended_outbox, entrance, hends]
        exact (List.append_nil _).symm
      · rw [hends]
        cases signal <;> rfl
  | drain => exact ⟨[], rfl, rfl, rfl, .nil _⟩

/-- The changes of phase of an input make a path. -/
theorem Passage.path (h : s.Passage input es) (htokens : s.Tokens) :
    Path s.tenant s.phase (turns (s.emitted input)) (s.after input).phase := by
  have hpath := h.walk.path
  rw [h.emitted, turns_append, entrance]
  cases hends : s.ends input with
  | true =>
    obtain ⟨k, -, -, hk⟩ := exists_of_ends hends
    rw [hends] at hpath
    exact ⟨rfl, (htokens.releaseToken_eq hk).symm, .confirm, hpath⟩
  | false =>
    rw [hends] at hpath
    exact hpath

/-- Idle is entered at the end of a release, and only then. -/
theorem Passage.filter_entersIdle (h : s.Passage input es) :
    (s.emitted input).filter Effect.entersIdle = s.entrance input := by
  rw [h.emitted, List.filter_append, h.walk.filter_entersIdle, List.append_nil, entrance]
  split <;> rfl

/-- To leave idle takes a licence. -/
theorem Passage.licence_of_mem (h : s.Passage input es)
    (hmem : (s.tenant, .idle, p) ∈ turns (s.emitted input)) : s.Licence input := by
  rw [h.emitted, turns_append, entrance] at hmem
  refine h.walk.bold_of_mem ((List.mem_append.1 hmem).resolve_left ?_)
  split
  · exact fun hentrance => by simp [turns, Effect.turn?] at hentrance
  · exact List.not_mem_nil

/-- To bring up a class while idle takes one as well. -/
theorem Passage.licence_of_enable {before behind : List (Effect ρ)} (h : s.Passage input es)
    (hemitted : s.emitted input = before ++ e :: behind) (he : e.isEnable = true)
    (hpath : Path s.tenant s.phase (turns before) .idle) : s.Licence input := by
  -- The entrance brings up nothing, so the command comes behind it.
  have hentrance : e ∉ s.entrance input := by
    unfold entrance
    split
    · rintro hmem
      rcases List.mem_pair.1 hmem with rfl | rfl <;> cases he
    · exact List.not_mem_nil
  obtain ⟨rest, rfl, rfl⟩ :
      ∃ rest, before = s.entrance input ++ rest ∧ es = rest ++ e :: behind := by
    rcases List.append_eq_append_iff.1 (h.emitted.symm.trans hemitted) with
      ⟨rest, hbefore, hes⟩ | ⟨rest, hsplit, hbehind⟩
    · exact ⟨rest, hbefore, hes⟩
    · cases rest with
      | nil => exact ⟨[], by simpa using hsplit.symm, by simpa using hbehind.symm⟩
      | cons e' rest =>
        obtain ⟨rfl, -⟩ := List.cons.inj hbehind
        exact absurd (hsplit ▸ List.mem_append_right _ List.mem_cons_self) hentrance
  refine h.walk.bold_of_enable he ?_
  rw [turns_append, entrance] at hpath
  cases hends : s.ends input with
  | true =>
    rw [hends] at hpath
    exact hpath.2.2.2
  | false =>
    rw [hends] at hpath
    exact hpath

/-! ## Runs -/

theorem tenant_run (tenant : Tenant) (arbitrated : Bool) (inputs : List (Input ρ)) :
    (run tenant arbitrated inputs).tenant = tenant := by
  induction inputs using List.reverseRecOn with
  | nil => rfl
  | append_singleton inputs input ih =>
    obtain ⟨es, hpassage⟩ := exists_passage (sound_run tenant arbitrated inputs).tokens input
    rw [run_append, hpassage.tenant, ih]

theorem arbitrated_run (tenant : Tenant) (arbitrated : Bool) (inputs : List (Input ρ)) :
    (run tenant arbitrated inputs).arbitrated = arbitrated := by
  induction inputs using List.reverseRecOn with
  | nil => rfl
  | append_singleton inputs input ih =>
    obtain ⟨es, hpassage⟩ := exists_passage (sound_run tenant arbitrated inputs).tokens input
    rw [run_append, hpassage.arbitrated, ih]

/-- The changes of phase in a run lead from idle to the present phase. -/
theorem path_run (tenant : Tenant) (arbitrated : Bool) (inputs : List (Input ρ)) :
    Path tenant .idle (turns (log { tenant := tenant, arbitrated := arbitrated } inputs))
      (run tenant arbitrated inputs).phase := by
  induction inputs using List.reverseRecOn with
  | nil => rfl
  | append_singleton inputs input ih =>
    have htokens := (sound_run tenant arbitrated inputs).tokens
    obtain ⟨es, hpassage⟩ := exists_passage htokens input
    have hpath := hpassage.path htokens
    rw [tenant_run] at hpath
    rw [log_append, turns_append, run_append, log_cons, log_nil, List.append_nil]
    exact ih.append hpath

/-- Once round. -/
example : turns (log ({ tenant := ⟨0⟩, arbitrated := false } : Switch Nat)
    [.request 1 (.connect .mms) none, .signal (.classConnected .mms), .request 2 .cleanupAll none,
      .signal (.completed 2 none)]) =
    [(⟨0⟩, .idle, .acquiring), (⟨0⟩, .acquiring, .active), (⟨0⟩, .active, .releasing),
      (⟨0⟩, .releasing, .idle)] := by decide +kernel

/-- In a run idle is entered at the ends of releases, each time with one notice. -/
theorem filter_entersIdle_log (tenant : Tenant) (arbitrated : Bool) (inputs : List (Input ρ)) :
    (log { tenant := tenant, arbitrated := arbitrated } inputs).filter Effect.entersIdle =
      along entrance { tenant := tenant, arbitrated := arbitrated } inputs := by
  induction inputs using List.reverseRecOn with
  | nil => rfl
  | append_singleton inputs input ih =>
    obtain ⟨es, hpassage⟩ := exists_passage (sound_run tenant arbitrated inputs).tokens input
    rw [log_append, along_append, List.filter_append, ih, log_cons, log_nil, along_cons, along_nil,
      List.append_nil, List.append_nil]
    exact congrArg _ hpassage.filter_entersIdle

/-- An input that leads an idle switch anywhere, or makes it ask the modem for a class, carries a
grant. -/
structure Licensed (s : Switch ρ) (input : Input ρ) : Prop where
  /-- To leave idle takes a grant. -/
  leave : ∀ target, (s.tenant, .idle, target) ∈ turns (s.emitted input) → input.HasGrant
  /-- So does a command to bring up a class, at a moment at which the switch is idle. -/
  enable : ∀ es token c fs, s.emitted input = es ++ .submit token (.enable c) :: fs →
    Path s.tenant s.phase (turns es) .idle → input.HasGrant

/-- A switch walks along the arrows of its diagram.  Each time that it enters idle there is one
notice, with the classes of those who are parked, and they are parked in the order in which they
came.  If it is arbitrated it does not leave idle without a grant. -/
theorem diagram_of_run (tenant : Tenant) (arbitrated : Bool) (inputs : List (Input ρ)) :
    Path tenant .idle (turns (log { tenant := tenant, arbitrated := arbitrated } inputs))
        (run tenant arbitrated inputs).phase ∧
      (log { tenant := tenant, arbitrated := arbitrated } inputs).filter Effect.entersIdle =
        along entrance { tenant := tenant, arbitrated := arbitrated } inputs ∧
      (run tenant arbitrated inputs).parked.Sublist (arrivals inputs) ∧
      (arbitrated = true → ∀ input, (run tenant arbitrated inputs).Licensed input) := by
  refine ⟨path_run tenant arbitrated inputs, filter_entersIdle_log tenant arbitrated inputs,
    parked_sublist tenant arbitrated inputs, fun harb input => ?_⟩
  obtain ⟨es, hpassage⟩ := exists_passage (sound_run tenant arbitrated inputs).tokens input
  have harb' := (arbitrated_run tenant arbitrated inputs).trans harb
  exact {
    leave := fun _ hmem => hpassage.licence_of_mem hmem harb'
    enable := fun _ _ _ _ hemitted hpath => hpassage.licence_of_enable hemitted rfl hpath harb' }

end Switch

end DataPath
