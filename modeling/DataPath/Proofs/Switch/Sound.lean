import DataPath.Proofs.Classes
import DataPath.Proofs.Switch.Effects

/-!
# What holds of a switch at any time

The state of a switch makes sense in two respects.

* `Tracks`: the classes fit the phase.  Connected classes are requested ones, an idle
  switch wants nothing, a live one wants something and has its radio powered, an acquiring
  one has nothing connected and an active one has something.  Connects are parked only
  during a release.
* `Tokens`: the commands in flight have different tokens, in the order of submission.
  During a release, and only then, there is a release token; it is that of a force-idle in
  flight, behind which no class is brought up.

Both are kept by every request (`Sound.handle`) and by every signal (`Sound.hear`), in
whatever order they come.
-/

namespace DataPath

theorem Phase.isLive_iff {p : Phase} : p.isLive = true ↔ p ≠ .idle ∧ p ≠ .releasing := by
  cases p <;> simp [Phase.isLive]

namespace Switch

variable {ρ : Type} {s : Switch ρ}

/-- The classes fit the phase. -/
structure Tracks (s : Switch ρ) : Prop where
  subset : ∀ c ∈ s.connected, c ∈ s.classes
  idle : s.phase = .idle → ∀ c, c ∉ s.classes
  live : s.phase.isLive = true → ∃ c, c ∈ s.classes
  acquiring : s.phase = .acquiring → ∀ c, c ∉ s.connected
  active : s.phase = .active → ∃ c, c ∈ s.connected
  parked : s.parked ≠ [] → s.phase = .releasing
  radio : s.phase.isLive = true → s.radio.isOff = false

/-- The commands in flight are in order, and a release waits for one of them. -/
structure Tokens (s : Switch ρ) : Prop where
  sorted : s.inflight.Pairwise fun a b => a.1 < b.1
  bound : ∀ e ∈ s.inflight, e.1 < s.nextToken
  token : s.phase = .releasing → ∃ k, s.releaseToken = some k ∧ (k, .forceIdle) ∈ s.inflight
  noToken : s.phase ≠ .releasing → s.releaseToken = none
  barrier : ∀ k, s.releaseToken = some k → ∀ e ∈ s.inflight, ∀ c, e.2 = .enable c → e.1 < k

/-- What holds of a switch at any time. -/
structure Sound (s : Switch ρ) : Prop where
  tracks : s.Tracks
  tokens : s.Tokens

/-! ## Commands in flight -/

theorem Tokens.emit (h : s.Tokens) (e : Effect ρ) : (s.emit e).Tokens :=
  ⟨h.sorted, h.bound, h.token, h.noToken, h.barrier⟩

theorem Tokens.answer (h : s.Tokens) (handle : Option ρ) (id : Nat) (body : ReplyBody) :
    (s.answer handle id body).Tokens := by
  rw [answer_eq]
  exact ⟨h.sorted, h.bound, h.token, h.noToken, h.barrier⟩

/-- A new command has the greatest token. -/
theorem Tokens.sorted_submit (h : s.Tokens) (c : Command) :
    (s.inflight ++ [(s.nextToken, c)]).Pairwise fun a b => a.1 < b.1 := by
  rw [List.pairwise_append]
  refine ⟨h.sorted, List.pairwise_singleton _ _, ?_⟩
  intro a ha b hb
  rw [List.mem_singleton] at hb
  rw [hb]
  exact h.bound a ha

theorem Tokens.bound_submit (h : s.Tokens) (c : Command) :
    ∀ e ∈ s.inflight ++ [(s.nextToken, c)], e.1 < s.nextToken + 1 := by
  intro e he
  rcases List.mem_append.1 he with he | he
  · exact Nat.lt_succ_of_lt (h.bound e he)
  · rw [List.mem_singleton] at he
    rw [he]
    exact Nat.lt_succ_self _

/-- Outside a release any command may be submitted. -/
theorem Tokens.submit (h : s.Tokens) (hp : s.phase ≠ .releasing) (c : Command) :
    (s.submit c).Tokens where
  sorted := h.sorted_submit c
  bound := h.bound_submit c
  token hr := absurd hr hp
  noToken := h.noToken
  barrier k hk := by
    have hnone : s.releaseToken = none := h.noToken hp
    have hk' : s.releaseToken = some k := hk
    rw [hnone] at hk'
    cases hk'

theorem Tokens.foldl_submit (h : s.Tokens) (hp : s.phase ≠ .releasing) (cs : List Command) :
    (cs.foldl Switch.submit s).Tokens := by
  induction cs generalizing s with
  | nil => exact h
  | cons c cs ih => exact ih (h.submit hp c) hp

theorem Tokens.beginRelease (h : s.Tokens) : s.beginRelease.Tokens := by
  rw [beginRelease_eq]
  refine ⟨h.sorted_submit _, h.bound_submit _, fun _ => ⟨s.nextToken, rfl, by simp⟩,
    fun hr => absurd rfl hr, ?_⟩
  intro k hk e he c hc
  simp only [Option.some.injEq] at hk
  rcases List.mem_append.1 he with he | he
  · rw [← hk]
    exact h.bound e he
  · rw [List.mem_singleton.1 he] at hc
    cases hc

theorem Tokens.enter (h : s.Tokens) (hp : s.phase ≠ .releasing) {p : Phase}
    (hq : p ≠ .releasing) : (s.enter p).Tokens := by
  rw [enter_eq]
  exact ⟨h.sorted, h.bound, fun hr => absurd hr hq, fun _ => h.noToken hp, h.barrier⟩

theorem Tokens.settle (h : s.Tokens) (hp : s.phase ≠ .releasing) : s.settle.Tokens := by
  unfold Switch.settle
  split
  · exact h.beginRelease
  · split
    · exact h.enter hp (by decide)
    · exact h

/-- A command that is not the one a release waits for may end. -/
theorem Tokens.drop (h : s.Tokens) {token : Nat} (hk : s.releaseToken ≠ some token) :
    { s with inflight := s.inflight.filter fun e => e.1 ≠ token }.Tokens where
  sorted := h.sorted.sublist List.filter_sublist
  bound e he := h.bound e (List.mem_filter.1 he).1
  token hr := by
    obtain ⟨k, hk', hmem⟩ := h.token hr
    refine ⟨k, hk', List.mem_filter.2 ⟨hmem, ?_⟩⟩
    have hne : k ≠ token := fun he => hk (he ▸ hk')
    simpa using hne
  noToken := h.noToken
  barrier k hk e he := h.barrier k hk e (List.mem_filter.1 he).1

/-! ## Classes -/

theorem Tracks.emit (h : s.Tracks) (e : Effect ρ) : (s.emit e).Tracks :=
  ⟨h.subset, h.idle, h.live, h.acquiring, h.active, h.parked, h.radio⟩

theorem Tracks.answer (h : s.Tracks) (handle : Option ρ) (id : Nat) (body : ReplyBody) :
    (s.answer handle id body).Tracks := by
  rw [answer_eq]
  exact ⟨h.subset, h.idle, h.live, h.acquiring, h.active, h.parked, h.radio⟩

theorem Tracks.foldl_submit (h : s.Tracks) (cs : List Command) :
    (cs.foldl Switch.submit s).Tracks := by
  rw [foldl_submit_eq]
  exact ⟨h.subset, h.idle, h.live, h.acquiring, h.active, h.parked, h.radio⟩

theorem Tracks.submit (h : s.Tracks) (c : Command) : (s.submit c).Tracks := h.foldl_submit [c]

theorem Tracks.beginRelease (h : ∀ c ∈ s.connected, c ∈ s.classes) : s.beginRelease.Tracks := by
  rw [beginRelease_eq]
  exact ⟨h, nofun, nofun, nofun, nofun, fun _ => rfl, nofun⟩

/-- A live switch that has lost a class finds the phase that fits. -/
theorem Tracks.settle (hsub : ∀ c ∈ s.connected, c ∈ s.classes) (hlive : s.phase.isLive = true)
    (hacq : s.phase = .acquiring → ∀ c, c ∉ s.connected) (hparked : s.parked = [])
    (hradio : s.radio.isOff = false) : s.settle.Tracks := by
  unfold Switch.settle
  split
  · exact Tracks.beginRelease hsub
  · next hne =>
    have hsome : ∃ c, c ∈ s.classes := ClassSet.exists_mem_of_not_isEmpty hne
    split
    · next hempty =>
      rw [enter_eq]
      exact ⟨hsub, nofun, fun _ => hsome, fun _ => ClassSet.isEmpty_iff.1 hempty, nofun,
        fun hp => absurd hparked hp, fun _ => hradio⟩
    · next hconn =>
      refine ⟨hsub, ?_, fun _ => hsome, hacq, fun _ => ClassSet.exists_mem_of_not_isEmpty hconn,
        fun hp => absurd hparked hp, fun _ => hradio⟩
      intro hidle
      rw [hidle] at hlive
      cases hlive

theorem Tracks.parked_eq_nil (h : s.Tracks) (hp : s.phase ≠ .releasing) : s.parked = [] := by
  by_contra hne
  exact hp (h.parked hne)

theorem Tracks.not_connected_of_idle (h : s.Tracks) (hp : s.phase = .idle) (c : DataClass) :
    c ∉ s.connected := fun hc => h.idle hp c (h.subset c hc)

/-! ## Small operations -/

theorem Sound.emit (h : s.Sound) (e : Effect ρ) : (s.emit e).Sound :=
  ⟨h.tracks.emit e, h.tokens.emit e⟩

theorem Sound.answer (h : s.Sound) (handle : Option ρ) (id : Nat) (body : ReplyBody) :
    (s.answer handle id body).Sound :=
  ⟨h.tracks.answer handle id body, h.tokens.answer handle id body⟩

theorem Sound.publishChange (h : s.Sound) (before : Snapshot) : (s.publishChange before).Sound := by
  unfold Switch.publishChange
  split
  · exact h
  · exact h.emit _

theorem Sound.foldl_submit (h : s.Sound) (hp : s.phase ≠ .releasing) (cs : List Command) :
    (cs.foldl Switch.submit s).Sound :=
  ⟨h.tracks.foldl_submit cs, h.tokens.foldl_submit hp cs⟩

theorem Sound.submit (h : s.Sound) (hp : s.phase ≠ .releasing) (c : Command) :
    (s.submit c).Sound :=
  ⟨h.tracks.submit c, h.tokens.submit hp c⟩

theorem Sound.beginRelease (h : s.Sound) : s.beginRelease.Sound :=
  ⟨Tracks.beginRelease h.tracks.subset, h.tokens.beginRelease⟩

theorem Sound.ne_releasing_of_isLive (h : s.phase.isLive = true) : s.phase ≠ .releasing :=
  (Phase.isLive_iff.1 h).2

/-- Connects are parked during a release. -/
theorem Sound.park (h : s.Sound) (hp : s.phase = .releasing) (ps : List (Parked ρ)) :
    { s with parked := ps }.Sound :=
  ⟨⟨h.tracks.subset, h.tracks.idle, h.tracks.live, h.tracks.acquiring, h.tracks.active,
      fun _ => hp, h.tracks.radio⟩,
    ⟨h.tokens.sorted, h.tokens.bound, h.tokens.token, h.tokens.noToken, h.tokens.barrier⟩⟩

/-- A switch leaves idle with a class to bring up. -/
theorem Sound.track_of_idle (h : s.Sound) (hp : s.phase = .idle) (hradio : s.radio.isOff = false)
    (c : DataClass) : ((s.track c).enter .acquiring).Sound := by
  have hne : s.phase ≠ .releasing := by rw [hp]; decide
  refine ⟨?_, ?_⟩
  · rw [enter_eq]
    refine ⟨fun d hd => absurd hd (h.tracks.not_connected_of_idle hp d), nofun,
      fun _ => ⟨c, ClassSet.mem_insert.2 (.inl rfl)⟩,
      fun _ d => h.tracks.not_connected_of_idle hp d, nofun,
      fun hparked => absurd (h.tracks.parked_eq_nil hne) hparked, fun _ => hradio⟩
  · have htok : (s.track c).Tokens := by
      have := h.tokens.submit hne (.enable c)
      exact ⟨this.sorted, this.bound, this.token, this.noToken, this.barrier⟩
    exact htok.enter hne (by decide)

/-- A live switch takes on one more class. -/
theorem Sound.track_of_live (h : s.Sound) (hp : s.phase.isLive = true) (c : DataClass) :
    (s.track c).Sound := by
  have hne := Sound.ne_releasing_of_isLive hp
  refine ⟨⟨fun d hd => ClassSet.mem_insert.2 (.inr (h.tracks.subset d hd)), ?_,
    fun _ => ⟨c, ClassSet.mem_insert.2 (.inl rfl)⟩, h.tracks.acquiring, h.tracks.active,
    h.tracks.parked, h.tracks.radio⟩, ?_⟩
  · intro hidle
    have hidle' : s.phase = .idle := hidle
    rw [hidle'] at hp
    cases hp
  · have := h.tokens.submit hne (.enable c)
    exact ⟨this.sorted, this.bound, this.token, this.noToken, this.barrier⟩

/-- After a live switch has lost a class it settles. -/
theorem Sound.settle_untrack (h : s.Sound) (hp : s.phase.isLive = true) (c : DataClass)
    {s' : Switch ρ} (htok : s'.Tokens) (hphase : s'.phase = s.phase)
    (hclasses : s'.classes = s.classes.erase c) (hconn : s'.connected = s.connected.erase c)
    (hparked : s'.parked = s.parked) (hradio : s'.radio = s.radio) : s'.settle.Sound := by
  have hne := Sound.ne_releasing_of_isLive hp
  refine ⟨Tracks.settle ?_ (hphase ▸ hp) ?_ ?_ ?_, htok.settle (hphase ▸ hne)⟩
  · intro d hd
    rw [hconn, ClassSet.mem_erase] at hd
    rw [hclasses, ClassSet.mem_erase]
    exact ⟨hd.1, h.tracks.subset d hd.2⟩
  · intro hacq d hd
    rw [hconn, ClassSet.mem_erase] at hd
    exact h.tracks.acquiring (hphase ▸ hacq) d hd.2
  · rw [hparked]
    exact h.tracks.parked_eq_nil hne
  · rw [hradio]
    exact h.tracks.radio hp

/-! ## Requests -/

theorem Sound.connect (h : s.Sound) (id : Nat) (c : DataClass) (handle : Option ρ)
    (grant : Option Grant) : (s.connect id c handle grant).Sound := by
  unfold Switch.connect
  split
  · exact h.answer _ _ _
  · next hradio =>
    have hradio' : s.radio.isOff = false := by simpa using hradio
    split
    · next hp => exact h.park hp _
    · next hp =>
      split
      · exact h.emit _
      · exact (h.track_of_idle hp hradio' c).answer _ _ _
    all_goals
      next hp =>
        have hlive : s.phase.isLive = true := by rw [hp]; rfl
        split
        · exact h.answer _ _ _
        · split
          · exact h.answer _ _ _
          · exact (h.track_of_live hlive c).answer _ _ _

theorem Sound.disconnect (h : s.Sound) (c : DataClass) : (s.disconnect c).1.Sound := by
  unfold Switch.disconnect
  split
  · next hc =>
    have hne := Sound.ne_releasing_of_isLive hc.1
    refine h.settle_untrack hc.1 c ?_ rfl rfl rfl rfl rfl
    have hun : (s.untrack c).Tokens :=
      ⟨h.tokens.sorted, h.tokens.bound, h.tokens.token, h.tokens.noToken, h.tokens.barrier⟩
    exact hun.submit hne _
  · exact h

theorem Sound.retryConnect (h : s.Sound) : s.retryConnect.1.Sound := by
  unfold Switch.retryConnect
  split
  · exact h
  · next hlive =>
    split
    · exact h
    · obtain ⟨ds, -, heq⟩ := exists_foldl_retry_eq s s.waiting.toList
      simp only [heq]
      exact h.foldl_submit (Sound.ne_releasing_of_isLive (by simpa using hlive)) _

theorem Sound.cleanupAll (h : s.Sound) : s.cleanupAll.1.Sound := by
  unfold Switch.cleanupAll
  split
  · next hp => exact h.submit (by rw [hp]; decide) _
  · exact h.beginRelease
  · exact h.beginRelease
  · exact h

theorem Sound.serve (h : s.Sound) (id : Nat) (request : Request) (handle : Option ρ) :
    (s.serve id request handle).Sound := by
  cases request with
  | connect c => exact h.connect _ _ _ _
  | acquire c g => exact h.connect _ _ _ _
  | disconnect c => exact (h.disconnect c).answer _ _ _
  | retryConnect => exact h.retryConnect.answer _ _ _
  | cleanupAll => exact h.cleanupAll.answer _ _ _
  | isIdle | isIdleOrReleasing | snapshot => exact h.answer _ _ _

/-- Every request keeps a switch sound. -/
theorem Sound.handle (h : s.Sound) (id : Nat) (request : Request) (handle : Option ρ) :
    (s.handle id request handle).Sound :=
  (h.serve id request handle).publishChange _

/-! ## Signals -/

theorem Sound.foldl_replay (h : s.Sound) (ps : List (Parked ρ)) :
    (ps.foldl replay s).Sound := by
  induction ps generalizing s with
  | nil => exact h
  | cons p ps ih => exact ih ((h.emit _).connect _ _ _ _)

/-- The release ends when its force-idle has ended. -/
theorem Sound.completeRelease {token : Nat} (h : s.Sound) :
    { s with inflight := s.inflight.filter fun e => e.1 ≠ token }.completeRelease.Sound := by
  unfold Switch.completeRelease
  refine Sound.foldl_replay ?_ _
  refine Sound.emit ?_ _
  rw [enter_eq]
  refine ⟨⟨fun c hc => absurd hc (ClassSet.not_mem_empty c), fun _ c => ClassSet.not_mem_empty c,
    nofun, nofun, nofun, fun hne => absurd rfl hne, nofun⟩, ⟨?_, ?_, nofun, fun _ => rfl, nofun⟩⟩
  · exact h.tokens.sorted.sublist List.filter_sublist
  · intro e he
    exact h.tokens.bound e (List.mem_filter.1 he).1

theorem Sound.drop (h : s.Sound) {token : Nat} (hk : s.releaseToken ≠ some token) :
    { s with inflight := s.inflight.filter fun e => e.1 ≠ token }.Sound :=
  ⟨⟨h.tracks.subset, h.tracks.idle, h.tracks.live, h.tracks.acquiring, h.tracks.active,
    h.tracks.parked, h.tracks.radio⟩, h.tokens.drop hk⟩

/-- A token stands for one command only. -/
theorem Tokens.command_unique (h : s.Tokens) {k : Nat} {c d : Command} (hc : (k, c) ∈ s.inflight)
    (hd : (k, d) ∈ s.inflight) : c = d := by
  have hpw : s.inflight.Pairwise fun a b => a.1 ≠ b.1 := h.sorted.imp fun hlt => Nat.ne_of_lt hlt
  have hnd : (s.inflight.map Prod.fst).Nodup := List.pairwise_map.2 hpw
  exact congrArg Prod.snd (List.inj_on_of_nodup_map hnd hc hd rfl)

theorem mem_of_lookup_eq_some {k : Nat} {c : Command} {es : List (Nat × Command)}
    (h : es.lookup k = some c) : (k, c) ∈ es := by
  induction es with
  | nil => cases h
  | cons e es ih =>
    obtain ⟨a, d⟩ := e
    rw [List.lookup_cons] at h
    split at h
    · next hk =>
      simp only [beq_iff_eq] at hk
      simp only [Option.some.injEq] at h
      rw [hk, h]
      exact List.mem_cons_self
    · exact List.mem_cons_of_mem _ (ih h)

theorem Tokens.lookup_eq (h : s.Tokens) {k : Nat} {c : Command} (hmem : (k, c) ∈ s.inflight) :
    s.inflight.lookup k = some c := by
  cases hlook : s.inflight.lookup k with
  | none => simpa using List.lookup_eq_none_iff.1 hlook _ hmem
  | some d => rw [h.command_unique (mem_of_lookup_eq_some hlook) hmem]

/-- A command other than a force-idle is not what a release waits for. -/
theorem Tokens.releaseToken_ne (h : s.Tokens) {k : Nat} {c : Command} (hmem : (k, c) ∈ s.inflight)
    (hc : c ≠ .forceIdle) : s.releaseToken ≠ some k := by
  intro hk
  by_cases hp : s.phase = .releasing
  · obtain ⟨j, hj, hforce⟩ := h.token hp
    rw [hk, Option.some.injEq] at hj
    subst hj
    exact hc (h.command_unique hmem hforce)
  · rw [h.noToken hp] at hk
    cases hk

/-- Outside a release no token is the release token. -/
theorem Tokens.releaseToken_eq (h : s.Tokens) {k : Nat} (hk : s.releaseToken = some k) :
    s.phase = .releasing := by
  by_contra hp
  rw [h.noToken hp] at hk
  cases hk

theorem Sound.untrack_of_not_live (h : s.Sound) (hp : s.phase.isLive ≠ true) (c : DataClass) :
    (s.untrack c).Sound := by
  refine ⟨⟨?_, ?_, fun hl => absurd hl hp, ?_, ?_, h.tracks.parked, fun hl => absurd hl hp⟩, ?_⟩
  · intro d hd
    obtain ⟨hne, hd⟩ := ClassSet.mem_erase.1 hd
    exact ClassSet.mem_erase.2 ⟨hne, h.tracks.subset d hd⟩
  · intro hidle d hd
    exact h.tracks.idle hidle d (ClassSet.mem_erase.1 hd).2
  · intro hacq
    have : s.phase = .acquiring := hacq
    rw [this] at hp
    exact absurd rfl hp
  · intro hact
    have : s.phase = .active := hact
    rw [this] at hp
    exact absurd rfl hp
  · exact ⟨h.tokens.sorted, h.tokens.bound, h.tokens.token, h.tokens.noToken, h.tokens.barrier⟩

/-- Forgetting a class that is not wanted changes nothing. -/
theorem Tracks.untrack_of_not_mem (h : s.Tracks) {c : DataClass} (hc : c ∉ s.classes) :
    s.untrack c = s := by
  have herase : ∀ {t : ClassSet}, c ∉ t → t.erase c = t := by
    intro t ht
    ext d
    rw [ClassSet.mem_erase]
    refine ⟨fun hd => hd.2, fun hd => ⟨?_, hd⟩⟩
    rintro rfl
    exact ht hd
  unfold Switch.untrack
  rw [herase hc, herase fun hcon => hc (h.subset c hcon)]

theorem Sound.finish (h : s.Sound) {token : Nat} {command : Command} (fault : Option ModemFault)
    (hmem : (token, command) ∈ s.inflight) :
    ({ s with inflight := s.inflight.filter fun e => e.1 ≠ token }.finish token command
      fault).Sound := by
  cases command with
  | enable c =>
    have hdrop := h.drop (h.tokens.releaseToken_ne hmem (by simp))
    cases fault with
    | none => exact hdrop
    | some f =>
      unfold Switch.finish
      simp only
      split
      · next hlive =>
        refine hdrop.settle_untrack hlive.2 c ?_ rfl rfl rfl rfl rfl
        refine Tokens.emit ?_ _
        exact ⟨hdrop.tokens.sorted, hdrop.tokens.bound, hdrop.tokens.token,
          hdrop.tokens.noToken, hdrop.tokens.barrier⟩
      · next hnot =>
        refine Sound.emit ?_ _
        by_cases hc : c ∈ s.classes
        · exact hdrop.untrack_of_not_live (fun hl => hnot ⟨hc, hl⟩) c
        · rw [hdrop.tracks.untrack_of_not_mem hc]
          exact hdrop
  | disable c =>
    have hdrop := h.drop (h.tokens.releaseToken_ne hmem (by simp))
    cases fault with
    | none => exact hdrop
    | some f => exact hdrop.emit _
  | forceIdle =>
    unfold Switch.finish
    simp only
    split
    · exact h.completeRelease
    · next hnot =>
      refine h.drop fun hk => hnot ⟨?_, hk⟩
      exact h.tokens.releaseToken_eq hk

theorem Sound.classConnected (h : s.Sound) (c : DataClass) : (s.classConnected c).Sound := by
  unfold Switch.classConnected
  split
  · next hc =>
    have hne := Sound.ne_releasing_of_isLive hc.1
    split
    · next hmem =>
      refine ⟨?_, h.tokens.enter hne (by decide)⟩
      rw [enter_eq]
      exact ⟨h.tracks.subset, nofun, fun _ => h.tracks.live hc.1, nofun, fun _ => ⟨c, hmem⟩,
        fun hp => absurd (h.tracks.parked_eq_nil hne) hp, fun _ => h.tracks.radio hc.1⟩
    · refine ⟨?_, ?_⟩
      · rw [enter_eq]
        refine ⟨?_, nofun, fun _ => h.tracks.live hc.1, nofun,
          fun _ => ⟨c, ClassSet.mem_insert.2 (.inl rfl)⟩,
          fun hp => absurd (h.tracks.parked_eq_nil hne) hp, fun _ => h.tracks.radio hc.1⟩
        intro d hd
        rcases ClassSet.mem_insert.1 hd with rfl | hd
        · exact hc.2
        · exact h.tracks.subset d hd
      · have htok : { s with connected := s.connected.insert c }.Tokens :=
          ⟨h.tokens.sorted, h.tokens.bound, h.tokens.token, h.tokens.noToken, h.tokens.barrier⟩
        exact (htok.emit _).enter hne (by decide)
  · exact h

theorem Sound.radioReported (h : s.Sound) (radio : Radio) : (s.radioReported radio).Sound := by
  unfold Switch.radioReported
  split
  · exact h
  · have htok : { s with radio := radio }.Tokens :=
      ⟨h.tokens.sorted, h.tokens.bound, h.tokens.token, h.tokens.noToken, h.tokens.barrier⟩
    simp only
    split
    · exact ⟨Tracks.beginRelease h.tracks.subset, ((htok.emit _).emit _).beginRelease⟩
    · next hoff =>
      refine ⟨(Tracks.emit (Tracks.emit ?_ _) _), (htok.emit _).emit _⟩
      refine ⟨h.tracks.subset, h.tracks.idle, h.tracks.live, h.tracks.acquiring,
        h.tracks.active, h.tracks.parked, ?_⟩
      intro hl
      have hl' : s.phase.isLive = true := hl
      by_contra hr
      exact hoff ⟨by simpa using hr, hl'⟩

/-- Every signal keeps a switch sound. -/
theorem Sound.hear (h : s.Sound) (signal : Signal) : (s.hear signal).Sound := by
  cases signal with
  | completed token fault =>
    unfold Switch.hear
    simp only
    split
    · exact h
    · next command hlook =>
      exact (h.finish fault (mem_of_lookup_eq_some hlook)).publishChange _
  | classConnected c => exact (h.classConnected c).publishChange _
  | radio state => exact (h.radioReported state).publishChange _

/-- Emptying the outbox keeps a switch sound. -/
theorem Sound.drain (h : s.Sound) : s.drain.2.Sound :=
  ⟨⟨h.tracks.subset, h.tracks.idle, h.tracks.live, h.tracks.acquiring, h.tracks.active,
    h.tracks.parked, h.tracks.radio⟩,
    ⟨h.tokens.sorted, h.tokens.bound, h.tokens.token, h.tokens.noToken, h.tokens.barrier⟩⟩

/-- A switch that has just started is sound. -/
theorem sound_start (t : Tenant) (arbitrated : Bool) :
    (Station.start t arbitrated : Station ρ Unit).switch.Sound where
  tracks := ⟨fun c hc => absurd hc (ClassSet.not_mem_empty c), fun _ c => ClassSet.not_mem_empty c,
    nofun, nofun, nofun, fun hp => absurd rfl hp, nofun⟩
  tokens := ⟨List.Pairwise.nil, nofun, nofun, fun _ => rfl, nofun⟩

end Switch

end DataPath
