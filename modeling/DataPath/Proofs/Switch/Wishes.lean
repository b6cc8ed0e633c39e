import DataPath.Proofs.Switch.Step

/-!
# What a switch wants of the modem

The commands of a switch are words on classes: up, down, or everything down.  The last word
on a class decides (`Command.lastWord`), whatever was said before.

A switch that is live has had the last word said in favour of every class that it tracks.
One that is idle has no command to bring up a class in flight.  And a release waits for a
force-idle that was submitted when the switch was live for the last time.  How a single
request and a single signal keep this up is said here by `Advances` and `Minds`, of the
phase, the classes and the new commands; the modem comes in only later.
-/

namespace DataPath

namespace Command

/-- Whether a class is wanted up after a command, if it was wanted before or not. -/
def word (c : DataClass) (up : Bool) : Command → Bool
  | .enable d => up || d = c
  | .disable d => up && d ≠ c
  | .forceIdle => false

/-- Whether a class is wanted up after some commands. -/
def lastWord (c : DataClass) (up : Bool) (cs : List Command) : Bool := cs.foldl (word c) up

@[simp] theorem lastWord_nil (c : DataClass) (up : Bool) : lastWord c up [] = up := rfl

@[simp] theorem lastWord_cons (c : DataClass) (up : Bool) (w : Command) (cs : List Command) :
    lastWord c up (w :: cs) = lastWord c (word c up w) cs := rfl

theorem lastWord_append (c : DataClass) (up : Bool) (cs ds : List Command) :
    lastWord c up (cs ++ ds) = lastWord c (lastWord c up cs) ds := List.foldl_append

theorem word_mono {c : DataClass} {up up' : Bool} (h : up = true → up' = true) {w : Command}
    (hw : word c up w = true) : word c up' w = true := by
  cases w with
  | enable d =>
    simp only [word, Bool.or_eq_true] at hw ⊢
    exact hw.imp_left h
  | disable d =>
    simp only [word, Bool.and_eq_true] at hw ⊢
    exact hw.imp_left h
  | forceIdle => cases hw

/-- It does not hurt if a class was wanted up before. -/
theorem lastWord_mono {c : DataClass} {up up' : Bool} (h : up = true → up' = true)
    {cs : List Command} (hcs : lastWord c up cs = true) : lastWord c up' cs = true := by
  induction cs generalizing up up' with
  | nil => exact h hcs
  | cons w cs ih => exact ih (word_mono h) hcs

theorem lastWord_map_enable {c : DataClass} {up : Bool} {ds : List DataClass} :
    lastWord c up (ds.map .enable) = true ↔ up = true ∨ c ∈ ds := by
  induction ds generalizing up with
  | nil => simp
  | cons d ds ih =>
    rw [List.map_cons, lastWord_cons, ih, List.mem_cons]
    simp only [word, Bool.or_eq_true, decide_eq_true_eq]
    rw [or_assoc, @eq_comm _ d c]

end Command

namespace Switch

variable {ρ : Type} {s s' : Switch ρ} {new : List (Nat × Command)}

/-- A release waits for the force-idle that it waited for before, or for a new one. -/
def Awaits (s s' : Switch ρ) (new : List (Nat × Command)) : Prop :=
  s'.phase = .releasing →
    (s.phase = .releasing ∧ s'.releaseToken = s.releaseToken ∧ new = []) ∨
    (s.phase.isLive = true ∧ ∃ k, s'.releaseToken = some k ∧ (k, .forceIdle) ∈ new)

/-- How a request moves a switch on, with the new commands. -/
structure Advances (s s' : Switch ρ) (new : List (Nat × Command)) : Prop where
  idle : s'.phase = .idle → s.phase = .idle ∧ ∀ e ∈ new, e.2 = .forceIdle
  awaits : Awaits s s' new
  live : s'.phase.isLive = true → ∀ c ∈ s'.classes,
    Command.lastWord c (s.phase.isLive ∧ c ∈ s.classes) (new.map Prod.snd) = true ∧
      ((∃ k, (k, .enable c) ∈ new) ∨
        s.phase.isLive = true ∧ c ∈ s.classes ∧ (c ∈ s.connected → c ∈ s'.connected))

/-- How a signal moves a switch on, with the new commands. -/
structure Minds (s : Switch ρ) (signal : Signal) (s' : Switch ρ) (new : List (Nat × Command)) :
    Prop where
  idle : s'.phase = .idle → new = [] ∧
    (s.phase = .idle ∨ ∃ k fault, signal = .completed k fault ∧ s.releaseToken = some k)
  awaits : Awaits s s' new
  live : s'.phase.isLive = true → s.phase.isLive = true ∧ signal ≠ .radio .off ∧ new = [] ∧
    ∀ c ∈ s'.classes, c ∈ s.classes ∧ (c ∈ s.connected → c ∈ s'.connected) ∧
      (signal = .classConnected c → c ∈ s'.connected) ∧
      ∀ k f, signal = .completed k (some f) → (k, .enable c) ∉ s.inflight

/-- Nothing is submitted and the phase, the classes and the release token stay. -/
theorem Advances.same (hphase : s'.phase = s.phase) (hclasses : s'.classes = s.classes)
    (hconn : s'.connected = s.connected) (htoken : s'.releaseToken = s.releaseToken) :
    Advances s s' [] where
  idle h := ⟨hphase ▸ h, by simp⟩
  awaits h := .inl ⟨hphase ▸ h, htoken, rfl⟩
  live h c hc := by
    rw [hphase] at h
    rw [hclasses] at hc
    exact ⟨by simp [h, hc], .inr ⟨h, hc, fun hd => hconn ▸ hd⟩⟩

/-- A live switch starts a release. -/
theorem Advances.release (hlive : s.phase.isLive = true) (hphase : s'.phase = .releasing)
    {k : Nat} (htoken : s'.releaseToken = some k) (hmem : (k, .forceIdle) ∈ new) :
    Advances s s' new where
  idle h := by
    rw [hphase] at h
    cases h
  awaits _ := .inr ⟨hlive, k, htoken, hmem⟩
  live h := by
    rw [hphase] at h
    cases h

/-- A switch that is live afterwards, where every class is covered. -/
theorem Advances.live' (hphase : s'.phase.isLive = true)
    (h : ∀ c ∈ s'.classes,
      Command.lastWord c (s.phase.isLive ∧ c ∈ s.classes) (new.map Prod.snd) = true ∧
        ((∃ k, (k, .enable c) ∈ new) ∨
          s.phase.isLive = true ∧ c ∈ s.classes ∧ (c ∈ s.connected → c ∈ s'.connected))) :
    Advances s s' new where
  idle hidle := absurd hidle (Phase.isLive_iff.1 hphase).1
  awaits hrel := absurd hrel (Phase.isLive_iff.1 hphase).2
  live _ := h

/-! ## Requests -/

theorem track_inflight (s : Switch ρ) (c : DataClass) :
    (s.track c).inflight = s.inflight ++ [(s.nextToken, .enable c)] := rfl

/-- A class is tracked, and its command submitted. -/
theorem Advances.track (c : DataClass) (hphase : s'.phase.isLive = true)
    (hclasses : s'.classes = s.classes.insert c) (hconn : s'.connected = s.connected)
    (hsub : s.phase.isLive = true ∨ s.classes = ∅) :
    Advances s s' [(s.nextToken, .enable c)] := by
  refine Advances.live' hphase fun d hd => ?_
  rw [hclasses, ClassSet.mem_insert] at hd
  rcases hd with rfl | hd
  · exact ⟨by simp [Command.word], .inl ⟨_, List.mem_cons_self⟩⟩
  · rcases hsub with hlive | hempty
    · exact ⟨by simp [Command.word, hlive, hd], .inr ⟨hlive, hd, fun h => hconn ▸ h⟩⟩
    · rw [hempty] at hd
      exact absurd hd (ClassSet.not_mem_empty d)

theorem advances_connect (h : s.Sound) (harb : s.arbitrated = true) (id : Nat) (c : DataClass)
    (handle : Option ρ) (grant : Option Grant) :
    ∃ new, (s.connect id c handle grant).inflight = s.inflight ++ new ∧
      Advances s (s.connect id c handle grant) new := by
  rcases connect_cases harb id c handle grant with ⟨o, heq⟩ | ⟨-, heq⟩ | ⟨-, -, heq⟩ |
    ⟨hp, -, -, heq⟩ | ⟨hp, -, heq⟩
  · rw [heq, answer_eq]
    exact ⟨[], by simp, .same rfl rfl rfl rfl⟩
  · rw [heq]
    exact ⟨[], by simp, .same rfl rfl rfl rfl⟩
  · rw [heq]
    exact ⟨[], by simp [emit], .same rfl rfl rfl rfl⟩
  · rw [heq, answer_eq, enter_eq]
    refine ⟨_, s.track_inflight c, Advances.track c rfl rfl rfl (.inr ?_)⟩
    exact ClassSet.eq_empty_iff.2 (h.tracks.idle hp)
  · rw [heq, answer_eq]
    exact ⟨_, s.track_inflight c, Advances.track c hp rfl rfl (.inl hp)⟩

/-- After a live switch has forgotten a class, it settles: nothing more is submitted, or a
release starts. -/
theorem settle_wishes (s : Switch ρ) :
    ∃ new, s.settle.inflight = s.inflight ++ new ∧
      ((new = [] ∧ s.settle.phase = .acquiring ∨ new = [] ∧ s.settle.phase = s.phase) ∧
          s.settle.classes = s.classes ∧ s.settle.connected = s.connected ∨
        s.settle.phase = .releasing ∧ s.settle.releaseToken = some s.nextToken ∧
          new = [(s.nextToken, .forceIdle)]) := by
  rcases s.settle_cases with ⟨-, heq⟩ | ⟨-, heq⟩ | ⟨-, heq⟩
  · rw [heq, beginRelease_eq]
    exact ⟨_, rfl, .inr ⟨rfl, rfl, rfl⟩⟩
  · rw [heq, enter_eq]
    exact ⟨[], by simp, .inl ⟨.inl ⟨rfl, rfl⟩, rfl, rfl⟩⟩
  · rw [heq]
    exact ⟨[], by simp, .inl ⟨.inr ⟨rfl, rfl⟩, rfl, rfl⟩⟩

theorem advances_disconnect (s : Switch ρ) (c : DataClass) :
    ∃ new, (s.disconnect c).1.inflight = s.inflight ++ new ∧
      Advances s (s.disconnect c).1 new := by
  unfold disconnect
  split
  · next hc =>
    obtain ⟨new, hin, hcase⟩ := settle_wishes ((s.untrack c).submit (.disable c))
    refine ⟨(s.nextToken, .disable c) :: new, ?_, ?_⟩
    · simp only
      rw [hin]
      simp [submit, untrack, emit]
    · rcases hcase with ⟨hkeep, hclasses, hconn⟩ | ⟨hphase, htoken, rfl⟩
      · have hnew : new = [] := hkeep.elim And.left And.left
        have hlive : ((s.untrack c).submit (.disable c)).settle.phase.isLive = true := by
          rcases hkeep with ⟨-, h⟩ | ⟨-, h⟩
          · rw [h]
            rfl
          · rw [h]
            exact hc.1
        subst hnew
        refine Advances.live' hlive fun d hd => ?_
        simp only at hd
        rw [hclasses] at hd
        obtain ⟨hne, hd⟩ := ClassSet.mem_erase.1 hd
        refine ⟨by simp [Command.word, hc.1, hd, Ne.symm hne], .inr ⟨hc.1, hd, fun hcon => ?_⟩⟩
        simp only
        rw [hconn]
        exact ClassSet.mem_erase.2 ⟨hne, hcon⟩
      · exact Advances.release hc.1 hphase htoken (by simp)
  · exact ⟨[], by simp, .same rfl rfl rfl rfl⟩

theorem advances_retryConnect (s : Switch ρ) :
    ∃ new, s.retryConnect.1.inflight = s.inflight ++ new ∧ Advances s s.retryConnect.1 new := by
  unfold retryConnect
  split
  · exact ⟨[], by simp, .same rfl rfl rfl rfl⟩
  · next hlive =>
    split
    · exact ⟨[], by simp, .same rfl rfl rfl rfl⟩
    · obtain ⟨ds, -, heq⟩ := exists_foldl_retry_eq s s.waiting.toList
      have hlive' : s.phase.isLive = true := by simpa using hlive
      simp only [heq, foldl_submit_eq]
      refine ⟨_, rfl, Advances.live' hlive' fun c hc => ?_⟩
      have hc' : c ∈ s.classes := hc
      rw [map_snd_numbered]
      exact ⟨Command.lastWord_map_enable.2 (.inl (by simp [hlive', hc'])),
        .inr ⟨hlive', hc', fun h => h⟩⟩

theorem advances_cleanupAll (s : Switch ρ) :
    ∃ new, s.cleanupAll.1.inflight = s.inflight ++ new ∧ Advances s s.cleanupAll.1 new := by
  have hrelease : s.phase.isLive = true → Advances s s.beginRelease [(s.nextToken, .forceIdle)] := by
    intro hlive
    rw [beginRelease_eq]
    exact Advances.release hlive rfl rfl List.mem_cons_self
  have hin : s.beginRelease.inflight = s.inflight ++ [(s.nextToken, .forceIdle)] := by
    rw [beginRelease_eq]
  unfold cleanupAll
  split
  · next hp =>
    refine ⟨[(s.nextToken, .forceIdle)], rfl, fun _ => ⟨hp, by simp⟩, fun hrel => ?_, fun hl => ?_⟩
    · have hrel' : s.phase = .releasing := hrel
      rw [hp] at hrel'
      cases hrel'
    · have hl' : s.phase.isLive = true := hl
      rw [hp] at hl'
      cases hl'
  · next hp => exact ⟨_, hin, hrelease (by rw [hp]; rfl)⟩
  · next hp => exact ⟨_, hin, hrelease (by rw [hp]; rfl)⟩
  · exact ⟨[], by simp, .same rfl rfl rfl rfl⟩

/-- What every request does to the phase, the classes and the commands. -/
theorem advances_handle (h : s.Sound) (harb : s.arbitrated = true) (id : Nat) (request : Request)
    (handle : Option ρ) :
    ∃ new, (s.handle id request handle).inflight = s.inflight ++ new ∧
      Advances s (s.handle id request handle) new := by
  have hserve : ∃ new, (s.serve id request handle).inflight = s.inflight ++ new ∧
      Advances s (s.serve id request handle) new := by
    cases request with
    | connect c => exact advances_connect h harb id c handle none
    | acquire c g => exact advances_connect h harb id c handle (some g)
    | disconnect c =>
      unfold serve
      simp only [answer_eq]
      obtain ⟨new, hin, hadv⟩ := s.advances_disconnect c
      exact ⟨new, hin, hadv.idle, hadv.awaits, hadv.live⟩
    | retryConnect =>
      unfold serve
      simp only [answer_eq]
      obtain ⟨new, hin, hadv⟩ := s.advances_retryConnect
      exact ⟨new, hin, hadv.idle, hadv.awaits, hadv.live⟩
    | cleanupAll =>
      unfold serve
      simp only [answer_eq]
      obtain ⟨new, hin, hadv⟩ := s.advances_cleanupAll
      exact ⟨new, hin, hadv.idle, hadv.awaits, hadv.live⟩
    | isIdle | isIdleOrReleasing | snapshot =>
      unfold serve
      simp only [answer_eq]
      exact ⟨[], by simp, .same rfl rfl rfl rfl⟩
  obtain ⟨new, hin, hadv⟩ := hserve
  unfold Switch.handle
  rw [publishChange_eq]
  exact ⟨new, hin, hadv.idle, hadv.awaits, hadv.live⟩

/-! ## Signals -/

/-- Nothing is submitted and the phase, the classes and the release token stay, and the
signal does not ask for more. -/
theorem Minds.same {signal : Signal} (hphase : s'.phase = s.phase) (hclasses : s'.classes = s.classes)
    (hconn : s'.connected = s.connected) (htoken : s'.releaseToken = s.releaseToken)
    (hlive : s.phase.isLive = true → signal ≠ .radio .off ∧ ∀ c ∈ s.classes,
      (signal = .classConnected c → c ∈ s.connected) ∧
        ∀ k f, signal = .completed k (some f) → (k, .enable c) ∉ s.inflight) :
    Minds s signal s' [] where
  idle h := ⟨rfl, .inl (hphase ▸ h)⟩
  awaits h := .inl ⟨hphase ▸ h, htoken, rfl⟩
  live h := by
    rw [hphase] at h
    obtain ⟨hoff, hc⟩ := hlive h
    refine ⟨h, hoff, rfl, fun c hmem => ?_⟩
    rw [hclasses] at hmem
    rw [hconn]
    exact ⟨hmem, fun h => h, (hc c hmem).1, (hc c hmem).2⟩

/-- A live switch starts a release. -/
theorem Minds.release {signal : Signal} (hlive : s.phase.isLive = true)
    (hphase : s'.phase = .releasing) {k : Nat} (htoken : s'.releaseToken = some k) :
    Minds s signal s' [(k, .forceIdle)] where
  idle h := by
    rw [hphase] at h
    cases h
  awaits _ := .inr ⟨hlive, k, htoken, List.mem_cons_self⟩
  live h := by
    rw [hphase] at h
    cases h

/-- A command to bring up a class has failed, and the class is forgotten. -/
theorem minds_failed (h : s.Sound) {token : Nat} {c : DataClass} {f : ModemFault}
    (hmem : (token, .enable c) ∈ s.inflight) :
    ∃ new, ((s.without token).finish token (.enable c) (some f)).inflight =
        (s.without token).inflight ++ new ∧
      Minds s (.completed token (some f))
        ((s.without token).finish token (.enable c) (some f)) new := by
  have hother : ∀ d, d ≠ c → ∀ k f', Signal.completed token (some f) = .completed k (some f') →
      (k, .enable d) ∉ s.inflight := by
    intro d hd k f' heq hmem'
    simp only [Signal.completed.injEq, Option.some.injEq] at heq
    rw [← heq.1] at hmem'
    have heq' := h.tokens.command_unique hmem hmem'
    simp only [Command.enable.injEq] at heq'
    exact hd heq'.symm
  unfold finish
  simp only
  split
  · next hlive =>
    obtain ⟨new, hin, hcase⟩ := settle_wishes (((s.without token).untrack c).emit
      (.event (.requestFailed s.tenant (some c) (.transport f))))
    refine ⟨new, by simpa [emit, untrack] using hin, ?_⟩
    rcases hcase with ⟨hkeep, hclasses, hconn⟩ | ⟨hphase, htoken, rfl⟩
    · have hlive' : (((s.without token).untrack c).emit
          (.event (.requestFailed s.tenant (some c) (.transport f)))).settle.phase.isLive = true := by
        rcases hkeep with ⟨-, h⟩ | ⟨-, h⟩
        · rw [h]
          rfl
        · rw [h]
          exact hlive.2
      have hnew : new = [] := hkeep.elim And.left And.left
      refine ⟨fun hi => absurd hi (Phase.isLive_iff.1 hlive').1,
        fun hr => absurd hr (Phase.isLive_iff.1 hlive').2,
        fun _ => ⟨hlive.2, by simp, hnew, fun d hd => ?_⟩⟩
      simp only [without_tenant] at hd
      rw [hclasses] at hd
      obtain ⟨hne, hd⟩ := ClassSet.mem_erase.1 hd
      refine ⟨hd, fun hcon => ?_, by simp, hother d hne⟩
      simp only [without_tenant]
      rw [hconn]
      exact ClassSet.mem_erase.2 ⟨hne, hcon⟩
    · exact Minds.release (s := s) hlive.2 hphase htoken
  · refine ⟨[], by simp [emit, untrack], fun hi => ⟨rfl, .inl hi⟩, fun hr => .inl ⟨hr, rfl, rfl⟩,
      fun hl => ⟨hl, by simp, rfl, fun d hd => ?_⟩⟩
    obtain ⟨hne, hd⟩ := ClassSet.mem_erase.1 hd
    exact ⟨hd, fun hcon => ClassSet.mem_erase.2 ⟨hne, hcon⟩, by simp, hother d hne⟩

/-- What the end of a command does to the phase, the classes and the commands. -/
theorem minds_finish (h : s.Sound) (harb : s.arbitrated = true) {token : Nat} {command : Command}
    (fault : Option ModemFault) (hmem : (token, command) ∈ s.inflight) :
    ∃ new, ((s.without token).finish token command fault).inflight =
        (s.without token).inflight ++ new ∧
      Minds s (.completed token fault) ((s.without token).finish token command fault) new := by
  have hother : (∀ c, command = .enable c → fault = none) → ∀ c, ∀ k f,
      Signal.completed token fault = .completed k (some f) → (k, .enable c) ∉ s.inflight := by
    intro hno c k f heq hmem'
    simp only [Signal.completed.injEq] at heq
    rw [← heq.1] at hmem'
    have := hno c (h.tokens.command_unique hmem hmem')
    rw [this] at heq
    cases heq.2
  have hsame : ∀ {s' : Switch ρ}, (∀ c, command = .enable c → fault = none) →
      s'.phase = s.phase → s'.classes = s.classes → s'.connected = s.connected →
      s'.releaseToken = s.releaseToken → Minds s (.completed token fault) s' [] :=
    fun hno h1 h2 h3 h4 => .same h1 h2 h3 h4 fun _ => ⟨by simp, fun c _ => ⟨by simp, hother hno c⟩⟩
  cases command with
  | enable c =>
    cases fault with
    | none => exact ⟨[], by simp [finish], hsame (fun _ _ => rfl) rfl rfl rfl rfl⟩
    | some f => exact minds_failed h hmem
  | disable c =>
    cases fault with
    | none => exact ⟨[], by simp [finish], hsame (fun _ _ => rfl) rfl rfl rfl rfl⟩
    | some f => exact ⟨[], by simp [finish, emit], hsame (by simp) rfl rfl rfl rfl⟩
  | forceIdle =>
    unfold finish
    simp only
    split
    · next hrel =>
      have harb' : (s.without token).arbitrated = true := harb
      rw [completeRelease_eq harb' hrel.1]
      refine ⟨[], by simp, fun _ => ⟨rfl, .inr ⟨token, fault, rfl, hrel.2⟩⟩, ?_, ?_⟩
      · intro hr
        cases hr
      · intro hl
        cases hl
    · exact ⟨[], by simp, hsame (by simp) rfl rfl rfl rfl⟩

theorem minds_classConnected (s : Switch ρ) (c : DataClass) :
    ∃ new, (s.classConnected c).inflight = s.inflight ++ new ∧
      Minds s (.classConnected c) (s.classConnected c) new := by
  unfold Switch.classConnected
  split
  · next hc =>
    have hlive : ∀ {s' : Switch ρ}, s'.phase = .active → s'.classes = s.classes →
        (∀ d, d ∈ s.connected ∨ d = c → d ∈ s'.connected) →
        Minds s (.classConnected c) s' [] := by
      intro s' hphase hclasses hconn
      refine ⟨fun hi => ?_, fun hr => ?_, fun _ => ⟨hc.1, by simp, rfl, fun d hd => ?_⟩⟩
      · rw [hphase] at hi
        cases hi
      · rw [hphase] at hr
        cases hr
      · rw [hclasses] at hd
        refine ⟨hd, fun hcon => hconn d (.inl hcon), fun heq => hconn d (.inr ?_), by simp⟩
        simp only [Signal.classConnected.injEq] at heq
        exact heq.symm
    split
    · next hmem =>
      rw [enter_eq]
      refine ⟨[], by simp, hlive rfl rfl fun d hd => ?_⟩
      rcases hd with hd | rfl
      · exact hd
      · exact hmem
    · rw [enter_eq]
      refine ⟨[], by simp [emit], hlive rfl rfl fun d hd => ?_⟩
      exact ClassSet.mem_insert.2 hd.symm
  · next hnot =>
    refine ⟨[], by simp, .same rfl rfl rfl rfl fun hl => ⟨by simp, fun d hd => ⟨fun heq => ?_, by simp⟩⟩⟩
    simp only [Signal.classConnected.injEq] at heq
    rw [← heq] at hd
    exact absurd ⟨hl, hd⟩ hnot

theorem minds_radioReported (h : s.Sound) (radio : Radio) :
    ∃ new, (s.radioReported radio).inflight = s.inflight ++ new ∧
      Minds s (.radio radio) (s.radioReported radio) new := by
  unfold Switch.radioReported
  split
  · next heq =>
    refine ⟨[], by simp, .same rfl rfl rfl rfl fun hl => ⟨?_, fun _ _ => ⟨by simp, by simp⟩⟩⟩
    rintro heq'
    simp only [Signal.radio.injEq] at heq'
    have hon := h.tracks.radio hl
    rw [← heq, heq'] at hon
    cases hon
  · simp only
    split
    · next hoff =>
      rw [beginRelease_eq]
      exact ⟨_, rfl, Minds.release hoff.2 rfl rfl⟩
    · next hnot =>
      refine ⟨[], by simp [emit],
        .same rfl rfl rfl rfl fun hl => ⟨?_, fun _ _ => ⟨by simp, by simp⟩⟩⟩
      rintro heq
      simp only [Signal.radio.injEq] at heq
      exact hnot ⟨by rw [heq]; rfl, hl⟩

/-- What every signal does to the phase, the classes and the commands. -/
theorem minds_hear (h : s.Sound) (harb : s.arbitrated = true) (signal : Signal) :
    ∃ new, (s.hear signal).inflight = (s.ended signal).inflight ++ new ∧
      Minds s signal (s.hear signal) new := by
  have hpublish : ∀ {s₀ s₁ : Switch ρ}, (∃ new, s₁.inflight = s₀.inflight ++ new ∧
      Minds s signal s₁ new) → ∃ new, (s₁.publishChange s.snapshot).inflight = s₀.inflight ++ new ∧
      Minds s signal (s₁.publishChange s.snapshot) new := by
    rintro s₀ s₁ ⟨new, hin, hminds⟩
    rw [publishChange_eq]
    exact ⟨new, hin, hminds.idle, hminds.awaits, hminds.live⟩
  cases signal with
  | completed token fault =>
    unfold Switch.hear ended
    simp only
    split
    · next hlook =>
      rw [without_of_lookup_eq_none hlook]
      refine ⟨[], by simp, .same rfl rfl rfl rfl fun _ => ⟨by simp, fun c _ => ⟨by simp, ?_⟩⟩⟩
      intro k f heq hmem
      simp only [Signal.completed.injEq] at heq
      rw [← heq.1] at hmem
      have := List.lookup_eq_none_iff.1 hlook _ hmem
      simp at this
    · next command hlook =>
      exact hpublish (minds_finish h harb fault (mem_of_lookup_eq_some hlook))
  | classConnected c => exact hpublish (s.minds_classConnected c)
  | radio state => exact hpublish (minds_radioReported h state)

end Switch

end DataPath
