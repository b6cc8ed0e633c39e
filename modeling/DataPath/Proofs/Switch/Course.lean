import DataPath.Proofs.Switch.Step

/-!
# The course of requests and signals

Here are all the ways that a request (`served`) and a signal (`heeded`) can go at a switch,
arbitrated or not, up to the point where the change is published.  `Step` says what comes of them
for those around an arbitrated switch; this is about the switch itself, and says with each way when
it is taken.

There is not much to them.  A release starts when a live switch has no class left, is told to clean
up or loses its radio; it ends with the end of the command that it waits for.  In between nothing is
submitted, and out of idle there is one way only.
-/

namespace DataPath.Switch

variable {ρ : Type} {s : Switch ρ}

/-! ## Requests -/

/-- The switch that a request leads to. -/
inductive Served (s : Switch ρ) (id : Nat) (handle : Option ρ) : Request → Switch ρ → Prop where
  /-- Nothing is done but to answer. -/
  | answered (request : Request) (body : ReplyBody)
      (hparks : s.phase = .releasing → request.wanted? = none ∨ s.radio.isOff = true) :
      Served s id handle request (s.answer handle id body)
  /-- The connect waits for the end of the release. -/
  | parked {request : Request} (c : DataClass) (hwant : request.wanted? = some c)
      (hphase : s.phase = .releasing) (hradio : s.radio.isOff = false) :
      Served s id handle request { s with parked := s.parked ++ [⟨id, c, handle⟩] }
  /-- The arbiter is asked. -/
  | asked (c : DataClass) (hphase : s.phase = .idle) :
      Served s id handle (.connect c) (s.emit (.askOwnership id c handle))
  /-- The switch leaves idle, if it is arbitrated then with a grant. -/
  | entered {request : Request} (c : DataClass) (hphase : s.phase = .idle)
      (hgrant : s.arbitrated = true → request.isAcquire = true) :
      Served s id handle request
        (((s.track c).enter .acquiring).answer handle id (.outcome .started))
  /-- A live switch takes on one more class. -/
  | tracked {request : Request} (c : DataClass) (hlive : s.phase.isLive = true) :
      Served s id handle request ((s.track c).answer handle id (.outcome .started))
  /-- A live switch lets go of a class. -/
  | dropped (c : DataClass) (hlive : s.phase.isLive = true) :
      Served s id handle (.disconnect c)
        (((s.untrack c).submit (.disable c)).settle.answer handle id (.outcome .started))
  /-- A live switch asks the modem again. -/
  | retried (ds : List DataClass) (hlive : s.phase.isLive = true) :
      Served s id handle .retryConnect
        (((ds.map .enable).foldl submit s).answer handle id (.outcome .started))
  /-- An idle switch tells the modem to let go of everything. -/
  | swept (hphase : s.phase = .idle) :
      Served s id handle .cleanupAll
        ((s.submit .forceIdle).answer handle id (.outcome .alreadyInactive))
  /-- A live switch starts a release. -/
  | released (hlive : s.phase.isLive = true) :
      Served s id handle .cleanupAll (s.beginRelease.answer handle id (.outcome .started))

theorem served_connect (s : Switch ρ) (id : Nat) {request : Request} {c : DataClass}
    (handle : Option ρ) (grant : Option Grant) (hwant : request.wanted? = some c)
    (hgrant : grant = none → request = .connect c)
    (hacquire : grant ≠ none → request.isAcquire = true) :
    Served s id handle request (s.connect id c handle grant) := by
  unfold connect
  split
  · next hoff => exact .answered request _ fun _ => .inr hoff
  · next hon =>
    have hon' : s.radio.isOff = false := by simpa using hon
    split
    · next hp => exact .parked c hwant hp hon'
    · next hp =>
      split
      · next hask =>
        rw [hgrant (by simpa using hask.2)]
        exact .asked c hp
      · next hask =>
        refine .entered c hp fun harb => hacquire ?_
        rintro rfl
        exact hask ⟨harb, rfl⟩
    all_goals
      next hp =>
        have hlive : s.phase.isLive = true := by rw [hp]; rfl
        have hparks : s.phase = .releasing → request.wanted? = none ∨ s.radio.isOff = true :=
          fun hrel => absurd hrel (Phase.isLive_iff.1 hlive).2
        split
        · exact .answered request _ hparks
        · split
          · exact .answered request _ hparks
          · exact .tracked c hlive

/-- What a request leads to, before the change is published. -/
theorem served (s : Switch ρ) (id : Nat) (request : Request) (handle : Option ρ) :
    Served s id handle request (s.serve id request handle) := by
  have hanswered : ∀ {request : Request} (body : ReplyBody), request.wanted? = none →
      Served s id handle request (s.answer handle id body) :=
    fun body hnone => .answered _ body fun _ => .inl hnone
  cases request with
  | connect c => exact s.served_connect id handle none rfl (fun _ => rfl) fun h => absurd rfl h
  | acquire c grant => exact s.served_connect id handle (some grant) rfl nofun fun _ => rfl
  | disconnect c =>
    change Served s id handle _ ((s.disconnect c).1.answer handle id (.outcome (s.disconnect c).2))
    unfold disconnect
    split
    · next hheld => exact .dropped c hheld.1
    · exact hanswered _ rfl
  | retryConnect =>
    change Served s id handle _ (s.retryConnect.1.answer handle id (.outcome s.retryConnect.2))
    unfold retryConnect
    split
    · exact hanswered _ rfl
    · next hlive =>
      split
      · exact hanswered _ rfl
      · obtain ⟨ds, -, heq⟩ := exists_foldl_retry_eq s s.waiting.toList
        simp only [heq]
        exact .retried ds (by simpa using hlive)
  | cleanupAll =>
    change Served s id handle _ (s.cleanupAll.1.answer handle id (.outcome s.cleanupAll.2))
    unfold cleanupAll
    split
    · next hp => exact .swept hp
    · next hp => exact .released (by rw [hp]; rfl)
    · next hp => exact .released (by rw [hp]; rfl)
    · exact hanswered _ rfl
  | isIdle | isIdleOrReleasing | snapshot => exact hanswered _ rfl

/-! ## Signals -/

/-- The switch that a signal leads to. -/
inductive Heeded (s : Switch ρ) : Signal → Switch ρ → Prop where
  /-- Nothing is done. -/
  | ignored (signal : Signal) : Heeded s signal (s.ended signal)
  /-- It is reported that a class could not be taken down. -/
  | reported (token : Nat) (c : DataClass) (f : ModemFault) :
      Heeded s (.completed token (some f))
        ((s.without token).emit (.event (.requestFailed s.tenant (some c) (.transport f))))
  /-- A class could not be brought up, and that is all. -/
  | failed (token : Nat) (c : DataClass) (f : ModemFault) :
      Heeded s (.completed token (some f))
        (((s.without token).untrack c).emit
          (.event (.requestFailed s.tenant (some c) (.transport f))))
  /-- A live switch has lost a class, as it could not be brought up. -/
  | lost (token : Nat) (c : DataClass) (f : ModemFault) (hlive : s.phase.isLive = true) :
      Heeded s (.completed token (some f))
        (((s.without token).untrack c).emit
          (.event (.requestFailed s.tenant (some c) (.transport f)))).settle
  /-- A class that is known to be connected is connected again. -/
  | again (c : DataClass) (hlive : s.phase.isLive = true) :
      Heeded s (.classConnected c) (s.enter .active)
  /-- A class that a live switch wants is connected. -/
  | connected (c : DataClass) (hlive : s.phase.isLive = true) :
      Heeded s (.classConnected c)
        (({ s with connected := s.connected.insert c }.emit
          (.event (.classConnected s.tenant c))).enter .active)
  /-- The radio is in another state. -/
  | radio (state : Radio) :
      Heeded s (.radio state)
        (({ s with radio := state }.emit (.notice (.radioChanged s.tenant s.radio state))).emit
          (.event (.radioChanged s.tenant s.radio state)))
  /-- The radio of a live switch has gone off. -/
  | cut (state : Radio) (hlive : s.phase.isLive = true) :
      Heeded s (.radio state)
        (({ s with radio := state }.emit (.notice (.radioChanged s.tenant s.radio state))).emit
          (.event (.radioChanged s.tenant s.radio state))).beginRelease
  /-- The release is over. -/
  | released (token : Nat) (fault : Option ModemFault) (hphase : s.phase = .releasing)
      (htoken : s.releaseToken = some token) :
      Heeded s (.completed token fault) (s.without token).completeRelease

theorem publishChange_self (s : Switch ρ) : s.publishChange s.snapshot = s := if_pos rfl

theorem heeded_finish (s : Switch ρ) (token : Nat) (command : Command)
    (fault : Option ModemFault) :
    Heeded s (.completed token fault) ((s.without token).finish token command fault) := by
  unfold finish
  split
  · exact .ignored _
  · exact .ignored _
  · next c f =>
    simp only
    split
    · next hheld => exact .lost token c f hheld.2
    · exact .failed token c f
  · next c f => exact .reported token c f
  · split
    · next hrel => exact .released token _ hrel.1 hrel.2
    · exact .ignored _

/-- What a signal leads to, before the change is published. -/
theorem heeded (s : Switch ρ) (signal : Signal) :
    ∃ s₁, Heeded s signal s₁ ∧ s.hear signal = s₁.publishChange s.snapshot := by
  cases signal with
  | completed token fault =>
    unfold hear
    simp only
    split
    · next hnone =>
      refine ⟨_, .ignored _, ?_⟩
      rw [ended, without_of_lookup_eq_none hnone, publishChange_self]
    · next command _ => exact ⟨_, heeded_finish s token command fault, rfl⟩
  | classConnected c =>
    refine ⟨_, ?_, rfl⟩
    unfold classConnected
    split
    · next hheld =>
      split
      · exact .again c hheld.1
      · exact .connected c hheld.1
    · exact .ignored _
  | radio state =>
    refine ⟨_, ?_, rfl⟩
    unfold radioReported
    split
    · exact .ignored _
    · simp only
      split
      · next hoff => exact .cut state hoff.2
      · exact .radio state

end DataPath.Switch
