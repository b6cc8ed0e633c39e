import DataPath.Proofs.Service.Lines
import DataPath.Proofs.Service.Promises

/-!
# What always holds

Everything that is known of a running service is put together here.  The service is wired, the
records of the arbiter are in order and nothing is left to be settled, the grants under way are
the outstanding ones, only the owner may move, a request to clean up is not forgotten, and every
switch has its line to the modem (`Invariant`).

It holds at the start, and every input and every move preserve it, so that it holds in every
state that can be reached (`Reachable.invariant`).
-/

namespace DataPath.Service

/-- What holds of the service in every state. -/
structure Invariant (s : Service) : Prop where
  wired : s.Wired
  orderly : s.arbiter.Orderly
  settled : s.arbiter.Settled
  counted : Counted s s.arbiter
  owned : Owned s s.arbiter
  promised : Promised s s.arbiter
  lined : Lined s

variable {s s' : Service}

/-- Nothing depends on the time, the turns, or what has left the service. -/
theorem Invariant.aside (h : Invariant s) (clock : Nat) (turns : List Party) (nextObserver : Nat)
    (journal : Journal) :
    Invariant { s with
      clock := clock
      turns := turns
      nextObserver := nextObserver
      journal := journal } where
  wired :=
    { modem := h.wired.modem
      arbiter := h.wired.arbiter
      outbox := h.wired.outbox
      nonempty := h.wired.nonempty
      length := h.wired.length
      posts := h.wired.posts
      sinks := h.wired.sinks
      jobs := h.wired.jobs
      controls := h.wired.controls
      commands := h.wired.commands }
  orderly := h.orderly
  settled := h.settled
  counted := h.counted
  owned := ⟨h.owned.mirror, h.owned.busy, h.owned.mail, h.owned.guarded⟩
  promised := h.promised
  lined := ⟨h.lined.line, h.lined.bare, h.lined.lawful⟩

theorem Invariant.still (h : Invariant s) : Invariant s.still := h.aside s.clock [] 0 {}

theorem Invariant.of_still (h : Invariant s.still) : Invariant s :=
  h.aside s.clock s.turns s.nextObserver s.journal

theorem Invariant.later (h : Invariant s) (time : Nat) : Invariant (s.later time) :=
  h.aside _ s.turns s.nextObserver s.journal

theorem Invariant.moveClock (h : Invariant s) (time : Nat) : Invariant (s.moveClock time) := by
  refine Invariant.of_still ?_
  have hstill : (s.moveClock time).still = (s.later time).still := by
    unfold Service.moveClock
    rw [still_wake]
    rfl
  rw [hstill]
  exact (h.later time).still

/-- What the arbiter sees of a switch follows the notices, as long as it does not become idle. -/
theorem Invariant.follows (h : Invariant s) {n : Notice} {rest : List Notice}
    (hnotices : s.notices = n :: rest) (hidle : ∀ t replaying, n ≠ .enteredIdle t replaying)
    {p : Phase} (hp : s.arbiter.phaseOf? n.tenant = some p) : p.Follows (n.after p) := by
  have hknown : s.arbiter.knows n.tenant = true := by
    obtain ⟨m, hm, -⟩ := Option.map_eq_some_iff.1 hp
    exact Arbiter.knows_of_lastSeen hm
  obtain ⟨post, hpost⟩ := Wired.exists_post ((h.wired.knows_iff n.tenant).1 hknown)
  obtain ⟨q, hq, hleads⟩ := h.owned.mirror n.tenant post hpost
  rw [hp, Option.some.injEq] at hq
  subst hq
  rw [hnotices] at hleads
  rcases hleads.1 rfl with hno | hfollows
  · cases n with
    | enteredIdle t replaying => exact absurd rfl (hidle t replaying)
    | _ => cases hno
  · exact hfollows

/-- A move is a change. -/
theorem Invariant.change_of_move (h : Invariant s) {move : Move} (hm : s.move? move = some s') :
    Change s.still s'.still :=
  Service.change_of_move h.wired h.orderly h.settled
    (fun _ _ hnotices hidle _ hp => h.follows hnotices hidle hp) hm

/-- A change of the service leaves the records of the arbiter in order. -/
theorem orderly_of_change (ho : s.arbiter.Orderly) (hs : s.arbiter.Settled) (hch : Change s s') :
    s'.arbiter.Orderly ∧ s'.arbiter.Settled := by
  cases hch with
  | heard | read | subscribed | executed | tuned | steered | asked | brought | settled =>
    exact ⟨ho, hs⟩
  | noted _ _ _ hturn | granted _ _ hturn | cleaned _ _ _ hturn | replied _ _ _ _ _ hturn
  | forwarded _ _ _ hturn | passed _ _ _ _ hturn =>
    rw [arbiter_ruled]
    exact ⟨hturn.orderly, hturn.settled⟩

/-- Every change preserves what holds. -/
theorem Invariant.change (h : Invariant s) (hch : Change s s') : Invariant s' where
  wired := h.wired.change hch
  orderly := (orderly_of_change h.orderly h.settled hch).1
  settled := (orderly_of_change h.orderly h.settled hch).2
  counted := h.counted.change h.wired hch
  owned := h.owned.change h.wired h.counted hch
  promised := h.promised.change h.wired hch
  lined := h.lined.change h.wired h.owned hch

/-- Every move preserves what holds. -/
theorem Invariant.move (h : Invariant s) {move : Move} (hm : s.move? move = some s') :
    Invariant s' :=
  (h.still.change (h.change_of_move hm)).of_still

theorem Invariant.step (h : Invariant s) (hs : Step s s') : Invariant s' := by
  obtain ⟨time, move, hm⟩ := hs
  exact (h.later time).move hm

/-- Every input preserves what holds. -/
theorem Invariant.intake (h : Invariant s) (hi : Intake s s') : Invariant s' := by
  have harb : s'.arbiter = s.arbiter := by
    cases hi <;> rfl
  refine ⟨h.wired.intake hi, harb ▸ h.orderly, harb ▸ h.settled, h.counted.intake hi,
    h.owned.intake hi, h.promised.intake hi, h.lined.intake hi⟩

theorem Invariant.accept (h : Invariant s) (number : Nat) {input : Input}
    (hi : input.isOrdinary = true) : Invariant (s.accept number input) :=
  (h.still.intake (intake_of_accept h.wired number hi)).of_still

/-- What holds, holds at the start. -/
theorem Fresh.invariant (h : Fresh s) : Invariant s where
  wired := h.wired
  orderly :=
    { free := fun _ => ⟨h.pending, h.reacquire, h.cleanupRequested, h.outstanding⟩
      known := fun o ho => by
        rw [h.owner] at ho
        cases ho
      pending := fun p hp => by
        rw [h.pending] at hp
        cases hp
      nodup := by
        rw [h.outstanding]
        exact List.nodup_nil
      issued := fun g hg => by
        rw [h.outstanding] at hg
        cases hg }
  settled := Arbiter.settled_of_free h.owner
  counted := h.counted
  owned := h.owned
  promised o ho := by
    rw [h.owner] at ho
    cases ho
  lined := h.lined

/-- What always holds. -/
theorem Reachable.invariant {config : ArbiterConfig} {modem : ModemConfig}
    (h : Reachable config modem s) : Invariant s := by
  induction h with
  | start hstart => exact (fresh_start hstart).invariant
  | accept _ number input hordinary ih => exact ih.accept number hordinary
  | wait _ time ih => exact ih.moveClock time
  | pass _ turns ih => exact ih.aside _ turns _ _
  | step _ hs ih => exact ih.step hs

end DataPath.Service
