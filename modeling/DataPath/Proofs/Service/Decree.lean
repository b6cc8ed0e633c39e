import DataPath.Proofs.Service.Invariant

/-!
# What the arbiter does is seen

Two sides of what happens in the service are needed when one looks at the decisions of the
arbiter.

* Nobody but the arbiter touches its records: whatever the modem, the switches and the couriers
  do leaves them alone (`move_arbiter`).
* What the arbiter decides is seen outside: its events are published in order
  (`events_resume`), and its requests stand in the mailboxes of the switches
  (`requests_resume`).
-/

namespace DataPath

/-- The request in a message. -/
def Message.request? {ρ σ : Type} : Message ρ σ → Option Request
  | .request _ r _ => some r
  | _ => none

/-- The event that an action of the arbiter publishes. -/
def Arbiter.Action.event? {κ : Type} : Arbiter.Action κ → Option Event
  | .publish e => some e
  | _ => none

/-- The event that an effect of the arbiter is. -/
def Arbiter.Effect.event? : Arbiter.Effect → Option Event
  | .event e => some e
  | _ => none

/-- The events among effects of the arbiter. -/
def Arbiter.published (es : List Arbiter.Effect) : List Event := es.filterMap Effect.event?

@[simp] theorem Arbiter.published_event (e : Event) (es : List Effect) :
    published (.event e :: es) = e :: published es := rfl

@[simp] theorem Arbiter.published_connectsFrom (t : Tenant) (n : Nat) (cs : List DataClass) :
    published (connectsFrom t n cs) = [] := by
  induction cs generalizing n with
  | nil => rfl
  | cons c cs ih => exact ih (n + 1)

@[simp] theorem Arbiter.published_map_event (f : DataClass → Event) (cs : List DataClass) :
    published (cs.map fun c => .event (f c)) = cs.map f := by
  induction cs with
  | nil => rfl
  | cons c cs ih => exact congrArg (f c :: ·) ih

namespace Service

variable {s s' : Service} {t : Tenant} {a : Arbiter}

/-- The requests that stand in the mailbox of a tenant. -/
def requests (s : Service) (t : Tenant) : List Request :=
  (s.post? t).elim [] fun p => p.channel.mailbox.filterMap Message.request?

/-! ## The records of the arbiter -/

/-- A part of the service has been changed, but neither the records of the arbiter nor what was
published. -/
structure Unseen (s s' : Service) : Prop where
  arbiter : s'.arbiter = s.arbiter
  events : s'.journal.events = s.journal.events

theorem Unseen.refl (s : Service) : Unseen s s := ⟨rfl, rfl⟩

theorem Unseen.trans {s₁ s₂ s₃ : Service} (h : Unseen s₁ s₂) (h' : Unseen s₂ s₃) : Unseen s₁ s₃ :=
  ⟨h'.arbiter.trans h.arbiter, h'.events.trans h.events⟩

theorem unseen_wake (s : Service) (party : Party) : Unseen s (s.wake party) := by
  unfold wake
  split <;> exact ⟨rfl, rfl⟩

theorem unseen_amend (s : Service) (t : Tenant) (f : Post → Post) : Unseen s (s.amend t f) :=
  ⟨rfl, rfl⟩

theorem unseen_dispatch (s : Service) (e : Errand) : Unseen s (s.dispatch e) :=
  (⟨rfl, rfl⟩ : Unseen s { s with errands := s.errands ++ [e] }).trans (unseen_wake _ _)

theorem unseen_answer (s : Service) (client : Client) (answer : Answer) :
    Unseen s (s.answer client answer) := by
  unfold Service.answer
  split
  · exact .refl s
  · exact ⟨rfl, rfl⟩
  · exact unseen_dispatch s _
  · exact .refl s

theorem unseen_reply (s : Service) (caller : Caller) (r : Option Reply) :
    Unseen s (s.reply caller r) := by
  unfold reply
  split
  · exact .refl s
  · exact ⟨rfl, rfl⟩
  · exact ⟨rfl, rfl⟩
  · exact unseen_dispatch s _

theorem unseen_settle (s : Service) (t : Tenant) (tracked : Option Arbiter.Tracked)
    (client : Client) (outcome : Outcome) : Unseen s (s.settle t tracked client outcome) := by
  unfold settle
  refine Unseen.trans ?_ (unseen_answer _ _ _)
  split
  · split
    · refine Unseen.trans ?_ (unseen_wake _ _)
      exact ⟨rfl, rfl⟩
    · exact .refl s
  · exact .refl s

theorem unseen_send (s : Service) (t : Tenant) (request : Request)
    (tracked : Option Arbiter.Tracked) (client : Client) :
    Unseen s (s.send t request tracked client) := by
  unfold send
  split
  · exact unseen_settle s _ _ _ _
  · simp only
    split
    · exact ((unseen_amend s _ _).trans (unseen_wake _ _)).trans (unseen_wake _ _)
    · exact (unseen_amend s _ _).trans (unseen_settle _ _ _ _ _)

theorem unseen_command (s : Service) (c : Arbiter.Command Client) : Unseen s (s.command c) := by
  unfold command
  split
  · exact (⟨rfl, rfl⟩ : Unseen s { s with commands := s.commands ++ [c] }).trans (unseen_wake _ _)
  · split
    · exact unseen_answer s _ _
    · exact .refl s

theorem unseen_signal (s : Service) (sent : List (Modem.Sent Unit)) : Unseen s (s.signal sent) := by
  unfold signal
  induction sent generalizing s with
  | nil => exact .refl s
  | cons x sent ih =>
    rw [List.foldl_cons]
    exact ((unseen_amend s _ _).trans (unseen_wake _ _)).trans (ih _)

/-! ## What everybody else does -/

theorem arbiter_enact (t : Tenant) (s : Service) (action : Station.Action Caller Sink) :
    (enact t s action).arbiter = s.arbiter := by
  unfold enact
  split
  · exact (unseen_wake _ _).arbiter
  · exact (unseen_wake _ _).arbiter
  · rfl
  · rfl
  · exact (unseen_reply s _ _).arbiter
  · exact (unseen_dispatch s _).arbiter
  · rfl
  · rfl
  · rfl

theorem arbiter_proceed (s : Service) (t : Tenant)
    (result : Station Caller Sink × List (Station.Action Caller Sink)) :
    (s.proceed t result).arbiter = s.arbiter := by
  unfold proceed
  have hfold : ∀ (acts : List (Station.Action Caller Sink)) (s : Service),
      (acts.foldl (enact t) s).arbiter = s.arbiter := by
    intro acts
    induction acts with
    | nil => exact fun _ => rfl
    | cons act acts ih => exact fun s => (ih _).trans (arbiter_enact t s act)
  exact hfold result.2 _

theorem arbiter_stopSwitch (s : Service) (t : Tenant) (post : Post) :
    (s.stopSwitch t post).arbiter = s.arbiter := by
  unfold stopSwitch
  simp only
  have hfold : ∀ (lost : List Caller) (s : Service),
      (lost.foldl (fun s caller => s.reply caller none) s).arbiter = s.arbiter := by
    intro lost
    induction lost with
    | nil => exact fun _ => rfl
    | cons caller lost ih => exact fun s => (ih _).trans (unseen_reply s caller none).arbiter
  exact (unseen_wake _ _).arbiter.trans (hfold _ _)

theorem arbiter_control (s : Service) (c : Control) : (s.control c).arbiter = s.arbiter := by
  cases c with
  | radio t state => exact (unseen_signal _ _).arbiter
  | _ => rfl

theorem arbiter_carry (s : Service) (e : Errand) : (s.carry e).arbiter = s.arbiter := by
  cases e with
  | ask t id c caller => exact (unseen_command s _).arbiter
  | answer t id caller outcome => exact (unseen_reply s _ _).arbiter
  | settle t id tracked client outcome => exact (unseen_settle s _ _ _ _).arbiter

/-- Whether a move is one of the arbiter. -/
def Move.isOfArbiter : Move → Bool
  | .notice | .tidings | .command => true
  | _ => false

/-- Nobody but the arbiter touches its records. -/
theorem move_arbiter {move : Move} (hmove : move.isOfArbiter = false)
    (hm : s.move? move = some s') : s'.arbiter = s.arbiter := by
  unfold move? at hm
  cases move with
  | steer =>
    simp only at hm
    split at hm
    · split at hm
      · rw [Option.some.injEq] at hm
        rw [← hm]
        exact arbiter_control _ _
      · cases hm
    · cases hm
  | execute =>
    simp only at hm
    split at hm
    · obtain ⟨x, -, rfl⟩ := Option.map_eq_some_iff.1 hm
      exact (unseen_signal _ _).arbiter
    · cases hm
  | hear t =>
    simp only at hm
    split at hm
    · split at hm
      · split at hm
        · rw [Option.some.injEq] at hm
          rw [← hm]
          exact arbiter_proceed _ _ _
        · cases hm
      · cases hm
    · cases hm
  | read t =>
    simp only at hm
    split at hm
    · obtain ⟨⟨message, channel⟩, -, rfl⟩ := Option.map_eq_some_iff.1 hm
      simp only
      unfold receive
      split
      · exact arbiter_stopSwitch _ _ _
      · exact arbiter_proceed _ _ _
    · cases hm
  | notice | tidings | command => cases hmove
  | carry courier =>
    obtain ⟨⟨e, rest⟩, -, rfl⟩ := Option.map_eq_some_iff.1 hm
    exact arbiter_carry _ _

/-! ## What the arbiter does -/

/-- An action of the arbiter leaves its records alone, and publishes its event. -/
theorem decree_seen (s : Service) (action : Arbiter.Action Client) :
    (s.decree action).arbiter = s.arbiter ∧
      (s.decree action).journal.events = s.journal.events ++ action.event?.toList := by
  cases action with
  | send t request tracked client =>
    have h := unseen_send s t request tracked (client.getD .nobody)
    exact ⟨h.arbiter, by rw [decree, h.events]; simp [Arbiter.Action.event?]⟩
  | publish event => exact ⟨rfl, rfl⟩
  | answer client answer =>
    have h := unseen_answer s client answer
    exact ⟨h.arbiter, by rw [decree, h.events]; simp [Arbiter.Action.event?]⟩

theorem resume_seen (s : Service) (a : Arbiter) (acts : List (Arbiter.Action Client)) :
    (s.resume (a, acts)).arbiter = a ∧
      (s.resume (a, acts)).journal.events = s.journal.events ++ acts.filterMap (·.event?) := by
  have hfold : ∀ (acts : List (Arbiter.Action Client)) (s : Service),
      (acts.foldl decree s).arbiter = s.arbiter ∧
        (acts.foldl decree s).journal.events = s.journal.events ++ acts.filterMap (·.event?) := by
    intro acts
    induction acts with
    | nil => exact fun s => ⟨rfl, by simp⟩
    | cons act acts ih =>
      intro s
      obtain ⟨h1, h2⟩ := decree_seen s act
      obtain ⟨h3, h4⟩ := ih (s.decree act)
      refine ⟨h3.trans h1, ?_⟩
      rw [List.foldl_cons, h4, h2, List.append_assoc]
      cases hact : act.event? <;> simp [hact]
  exact hfold acts { s with arbiter := a }

/-- The arbiter has the records that it has made. -/
theorem arbiter_resume (s : Service) (a : Arbiter) (acts : List (Arbiter.Action Client)) :
    (s.resume (a, acts)).arbiter = a := (resume_seen s a acts).1

/-- The events of the arbiter are published, in order. -/
theorem events_resume (s : Service) (a : Arbiter) (acts : List (Arbiter.Action Client)) :
    (s.resume (a, acts)).journal.events = s.journal.events ++ acts.filterMap (·.event?) :=
  (resume_seen s a acts).2

theorem filterMap_event_perform (new : List Arbiter.Effect) :
    (new.map (Arbiter.perform (κ := Client))).filterMap (·.event?) = Arbiter.published new := by
  unfold Arbiter.published
  rw [List.filterMap_map]
  refine List.filterMap_congr fun e _ => ?_
  cases e <;> rfl

/-- A letter stands in the mailbox of its tenant. -/
theorem requests_amend_take (hp : ∃ p, s.post? t = some p) (l : Letter) :
    (s.amend l.tenant fun post => post.take l).requests t =
      s.requests t ++ if l.tenant = t then [l.request] else [] := by
  obtain ⟨p, hp⟩ := hp
  have hp' : s.posts[t.slot]? = some p := hp
  unfold requests post? amend
  simp only [List.getElem?_modify, hp', Option.map_eq_map, Option.map_some, Option.elim_some]
  by_cases hto : l.tenant = t
  · rw [if_pos hto, if_pos (congrArg Tenant.slot hto)]
    simp [Post.take, Message.request?]
  · rw [if_neg hto, if_neg fun hslot => slot_ne (Ne.symm hto) hslot]
    simp

/-- Letters stand in the mailboxes of their tenants, in order. -/
theorem requests_deliver (hp : ∃ p, s.post? t = some p) (ls : List Letter) :
    (s.deliver ls).requests t =
      s.requests t ++ (ls.filter (·.tenant = t)).map Letter.request := by
  induction ls generalizing s with
  | nil => simp [deliver]
  | cons l ls ih =>
    have hp' : ∃ q, (s.amend l.tenant fun post => post.take l).post? t = some q := by
      obtain ⟨p, hp⟩ := hp
      refine Wired.exists_post ?_
      rw [length_amend]
      exact lt_of_post? hp
    have h := ih hp'
    unfold deliver at h ⊢
    rw [List.foldl_cons, h, requests_amend_take hp]
    by_cases hto : l.tenant = t
    · simp [hto]
    · simp [hto]

end Service

end DataPath
