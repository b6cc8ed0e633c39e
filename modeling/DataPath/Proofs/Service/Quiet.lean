import DataPath.Proofs.Service.Exclusion

/-!
# Nothing is left stuck

When nothing is left to do, nobody waits any more.  Every way of waiting has something under way
that ends it: a release has its command, a parked connect has the release, a grant is somewhere,
a request to clean up will be heard of, and who waits for the owner waits for one of these.  So
in a quiet service the owner is active, every other switch is idle, and the owner has what it
wants.
-/

namespace DataPath.Service

/-- Nothing is left to do: all queues are empty. -/
structure IsQuiet (s : Service) : Prop where
  controls : s.controls = []
  jobs : s.pipeline.jobs = []
  notices : s.notices = []
  tidings : s.tidings = []
  commands : s.commands = []
  errands : s.errands = []
  signals : ∀ t p, s.post? t = some p → p.signals = []
  mailbox : ∀ t p, s.post? t = some p → p.channel.mailbox = []

/-- Nobody waits, and the owner has what it wants. -/
structure Content (s : Service) : Prop where
  pending : s.arbiter.pending = none
  reacquire : s.arbiter.reacquire = ∅
  outstanding : s.arbiter.outstanding = []
  cleanupRequested : s.arbiter.cleanupRequested = false
  /-- No switch is acquiring or releasing. -/
  phase : ∀ t p, s.post? t = some p →
    p.station.switch.phase = .idle ∨ p.station.switch.phase = .active
  parked : ∀ t p, s.post? t = some p → p.station.switch.parked = []
  /-- The owner is the tenant whose switch is active. -/
  owner : ∀ t, s.arbiter.owner = some t ↔
    ∃ p, s.post? t = some p ∧ p.station.switch.phase = .active
  /-- Every other switch is idle. -/
  others : ∀ t p, s.post? t = some p → s.arbiter.owner ≠ some t → p.station.switch.phase = .idle
  /-- Every class that a switch tracks is connected, as the switch knows and on the modem. -/
  connected : ∀ t p, s.post? t = some p → ∀ c ∈ p.station.switch.classes,
    c ∈ p.station.switch.connected ∧ ∃ classes, s.pipeline.modem.connected? t = some classes ∧
      c ∈ classes

variable {s : Service} {t : Tenant} {p : Post}

theorem isQuiet_iff : IsQuiet s ↔ s.controls = [] ∧ s.pipeline.jobs = [] ∧ s.notices = [] ∧
    s.tidings = [] ∧ s.commands = [] ∧ s.errands = [] ∧
    ∀ p ∈ s.posts, p.signals = [] ∧ p.channel.mailbox = [] := by
  constructor
  · intro h
    refine ⟨h.controls, h.jobs, h.notices, h.tidings, h.commands, h.errands, fun p hp => ?_⟩
    obtain ⟨i, hi⟩ := List.mem_iff_getElem?.1 hp
    exact ⟨h.signals ⟨i⟩ p hi, h.mailbox ⟨i⟩ p hi⟩
  · rintro ⟨h1, h2, h3, h4, h5, h6, h7⟩
    exact ⟨h1, h2, h3, h4, h5, h6, fun t p hp => (h7 p (List.mem_of_getElem? hp)).1,
      fun t p hp => (h7 p (List.mem_of_getElem? hp)).2⟩

instance (s : Service) : Decidable (IsQuiet s) := decidable_of_iff _ isQuiet_iff.symm

/-! ## Switches at rest -/

/-- In a quiet service no command is in flight. -/
theorem IsQuiet.inflight (hq : IsQuiet s) (h : Invariant s) (hp : s.post? t = some p) :
    p.station.switch.inflight = [] := by
  obtain ⟨ended, hin, htokens⟩ := (h.lined.line t p hp).order
  have hjobs : s.jobsOf t = [] := by
    unfold jobsOf
    rw [hq.jobs]
    rfl
  rw [hq.signals t p hp] at htokens
  rw [hin, List.map_eq_nil_iff.1 htokens, hjobs, List.append_nil]

/-- A release has its command in flight, so there is none. -/
theorem IsQuiet.ne_releasing (hq : IsQuiet s) (h : Invariant s) (hp : s.post? t = some p) :
    p.station.switch.phase ≠ .releasing := by
  intro hrel
  obtain ⟨k, -, hmem⟩ := (h.lined.line t p hp).sound.tokens.token hrel
  rw [hq.inflight h hp] at hmem
  cases hmem

/-- A connect is parked during a release only. -/
theorem IsQuiet.parked (hq : IsQuiet s) (h : Invariant s) (hp : s.post? t = some p) :
    p.station.switch.parked = [] :=
  (h.lined.line t p hp).sound.tracks.parked_eq_nil (hq.ne_releasing h hp)

/-- A live switch has what it wants. -/
theorem IsQuiet.connected (hq : IsQuiet s) (h : Invariant s) (hp : s.post? t = some p)
    {c : DataClass} (hc : c ∈ p.station.switch.classes) :
    c ∈ p.station.switch.connected ∧ c ∈ s.pipeline.modem.up t := by
  have hline := h.lined.line t p hp
  have hjobs : s.jobsOf t = [] := by
    unfold jobsOf
    rw [hq.jobs]
    rfl
  have hsignals := hq.signals t p hp
  have hlive : p.station.switch.phase.isLive = true := by
    rw [Phase.isLive_iff]
    exact ⟨fun hidle => hline.sound.tracks.idle hidle c hc, hq.ne_releasing h hp⟩
  rw [hjobs, hsignals] at hline
  rcases hline.live hlive nofun c hc with ⟨k, f, hsig, -⟩ | ⟨hup, hwhy⟩
  · cases hsig
  · refine ⟨?_, of_decide_eq_true hup⟩
    rcases hwhy with ⟨k, hk⟩ | hconn | hsig
    · cases hk
    · exact hconn
    · cases hsig

/-- A switch at rest is idle or active. -/
theorem IsQuiet.phase (hq : IsQuiet s) (h : Invariant s) (hp : s.post? t = some p) :
    p.station.switch.phase = .idle ∨ p.station.switch.phase = .active := by
  have htracks := (h.lined.line t p hp).sound.tracks
  cases hphase : p.station.switch.phase with
  | idle => exact .inl rfl
  | active => exact .inr rfl
  | releasing => exact absurd hphase (hq.ne_releasing h hp)
  | acquiring =>
    obtain ⟨c, hc⟩ := htracks.live (by rw [hphase]; rfl)
    exact absurd (hq.connected h hp hc).1 (htracks.acquiring hphase c)

/-! ## The arbiter at rest -/

/-- No grant is anywhere. -/
theorem IsQuiet.outstanding (hq : IsQuiet s) (h : Invariant s) : s.arbiter.outstanding = [] := by
  refine h.counted.eq_nil fun g => ?_
  refine weigh_of_empty _ hq.jobs hq.controls hq.notices hq.tidings hq.commands hq.errands
    fun t p hp => ?_
  unfold Scale.post
  rw [hq.mailbox t p hp, hq.parked h hp, hq.signals t p hp]
  rfl

/-- Nobody was asked to clean up. -/
theorem IsQuiet.cleanupRequested (hq : IsQuiet s) (h : Invariant s) :
    s.arbiter.cleanupRequested = false := by
  by_contra hclean
  have hclean' : s.arbiter.cleanupRequested = true := by simpa using hclean
  cases ho : s.arbiter.owner with
  | none => exact hclean (h.orderly.free ho).2.2.1
  | some o =>
    have hpos := h.promised o ho hclean'
    have hzero : weigh (Scale.promise o) s = 0 := by
      refine weigh_of_empty _ hq.jobs hq.controls hq.notices hq.tidings hq.commands hq.errands
        fun t p hp => ?_
      have hphase : (Scale.promise o).phase p.station.switch.tenant p.station.switch.phase = 0 :=
        if_neg fun hrel => hq.ne_releasing h hp hrel.2
      unfold Scale.post
      rw [hq.mailbox t p hp, hq.parked h hp, hq.signals t p hp, hphase]
      rfl
    omega

/-- An owner is active. -/
theorem IsQuiet.owner_active (hq : IsQuiet s) (h : Invariant s) (ho : s.arbiter.owner = some t) :
    ∃ p, s.post? t = some p ∧ p.station.switch.phase = .active := by
  obtain ⟨p, hp⟩ := Wired.exists_post ((h.wired.knows_iff t).1 (h.orderly.known t ho))
  refine ⟨p, hp, ?_⟩
  rcases hq.phase h hp with hidle | hactive
  · have hseen := h.owned.phase_eq hq.notices hp
    rw [hidle] at hseen
    exact absurd (hq.outstanding h) (h.settled.idle t ho hseen)
  · exact hactive

/-- Nobody waits for the owner. -/
theorem IsQuiet.nobody_waits (hq : IsQuiet s) (h : Invariant s) :
    s.arbiter.pending = none ∧ s.arbiter.reacquire = ∅ := by
  cases ho : s.arbiter.owner with
  | none => exact ⟨(h.orderly.free ho).1, (h.orderly.free ho).2.1⟩
  | some o =>
    by_contra hwait
    have hwaits : s.arbiter.pending ≠ none ∨ s.arbiter.reacquire ≠ ∅ := by
      by_contra hno
      rw [not_or, not_not, not_not] at hno
      exact hwait hno
    rcases h.settled.waits o ho hwaits with hrel | hclean | hout
    · obtain ⟨p, hp, hactive⟩ := hq.owner_active h ho
      rw [h.owned.phase_eq hq.notices hp, hactive] at hrel
      cases hrel
    · rw [hq.cleanupRequested h] at hclean
      cases hclean
    · exact hout (hq.outstanding h)

/-- What always holds leaves nobody waiting in a quiet service. -/
theorem Invariant.content (h : Invariant s) (hq : IsQuiet s) : Content s where
  pending := (hq.nobody_waits h).1
  reacquire := (hq.nobody_waits h).2
  outstanding := hq.outstanding h
  cleanupRequested := hq.cleanupRequested h
  phase _ _ hp := hq.phase h hp
  parked _ _ hp := hq.parked h hp
  owner t := by
    refine ⟨hq.owner_active h, fun ⟨p, hp, hactive⟩ => h.owned.busy t p hp ?_⟩
    rw [hactive]
    simp
  others t p hp hne := by
    by_contra hbusy
    exact hne (h.owned.busy t p hp hbusy)
  connected t p hp c hc := by
    obtain ⟨hconn, hup⟩ := hq.connected h hp hc
    refine ⟨hconn, ?_⟩
    unfold Modem.up at hup
    cases hclasses : s.pipeline.modem.connected? t with
    | none =>
      rw [hclasses] at hup
      exact absurd hup (ClassSet.not_mem_empty c)
    | some classes =>
      rw [hclasses] at hup
      exact ⟨classes, rfl, hup⟩

/-- Nobody is left waiting when nothing is left to do, whatever has happened before. -/
theorem content_of_quiet {config : ArbiterConfig} {modem : ModemConfig}
    (h : Reachable config modem s) (hq : IsQuiet s) : Content s := h.invariant.content hq

/-- Two slots, of which both were asked for: the second has got the data path in the end. -/
theorem content_contended : ∃ s, Reachable {} (promptModem 2) s ∧ IsQuiet s ∧
    s.arbiter.owner = some ⟨1⟩ ∧ Content s := by
  have hstart : Service.start {} (promptModem 2) = .ok (ofConfig {} (promptModem 2)) := rfl
  have hreach := (((Reachable.start hstart).accept 0 (.activate ⟨0⟩ .default) rfl).run.accept 1
    (.activate ⟨1⟩ .mms) rfl).run
  have hend : IsQuiet (((ofConfig {} (promptModem 2)).accept 0 (.activate ⟨0⟩ .default)).run.accept 1
        (.activate ⟨1⟩ .mms)).run ∧
      (((ofConfig {} (promptModem 2)).accept 0 (.activate ⟨0⟩ .default)).run.accept 1
        (.activate ⟨1⟩ .mms)).run.arbiter.owner = some ⟨1⟩ := by decide +kernel
  exact ⟨_, hreach, hend.1, hend.2, content_of_quiet hreach hend.1⟩

end DataPath.Service
