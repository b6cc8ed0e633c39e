import DataPath.Proofs.Service.Line
import DataPath.Proofs.Service.Ownership

/-!
# All lines at once

Every switch has a `Line` to the modem, and a slot without a switch carries nothing.  As only
the owner is not idle, only the slot of the owner carries data or has a command to bring up a
class, so that the modem finds no reason to count a violation (`Lined`).
-/

namespace DataPath.Service

/-- The commands of a tenant that the modem works on. -/
def jobsOf (s : Service) (t : Tenant) : List (Nat × Command) :=
  (s.pipeline.jobs.filter fun job => job.tenant = t).map fun job => (job.token, job.command)

/-- What holds between the switches and the modem. -/
structure Lined (s : Service) : Prop where
  line : ∀ t p, s.post? t = some p →
    Line p.station.switch p.signals (s.jobsOf t) (s.pipeline.modem.up t)
  bare : ∀ t, s.post? t = none → s.pipeline.modem.up t = ∅
  lawful : s.pipeline.modem.violations = 0

variable {s s' : Service} {t : Tenant} {p : Post}

/-- A line does not depend on the outbox. -/
theorem line_put {sw : Switch Caller} {signals : List Signal} {jobs : List (Nat × Command)}
    {up : ClassSet} (h : Line sw signals jobs up) :
    Line { sw with outbox := [] } signals jobs up where
  sound := by
    obtain ⟨⟨h1, h2, h3, h4, h5, h6, h7⟩, ⟨k1, k2, k3, k4, k5⟩⟩ := h.sound
    exact ⟨⟨h1, h2, h3, h4, h5, h6, h7⟩, ⟨k1, k2, k3, k4, k5⟩⟩
  arbitrated := h.arbitrated
  order := h.order
  idle := h.idle
  held := h.held
  live := h.live

/-- The commands that effects submit go behind the others of the tenant. -/
theorem jobsOf_acted (es : List (Switch.Effect Caller)) (tell : Notice → List Notice) :
    (s.acted t es tell).jobsOf t = s.jobsOf t ++ Switch.submissions es := by
  unfold jobsOf acted
  simp only [List.filter_append, List.map_append]
  congr 1
  rw [List.filter_eq_self.2, List.map_map]
  · exact List.map_id'' (fun _ => rfl) _
  · intro job hjob
    obtain ⟨e, -, rfl⟩ := List.mem_map.1 hjob
    simp

theorem jobsOf_acted_of_ne {u : Tenant} (hu : u ≠ t) (es : List (Switch.Effect Caller))
    (tell : Notice → List Notice) : (s.acted t es tell).jobsOf u = s.jobsOf u := by
  have hnone : ((Switch.submissions es).map fun e => (⟨s.clock + s.pipeline.latency, t, e.1, e.2⟩ :
      Modem.Job)).filter (fun job => job.tenant = u) = [] := by
    refine List.filter_eq_nil_iff.2 fun job hjob => ?_
    obtain ⟨e, -, rfl⟩ := List.mem_map.1 hjob
    simpa using hu.symm
  unfold jobsOf acted
  simp only [List.filter_append]
  rw [hnone, List.append_nil]

/-- A switch has become another one. -/
theorem Lined.after (h : Lined s) (hp : s.post? t = some p) {q : Post} {switch : Switch Caller}
    (hline : Line switch q.signals (s.jobsOf t ++ Switch.submissions switch.outbox)
      (s.pipeline.modem.up t)) : Lined (s.after t q switch) := by
  refine ⟨fun u r hr => ?_, fun u hu => h.bare u ?_, h.lawful⟩
  · rcases post?_of_put hp hr with ⟨rfl, rfl⟩ | ⟨hne, hr⟩
    · have hjobs : (s.after u q switch).jobsOf u =
          s.jobsOf u ++ Switch.submissions switch.outbox :=
        jobsOf_acted (s := s.put u { q with station := q.station.put switch }) _ _
      rw [hjobs]
      exact line_put hline
    · have hjobs : (s.after t q switch).jobsOf u = s.jobsOf u :=
        jobsOf_acted_of_ne (s := s.put t { q with station := q.station.put switch }) hne _ _
      rw [hjobs]
      exact h.line u r hr
  · by_contra hsome
    obtain ⟨r, hr⟩ := Option.ne_none_iff_exists'.1 hsome
    have hlt : u.slot < (s.after t q switch).posts.length := by
      have hlen : (s.after t q switch).posts.length = s.posts.length := length_put s t _
      rw [hlen]
      exact lt_of_post? hr
    obtain ⟨r', hr'⟩ := Wired.exists_post hlt
    rw [hu] at hr'
    cases hr'

theorem Lined.heard (h : Lined s) (hw : s.Wired) {signal : Signal} {rest : List Signal}
    (hp : s.post? t = some p) (hsig : p.signals = signal :: rest) :
    Lined (s.after t { p with signals := rest } (p.station.switch.hear signal)) := by
  have hwired := hw.posts t p hp
  obtain ⟨-, -, hin, -⟩ := hear_cases hwired.arbitrated hwired.outbox signal
  have hline := h.line t p hp
  rw [hsig] at hline
  exact h.after hp (hline.hear hin)

theorem Lined.read (h : Lined s) (hw : s.Wired) {id : Nat} {request : Request}
    {handle : Option Caller} {rest : List (Message Caller Sink)} (hp : s.post? t = some p) :
    Lined (s.after t (p.unread rest) (p.station.switch.handle id request handle)) := by
  have hwired := hw.posts t p hp
  obtain ⟨-, -, hin, -⟩ := read_cases hwired.arbitrated hwired.outbox id request handle
  exact h.after hp ((h.line t p hp).handle id request handle hin)

/-- Posts that change without their switches and signals. -/
theorem Lined.of_posts (h : Lined s) (hpipeline : s'.pipeline = s.pipeline)
    (hlen : s'.posts.length = s.posts.length)
    (hposts : ∀ t r, s'.post? t = some r → ∃ p, s.post? t = some p ∧
      r.station.switch = p.station.switch ∧ r.signals = p.signals) : Lined s' := by
  refine ⟨fun u r hr => ?_, fun u hu => ?_, hpipeline ▸ h.lawful⟩
  · obtain ⟨p, hp, hswitch, hsignals⟩ := hposts u r hr
    have hline := h.line u p hp
    unfold jobsOf at hline ⊢
    rw [hswitch, hsignals, hpipeline]
    exact hline
  · rw [hpipeline]
    refine h.bare u ?_
    unfold post? at hu ⊢
    rw [List.getElem?_eq_none_iff] at hu ⊢
    omega

/-- The arbiter makes a turn. -/
theorem Lined.ruled {s₀ : Service} (h : Lined s) (hposts : s₀.posts = s.posts)
    (hpipeline : s₀.pipeline = s.pipeline) (a : Arbiter) (ls : List Letter) (es : List Errand) :
    Lined (s₀.ruled a ls es) := by
  have hlen : (s₀.ruled a ls es).posts.length = s.posts.length := by
    rw [← hposts]
    exact length_deliver { s₀ with arbiter := a } ls
  refine h.of_posts ?_ hlen fun u r hr => ?_
  · rw [ruled_eq]
    exact hpipeline
  · obtain ⟨p, nextId, more, hp, rfl, -⟩ := post?_of_ruled hr
    unfold post? at hp
    rw [hposts] at hp
    exact ⟨p, hp, rfl, rfl⟩

/-- A slot that carries data is the owner's. -/
theorem Lined.owner_of_up (h : Lined s) (ho : Owned s s.arbiter) {c : DataClass}
    (hup : c ∈ s.pipeline.modem.up t) : s.arbiter.owner = some t := by
  cases hp : s.post? t with
  | none =>
    rw [h.bare t hp] at hup
    exact absurd hup (ClassSet.not_mem_empty c)
  | some p =>
    refine ho.busy t p hp fun hidle => ?_
    rcases (h.line t p hp).held ⟨c, hup⟩ with hlive | ⟨hrel, -⟩
    · exact (Phase.isLive_iff.1 hlive).1 hidle
    · rw [hidle] at hrel
      cases hrel

/-- A command to bring up a class is the owner's. -/
theorem Lined.owner_of_enable (h : Lined s) (hw : s.Wired) (ho : Owned s s.arbiter) {job : Modem.Job}
    {c : DataClass} (hjob : job ∈ s.pipeline.jobs) (hc : job.command = .enable c) :
    s.arbiter.owner = some job.tenant := by
  obtain ⟨p, hp⟩ := Wired.exists_post (hw.jobs job hjob)
  refine ho.busy job.tenant p hp fun hidle => ?_
  have hline := h.line job.tenant p hp
  have hmem : (job.token, .enable c) ∈ s.jobsOf job.tenant :=
    List.mem_map.2 ⟨job, List.mem_filter.2 ⟨hjob, by simp⟩, by rw [hc]⟩
  exact hline.idle hidle job.token c (hline.mem_inflight hmem)

theorem Lined.executed (h : Lined s) (hw : s.Wired) (ho : Owned s s.arbiter) {job : Modem.Job}
    {rest : List Modem.Job} (hjobs : s.pipeline.jobs = job :: rest)
    (hp : s.post? job.tenant = some p) : Lined (s.executed job rest p) := by
  have hexec := s.pipeline.modem.executes job.tenant job.command
  have hothers : ∀ u, u ≠ job.tenant →
      (s.pipeline.modem.execute job.tenant job.command).1.up u = s.pipeline.modem.up u := by
    intro u hu
    unfold Modem.up
    rw [hexec.others u hu]
  refine ⟨fun u r hr => ?_, fun u hu => ?_, ?_⟩
  · have hr' : (s.put job.tenant (p.signalled (Modem.signals job.token job.command
        (s.pipeline.modem.execute job.tenant job.command).2))).post? u = some r := hr
    rcases post?_of_put hp hr' with ⟨rfl, rfl⟩ | ⟨hne, hr'⟩
    · have hline := h.line job.tenant p hp
      unfold jobsOf at hline
      rw [hjobs, List.filter_cons_of_pos (by simp), List.map_cons] at hline
      exact hline.execute hexec.done hexec.failed hexec.cleared
    · have hline := h.line u r hr'
      have hjob : ¬job.tenant = u := fun heq => hne heq.symm
      unfold jobsOf at hline
      rw [hjobs, List.filter_cons_of_neg (by simpa using hjob), ← hothers u hne] at hline
      exact hline
  · have hnone : s.post? u = none := by
      have hlen : (s.executed job rest p).posts.length = s.posts.length := length_put s _ _
      unfold post? at hu ⊢
      rw [List.getElem?_eq_none_iff] at hu ⊢
      omega
    have hne : u ≠ job.tenant := by
      rintro rfl
      rw [hp] at hnone
      cases hnone
    exact (hothers u hne).trans (h.bare u hnone)
  · have hlawful : (s.pipeline.modem.execute job.tenant job.command).1.violations = 0 := by
      rcases hexec.violations with hsame | ⟨⟨c, hc⟩, u, hne, d, hd⟩
      · rw [hsame]
        exact h.lawful
      · have hself := h.owner_of_enable hw ho (hjobs ▸ List.mem_cons_self) hc
        have hother := h.owner_of_up ho hd
        rw [hself, Option.some.injEq] at hother
        exact absurd hother.symm hne
    exact hlawful

theorem Lined.tuned (h : Lined s) (t : Tenant) (radio : Radio) (rest : List Control) :
    Lined (s.tuned t radio rest) := by
  obtain ⟨hviol, hothers, hself⟩ := s.pipeline.modem.setRadio_cases t radio
  have hup : ∀ u, u ≠ t →
      (s.pipeline.modem.setRadio t radio).1.up u = s.pipeline.modem.up u := by
    intro u hu
    unfold Modem.up
    rw [hothers u hu]
  have hlen : (s.tuned t radio rest).posts.length = s.posts.length := length_amend s t _
  refine ⟨fun u r hr => ?_, fun u hu => ?_, hviol.trans h.lawful⟩
  · have hr' : (s.amend t fun p => p.signalled (if (s.pipeline.modem.setRadio t radio).2 then
        [.radio radio] else [])).post? u = some r := hr
    by_cases hu : u = t
    · subst hu
      obtain ⟨p, hp⟩ : ∃ p, s.post? u = some p := by
        refine Wired.exists_post ?_
        rw [← length_amend s u]
        exact lt_of_post? hr'
      rw [amend_eq hp, post?_put hp, Option.some.injEq] at hr'
      subst hr'
      refine (h.line u p hp).tune ?_ ?_
      · intro x hx
        split at hx
        · exact ⟨radio, List.mem_singleton.1 hx⟩
        · cases hx
      · rcases hself with ⟨hchanged, rfl, hempty⟩ | hkeep
        · refine .inr ⟨hempty, ?_⟩
          rw [if_pos hchanged]
          exact List.mem_singleton_self _
        · exact .inl hkeep
    · unfold post? amend at hr'
      rw [List.getElem?_modify_ne _ _ (slot_ne hu)] at hr'
      have hline := h.line u r hr'
      rw [← hup u hu] at hline
      exact hline
  · have hnone : s.post? u = none := by
      unfold post? at hu ⊢
      rw [List.getElem?_eq_none_iff] at hu ⊢
      omega
    by_cases hut : u = t
    · subst hut
      rcases hself with ⟨-, -, hempty⟩ | hkeep
      · exact hempty
      · exact hkeep.trans (h.bare u hnone)
    · exact (hup u hut).trans (h.bare u hnone)

/-- A change keeps the lines. -/
theorem Lined.change (h : Lined s) (hw : s.Wired) (ho : Owned s s.arbiter) (hch : Change s s') :
    Lined s' := by
  cases hch with
  | heard hp hsig => exact h.heard hw hp hsig
  | read hp hmail => exact h.read hw hp
  | @subscribed t p filter sink handle rest hp hmail =>
    refine h.of_posts rfl (length_put s t _) fun u r hr => ?_
    rcases post?_of_put hp hr with ⟨rfl, rfl⟩ | ⟨-, hr⟩
    · exact ⟨p, hp, rfl, rfl⟩
    · exact ⟨r, hr, rfl, rfl⟩
  | executed hjobs hp => exact h.executed hw ho hjobs hp
  | tuned hcontrols => exact h.tuned _ _ _
  | @steered control rest pipeline hcontrols hradio halike =>
    have hup : ∀ u, pipeline.modem.up u = s.pipeline.modem.up u := by
      intro u
      unfold Modem.up
      rw [halike.connected]
    refine ⟨fun u r hr => ?_, fun u hu => (hup u).trans (h.bare u hu),
      halike.violations.trans h.lawful⟩
    have hline := h.line u r hr
    unfold jobsOf at hline ⊢
    simp only
    rw [halike.jobs, hup]
    exact hline
  | noted => refine h.ruled ?_ ?_ _ _ _ <;> rfl
  | granted => refine h.ruled ?_ ?_ _ _ _ <;> rfl
  | cleaned => refine h.ruled ?_ ?_ _ _ _ <;> rfl
  | replied => refine h.ruled ?_ ?_ _ _ _ <;> rfl
  | forwarded => refine h.ruled ?_ ?_ _ _ _ <;> rfl
  | passed => refine h.ruled ?_ ?_ _ _ _ <;> rfl
  | asked => exact h.of_posts rfl rfl fun u r hr => ⟨r, hr, rfl, rfl⟩
  | brought => exact h.of_posts rfl rfl fun u r hr => ⟨r, hr, rfl, rfl⟩
  | settled => exact h.of_posts rfl rfl fun u r hr => ⟨r, hr, rfl, rfl⟩

/-- An input keeps the lines. -/
theorem Lined.intake (h : Lined s) (hi : Intake s s') : Lined s' := by
  have hput : ∀ {t : Tenant} {p q : Post}, s.post? t = some p →
      q.station.switch = p.station.switch → q.signals = p.signals → Lined (s.put t q) := by
    intro t p q hp hswitch hsignals
    refine h.of_posts rfl (length_put s t q) fun u r hr => ?_
    rcases post?_of_put hp hr with ⟨rfl, rfl⟩ | ⟨-, hr⟩
    · exact ⟨p, hp, hswitch, hsignals⟩
    · exact ⟨r, hr, rfl, rfl⟩
  cases hi with
  | nothing => exact h
  | mailed nextId hp hm => exact hput hp rfl rfl
  | used nextId hp => exact hput hp rfl rfl
  | commanded => exact h.of_posts rfl rfl fun u r hr => ⟨r, hr, rfl, rfl⟩
  | controlled => exact h.of_posts rfl rfl fun u r hr => ⟨r, hr, rfl, rfl⟩

/-- At the start nothing is on the lines but signals on radios. -/
theorem Fresh.lined (h : Fresh s) : Lined s := by
  have hup : ∀ t, s.pipeline.modem.up t = ∅ := by
    intro t
    unfold Modem.up
    cases hc : s.pipeline.modem.connected? t with
    | none => rfl
    | some cs => exact h.connected t cs hc
  refine ⟨fun t p hp => ?_, fun t _ => hup t, h.violations⟩
  obtain ⟨capacity, signals, rfl, hsig⟩ := h.posts t p hp
  have hjobs : s.jobsOf t = [] := by
    unfold jobsOf
    rw [h.jobs]
    rfl
  rw [hjobs, hup]
  have hstart : Line (Post.start capacity t).station.switch [] [] ∅ :=
    ⟨Switch.sound_start t true, rfl, ⟨[], rfl, rfl⟩, fun _ k c => nofun,
      fun ⟨c, hc⟩ => absurd hc (ClassSet.not_mem_empty c), nofun⟩
  exact hstart.tune hsig (.inl rfl)

end DataPath.Service
