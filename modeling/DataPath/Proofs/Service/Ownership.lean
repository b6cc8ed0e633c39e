import DataPath.Proofs.Service.Counting
import DataPath.Proofs.Service.Mirror

/-!
# Only the owner may move

The arbiter looks at mirrors of the phases, and the mirrors are behind.  Why can nobody but
the owner leave idle all the same?  Four facts carry each other (`Owned`).

* The notices under way lead from every mirror to the phase itself.
* A switch that is not idle is the owner's.
* A connect with a grant stands in no mailbox but the owner's.
* When a switch is not idle, though its mirror or some notice under way says that it is or was,
  then a grant is outstanding.

A switch leaves idle only with a grant, and that grant is outstanding still.  The arbiter moves
the ownership only when no grant is outstanding and the mirror of the owner is idle.  Then the
owner is idle, by the last fact, and there is no connect with a grant in any mailbox.
-/

namespace DataPath.Service

open Mirror (Leads Passes Tells)

/-- What holds between the switches, the notices under way and an arbiter. -/
structure Owned (s : Service) (a : Arbiter) : Prop where
  mirror : ∀ t p, s.post? t = some p →
    ∃ q, a.phaseOf? t = some q ∧ Leads t q s.notices p.station.switch.phase
  busy : ∀ t p, s.post? t = some p → p.station.switch.phase ≠ .idle → a.owner = some t
  mail : ∀ t p, s.post? t = some p → ∀ m ∈ p.channel.mailbox, m.isAcquire = true →
    a.owner = some t
  guarded : ∀ t p q, s.post? t = some p → a.phaseOf? t = some q →
    p.station.switch.phase ≠ .idle → Passes t q s.notices → a.outstanding ≠ []

variable {s s' : Service} {a mid : Arbiter} {t : Tenant} {p p' : Post}

/-! ## Moves of a switch -/

/-- One post changes and tells of it. -/
theorem Owned.move (h : Owned s a) (hp : s.post? t = some p) (ns : List Notice)
    (hposts : ∀ u r, s'.post? u = some r → u = t ∧ r = p' ∨ u ≠ t ∧ s.post? u = some r)
    (hnotices : s'.notices = s.notices ++ ns)
    (hmail : ∀ m ∈ p'.channel.mailbox, m.isAcquire = true → m ∈ p.channel.mailbox)
    (htells : Tells t p.station.switch.phase ns p'.station.switch.phase)
    (hleave : p.station.switch.phase = .idle → p'.station.switch.phase ≠ .idle →
      a.owner = some t ∧ a.outstanding ≠ []) : Owned s' a := by
  have hothers : ∀ {u}, u ≠ t → ∀ n ∈ ns, n.tenant ≠ u :=
    fun hu n hn heq => hu (heq.symm.trans (htells.tenant n hn))
  refine ⟨fun u r hr => ?_, fun u r hr hne => ?_, fun u r hr m hm hacq => ?_,
    fun u r q hr hq hne hpasses => ?_⟩
  · rcases hposts u r hr with ⟨rfl, rfl⟩ | ⟨hu, hr⟩
    · obtain ⟨q, hq, hleads⟩ := h.mirror u p hp
      exact ⟨q, hq, hnotices ▸ hleads.append htells.leads⟩
    · obtain ⟨q, hq, hleads⟩ := h.mirror u r hr
      exact ⟨q, hq, hnotices ▸ hleads.append (Mirror.leads_of_ne (hothers hu))⟩
  · rcases hposts u r hr with ⟨rfl, rfl⟩ | ⟨-, hr⟩
    · by_cases hidle : p.station.switch.phase = .idle
      · exact (hleave hidle hne).1
      · exact h.busy u p hp hidle
    · exact h.busy u r hr hne
  · rcases hposts u r hr with ⟨rfl, rfl⟩ | ⟨-, hr⟩
    · exact h.mail u p hp m (hmail m hm hacq) hacq
    · exact h.mail u r hr m hm hacq
  · rw [hnotices] at hpasses
    rcases hposts u r hr with ⟨rfl, rfl⟩ | ⟨hu, hr⟩
    · by_cases hidle : p.station.switch.phase = .idle
      · exact (hleave hidle hne).2
      · obtain ⟨q', hq', hleads⟩ := h.mirror u p hp
        rw [hq, Option.some.injEq] at hq'
        subst hq'
        rcases hleads.passes hpasses with hpasses | hpasses
        · exact h.guarded u p q hp hq hidle hpasses
        · exact absurd (htells.idle hne hpasses) hidle
    · obtain ⟨q', hq', hleads⟩ := h.mirror u r hr
      rw [hq, Option.some.injEq] at hq'
      subst hq'
      rcases hleads.passes hpasses with hpasses | hpasses
      · exact h.guarded u r q hr hq hne hpasses
      · exact absurd (Mirror.passes_of_ne (hothers hu) hpasses) hne

/-- What a wired switch tells the arbiter of what it has done. -/
theorem tells_of_wired (h : p.Wired t) {phase : Phase} {ns : List Notice}
    (htells : Tells t p.station.switch.phase ns phase)
    (hidle : p.station.switch.phase = .idle → p.Listened ∨ phase = .idle) :
    Tells t p.station.switch.phase (ns.flatMap p.tell) phase := by
  have hlistened : p.Listened → Tells t p.station.switch.phase (ns.flatMap p.tell) phase := by
    intro hl
    rw [hl.tell]
    exact htells
  rcases h.attached with hl | hu
  · exact hlistened hl
  · rcases hidle hu.2.1 with hl | hphase
    · exact hlistened hl
    · rw [hu.tell, hu.2.1, hphase]
      exact .nil t .idle

theorem Owned.heard (h : Owned s a) (hw : s.Wired) {signal : Signal} {rest : List Signal}
    (hp : s.post? t = some p) :
    Owned (s.after t { p with signals := rest } (p.station.switch.hear signal)) a := by
  have hwired := hw.posts t p hp
  obtain ⟨hten, -, -, hcase⟩ := hear_cases hwired.arbitrated hwired.outbox signal
  have htells := hcase.tells hten
  rw [hwired.tenant] at htells
  have hidle : p.station.switch.phase = .idle → (p.station.switch.hear signal).phase = .idle := by
    intro hi
    cases hcase with
    | released token fault replaying hs htoken hrel hidle => exact hidle
    | kept hfollows hidle => exact hidle hi
  refine h.move hp _ (fun u r hr => post?_of_put hp hr) rfl (fun m hm _ => hm)
    (tells_of_wired hwired htells fun hi => .inr (hidle hi)) fun hi hne => ?_
  exact absurd (hidle hi) hne

theorem Owned.read (h : Owned s a) (hw : s.Wired) (hb : Backed s a) {id : Nat} {request : Request}
    {handle : Option Caller} {rest : List (Message Caller Sink)} (hp : s.post? t = some p)
    (hmail : p.channel.mailbox = .request id request handle :: rest) :
    Owned (s.after t (p.unread rest) (p.station.switch.handle id request handle)) a := by
  have hwired := hw.posts t p hp
  obtain ⟨hten, -, -, hchange, hfollows, hcase⟩ :=
    read_cases hwired.arbitrated hwired.outbox id request handle
  have htells := hchange.tells hfollows hten
  rw [hwired.tenant] at htells
  have hfirst : .request id request handle ∈ p.channel.mailbox := hmail ▸ List.mem_cons_self
  have hacq : p.station.switch.phase = .idle →
      (p.station.switch.handle id request handle).phase ≠ .idle → request.isAcquire = true := by
    intro hi hne
    by_contra hno
    cases hcase with
    | answered body hans hparked hlen hidle =>
      exact hne (hidle hi (by simpa using hno))
    | parked c hwant hphase hans hparked hsub hkeep => exact hne (hkeep.trans hi)
    | asked c hwant hphase hans hparked hsub hkeep => exact hne (hkeep.trans hi)
  refine h.move hp _ (fun u r hr => post?_of_put hp hr) rfl (fun m hm _ => ?_)
    (tells_of_wired hwired htells fun _ => .inl (hwired.read hmail).1) fun hi hne => ?_
  · rw [hmail]
    exact List.mem_cons_of_mem _ hm
  · have hmessage := hacq hi hne
    exact ⟨h.mail t p hp _ hfirst hmessage, hb t p hp _ hfirst hmessage⟩

/-- A post that changes without a change of its switch. -/
theorem Owned.same (h : Owned s a) (hp : s.post? t = some p)
    (hposts : ∀ u r, s'.post? u = some r → u = t ∧ r = p' ∨ u ≠ t ∧ s.post? u = some r)
    (hnotices : s'.notices = s.notices)
    (hmail : ∀ m ∈ p'.channel.mailbox, m.isAcquire = true → m ∈ p.channel.mailbox)
    (hphase : p'.station.switch.phase = p.station.switch.phase) : Owned s' a := by
  refine h.move hp [] hposts (by rw [hnotices, List.append_nil]) hmail ?_ fun hi hne => ?_
  · rw [hphase]
    exact .nil t _
  · exact absurd (hphase.trans hi) hne

theorem Owned.subscribed (h : Owned s a) (hw : s.Wired) {filter : NoticeFilter} {sink : Sink}
    {handle : Caller} {rest : List (Message Caller Sink)} (hp : s.post? t = some p)
    (hmail : p.channel.mailbox = .subscribe filter sink handle :: rest) :
    Owned (s.enrolled t (p.unread rest) filter sink) a := by
  have hwired := hw.posts t p hp
  refine h.move hp _ (fun u r hr => post?_of_put hp hr) rfl (fun m hm _ => ?_) ?_ fun hi hne => ?_
  · rw [hmail]
    exact List.mem_cons_of_mem _ hm
  · split
    · have hupdated := Tells.updated (s := p.station.switch.snapshot) (t := t)
        (p := p.station.switch.phase) hwired.tenant (Phase.Follows.refl _)
      exact hupdated
    · exact .nil t _
  · exact absurd hi hne

/-! ## Turns of the arbiter -/

/-- The arbiter takes a notice. -/
theorem Owned.noted (h : Owned s s.arbiter) {n : Notice} {rest : List Notice}
    (hnotices : s.notices = n :: rest) (hn : Arbiter.Notes n s.arbiter mid) :
    Owned { s with notices := rest } mid := by
  have hseen : ∀ u q, s.arbiter.phaseOf? u = some q → mid.phaseOf? u = some (Mirror.seen u q n) := by
    intro u q hq
    rw [hn.phase, hq]
    rfl
  refine ⟨fun u r hr => ?_, fun u r hr hne => ?_, fun u r hr m hm hacq => ?_,
    fun u r q hr hq hne hpasses => ?_⟩
  · obtain ⟨q, hq, hleads⟩ := h.mirror u r hr
    rw [hnotices] at hleads
    exact ⟨_, hseen u q hq, hleads.2⟩
  · rw [hn.owner]
    exact h.busy u r hr hne
  · rw [hn.owner]
    exact h.mail u r hr m hm hacq
  · obtain ⟨q', hq', -⟩ := h.mirror u r hr
    rw [hseen u q' hq', Option.some.injEq] at hq
    subst hq
    rw [hn.outstanding]
    refine h.guarded u r q' hr hq' hne ?_
    rw [hnotices]
    exact .inr hpasses

/-- When all notices are taken, the mirrors show the phases. -/
theorem Owned.phase_eq (h : Owned s a) (hnotices : s.notices = []) (hp : s.post? t = some p) :
    a.phaseOf? t = some p.station.switch.phase := by
  obtain ⟨q, hq, hleads⟩ := h.mirror t p hp
  rw [hnotices] at hleads
  have heq : q = p.station.switch.phase := hleads
  rw [hq, heq]

/-- When all notices are taken, nothing depends on the outstanding grants. -/
theorem Owned.of_no_notices (h : Owned s a) (hnotices : s.notices = [])
    (howner : mid.owner = a.owner) (hphase : ∀ u, mid.phaseOf? u = a.phaseOf? u)
    (hposts : s'.posts = s.posts) (hnotices' : s'.notices = []) : Owned s' mid := by
  have hpost : ∀ u, s'.post? u = s.post? u := fun u => congrArg (·[u.slot]?) hposts
  refine ⟨fun u r hr => ?_, fun u r hr hne => ?_, fun u r hr m hm hacq => ?_,
    fun u r q hr hq hne hpasses => ?_⟩
  · rw [hpost] at hr
    rw [hphase, hnotices']
    exact ⟨_, h.phase_eq hnotices hr, rfl⟩
  · rw [howner]
    exact h.busy u r (hpost u ▸ hr) hne
  · rw [howner]
    exact h.mail u r (hpost u ▸ hr) m hm hacq
  · rw [hpost] at hr
    rw [hphase, h.phase_eq hnotices hr, Option.some.injEq] at hq
    rw [hnotices'] at hpasses
    have hidle : q = .idle := hpasses
    exact absurd (hq.trans hidle) hne

/-- The arbiter takes a command. -/
theorem Owned.serving (h : Owned s s.arbiter) (hnotices : s.notices = [])
    (rest : List (Arbiter.Command Client)) : Owned { s with commands := rest } s.arbiter :=
  h.of_no_notices hnotices rfl (fun _ => rfl) rfl hnotices

/-- When the ownership moves, every switch is idle and no mailbox holds a grant. -/
theorem Owned.at_rest (h : Owned s mid) (hb : Backed s mid)
    (hnone : mid.outstanding = [])
    (hidle : ∀ o, mid.owner = some o → mid.phaseOf? o = some .idle) (hp : s.post? t = some p) :
    p.station.switch.phase = .idle ∧ ∀ m ∈ p.channel.mailbox, m.isAcquire = false := by
  refine ⟨?_, fun m hm => ?_⟩
  · by_contra hne
    have hpasses : Passes t .idle s.notices := by
      cases s.notices with
      | nil => rfl
      | cons n rest => exact .inl rfl
    exact h.guarded t p .idle hp (hidle t (h.busy t p hp hne)) hne hpasses hnone
  · by_contra hacq
    exact hb t p hp m hm (by simpa using hacq) hnone

/-- The arbiter makes a turn. -/
theorem Owned.ruled (h : Owned s mid) (hb : Backed s mid) {more : Nat}
    {sent : List Arbiter.Sending} {asked : List Tenant} {ls : List Letter} (es : List Errand)
    (hturn : Arbiter.Turn more mid a sent asked)
    (hls : ∀ l ∈ ls, l.request.isAcquire = true → a.owner = some l.tenant) :
    Owned (s.ruled a ls es) a := by
  have hphase : ∀ u, a.phaseOf? u = mid.phaseOf? u := by
    intro u
    unfold Arbiter.phaseOf? Arbiter.lastSeen? Arbiter.watch?
    rw [hturn.watches]
  have hnotices : (s.ruled a ls es).notices = s.notices := by rw [ruled_eq]
  refine ⟨fun u r hr => ?_, fun u r hr hne => ?_, fun u r hr m hm hacq => ?_,
    fun u r q hr hq hne hpasses => ?_⟩
  all_goals obtain ⟨p, nextId, new, hp, rfl, hnew⟩ := post?_of_ruled hr
  · rw [hphase, hnotices]
    exact h.mirror u p hp
  · rcases hturn.owner with howner | ⟨hnone, hidle⟩
    · rw [howner]
      exact h.busy u p hp hne
    · exact absurd (h.at_rest hb hnone hidle hp).1 hne
  · rcases List.mem_append.1 hm with hm | hm
    · rcases hturn.owner with howner | ⟨hnone, hidle⟩
      · rw [howner]
        exact h.mail u p hp m hm hacq
      · rw [(h.at_rest hb hnone hidle hp).2 m hm] at hacq
        cases hacq
    · obtain ⟨l, hl, rfl, id, rfl⟩ := hnew m hm
      exact hls l hl hacq
  · rw [hnotices] at hpasses
    rw [hphase] at hq
    have hsome := h.guarded u p q hp hq hne hpasses
    rw [hturn.outstanding]
    exact fun hnil => hsome (List.append_eq_nil_iff.1 hnil).1

/-- The letters of effects with a grant go to the owner. -/
theorem owner_of_acquire {more : Nat} {sent : List Arbiter.Sending} {asked : List Tenant}
    (hturn : Arbiter.Turn more mid a sent asked) {new : List Arbiter.Effect}
    (hsent : Arbiter.sendings new ⊆ sent) {l : Letter} (hl : l ∈ new.filterMap letterOf)
    (hacq : l.request.isAcquire = true) : a.owner = some l.tenant := by
  obtain ⟨e, he, hletter⟩ := List.mem_filterMap.1 hl
  cases e with
  | connect t c g =>
    rw [letterOf_connect, Option.some.injEq] at hletter
    subst hletter
    exact hturn.sending ⟨t, c, g⟩ (hsent (List.mem_filterMap.2 ⟨_, he, rfl⟩))
  | cleanupAll t =>
    rw [letterOf_cleanupAll, Option.some.injEq] at hletter
    subst hletter
    cases hacq
  | event e => cases hletter

/-! ## All changes -/

/-- A change keeps everything in the hands of the owner. -/
theorem Owned.change (h : Owned s s.arbiter) (hw : s.Wired) (hc : Counted s s.arbiter)
    (hch : Change s s') : Owned s' s'.arbiter := by
  have hb : Backed s s.arbiter := hc.backed hw
  cases hch with
  | heard hp hsig => exact h.heard hw hp
  | read hp hmail => exact h.read hw hb hp hmail
  | subscribed hp hmail => exact h.subscribed hw hp hmail
  | executed hjobs hp =>
    exact h.same hp (fun u r hr => post?_of_put hp hr) rfl (fun m hm _ => hm) rfl
  | @tuned t radio rest hcontrols =>
    have hbase : Owned { s with controls := rest, pipeline :=
        { s.pipeline with modem := (s.pipeline.modem.setRadio t radio).1 } } s.arbiter :=
      ⟨h.mirror, h.busy, h.mail, h.guarded⟩
    rcases s.tuned_cases t radio rest with ⟨-, heq⟩ | ⟨p, signals, hp, -, heq⟩
    · rw [heq]
      exact hbase
    · rw [heq]
      exact hbase.same hp (fun u r hr => post?_of_put hp hr) rfl (fun m hm _ => hm) rfl
  | steered => exact ⟨h.mirror, h.busy, h.mail, h.guarded⟩
  | noted hnotices hnotes hnone hturn hout =>
    rw [arbiter_ruled]
    exact (h.noted hnotices hnotes).ruled
      ((hc.noted hnotices hnotes).backed (hw.queues _ _ _ hw.commands)) [] hturn
      fun l hl => owner_of_acquire hturn (List.Subset.refl _) hl
  | @granted t g outcome rest a new hnotices htidings hturn hout =>
    rw [arbiter_ruled]
    have hbase : Owned { s with tidings := rest } (s.arbiter.without g) :=
      h.of_no_notices hnotices rfl (fun _ => rfl) rfl hnotices
    exact hbase.ruled ((hc.granted htidings).backed (hw.queues _ _ _ hw.commands)) [] hturn
      fun l hl => owner_of_acquire hturn (List.Subset.refl _) hl
  | @cleaned t outcome rest mid a new hnotices htidings hmid hturn hout =>
    rw [arbiter_ruled]
    obtain ⟨asked, rfl⟩ := Arbiter.exists_eq_of_cleanupAnswered hmid
    have hbase : Owned { s with tidings := rest } { s.arbiter with cleanupRequested := asked } :=
      h.of_no_notices hnotices rfl (fun _ => rfl) rfl hnotices
    have hcounted : Counted { s with tidings := rest } { s.arbiter with cleanupRequested := asked } :=
      hc.cleaned htidings rfl
    exact hbase.ruled (hcounted.backed (hw.queues _ _ _ hw.commands)) [] hturn
      fun l hl => owner_of_acquire hturn (List.Subset.refl _) hl
  | @replied command rest client answer a new hnotices htidings hcommands hclient hanswer hturn =>
    rw [arbiter_ruled]
    exact (h.serving hnotices rest).ruled hb _ hturn fun l hl => owner_of_acquire hturn (List.Subset.refl _) hl
  | @forwarded t c client rest g a new hnotices htidings hcommands hturn hsent hout =>
    rw [arbiter_ruled]
    refine (h.serving hnotices rest).ruled hb _ hturn fun l hl hacq => ?_
    rcases List.mem_cons.1 hl with rfl | hl
    · exact hturn.sending ⟨t, c, g⟩ List.mem_cons_self
    · exact owner_of_acquire hturn (by simp [hsent]) hl hacq
  | @passed t c client rest a hnotices htidings hcommands hknown hturn =>
    rw [arbiter_ruled]
    refine (h.serving hnotices rest).ruled hb _ hturn fun l hl hacq => ?_
    rw [List.mem_singleton.1 hl] at hacq
    cases hacq
  | asked => exact ⟨h.mirror, h.busy, h.mail, h.guarded⟩
  | brought => exact ⟨h.mirror, h.busy, h.mail, h.guarded⟩
  | settled => exact ⟨h.mirror, h.busy, h.mail, h.guarded⟩

/-- An input keeps everything in the hands of the owner. -/
theorem Owned.intake (h : Owned s s.arbiter) (hi : Intake s s') : Owned s' s'.arbiter := by
  cases hi with
  | nothing => exact h
  | @mailed t p nextId m hp hm =>
    refine h.same hp (fun u r hr => post?_of_put hp hr) rfl (fun x hx hacq => ?_) rfl
    rcases List.mem_append.1 hx with hx | hx
    · exact hx
    · rw [List.mem_singleton.1 hx] at hacq
      cases m with
      | request id request handle =>
        have hno : request.isAcquire = false := hm.1
        have hyes : request.isAcquire = true := hacq
        rw [hno] at hyes
        cases hyes
      | _ => cases hacq
  | @used t p nextId hp =>
    exact h.same hp (fun u r hr => post?_of_put hp hr) rfl (fun x hx _ => hx) rfl
  | commanded => exact ⟨h.mirror, h.busy, h.mail, h.guarded⟩
  | controlled => exact ⟨h.mirror, h.busy, h.mail, h.guarded⟩

/-- At the start nobody owns anything. -/
theorem Fresh.owned (h : Fresh s) : Owned s s.arbiter := by
  have hpost : ∀ t p, s.post? t = some p → p.station.switch.phase = .idle ∧
      ∀ m ∈ p.channel.mailbox, m.isAcquire = false := by
    intro t p hp
    obtain ⟨capacity, signals, rfl, -⟩ := h.posts t p hp
    refine ⟨rfl, fun m hm => ?_⟩
    rw [List.mem_singleton.1 hm]
    rfl
  refine ⟨fun t p hp => ?_, fun t p hp hne => absurd (hpost t p hp).1 hne,
    fun t p hp m hm hacq => ?_, fun t p q hp hq hne => absurd (hpost t p hp).1 hne⟩
  · have hknown : s.arbiter.knows t = true := by
      rw [Arbiter.knows, h.length, decide_eq_true_iff]
      exact lt_of_post? hp
    obtain ⟨q, hq⟩ := Arbiter.exists_phaseOf hknown
    refine ⟨q, hq, ?_⟩
    rw [h.notices, (hpost t p hp).1]
    exact h.phase t q hq
  · rw [(hpost t p hp).2 m hm] at hacq
    cases hacq

end DataPath.Service
