import DataPath.Proofs.Service.Counting

/-!
# A request to clean up is never forgotten

Once the arbiter has asked the owner to clean up, it does not ask again before it hears of
it.  So there had better be something under way that it will hear of: the request itself, the
release, the notice of idle, or the answer that there was nothing to let go.  `Scale.promise`
gives a weight to exactly these, and as long as a clean-up is flagged as requested, they weigh
something (`Promised`).
-/

namespace DataPath.Service

/-- Weighs what will make the arbiter forget that it has asked a tenant to clean up. -/
def Scale.promise (o : Tenant) : Scale where
  letter _ m := match m with
    | .request _ .cleanupAll (some (.relay t _ (some .cleanup) _)) => if t = o then 1 else 0
    | _ => 0
  parked _ := 0
  signal _ := 0
  phase t p := if t = o ∧ p = .releasing then 1 else 0
  job := 0
  control _ := 0
  notice n := match n with
    | .enteredIdle t _ => if t = o then 1 else 0
    | _ => 0
  tidings x := if x = ⟨o, .cleanup, .alreadyInactive⟩ then 1 else 0
  command _ := 0
  errand e := match e with
    | .settle t _ tracked _ outcome =>
      if t = o ∧ tracked = some .cleanup ∧ outcome = .alreadyInactive then 1 else 0
    | _ => 0
  anonymous _ _ _ request _ tracked _ := by
    cases request <;> rcases tracked with _ | _ | _ <;> rfl

/-- While the owner is asked to clean up, the arbiter is going to hear of it. -/
def Promised (s : Service) (a : Arbiter) : Prop :=
  ∀ o, a.owner = some o → a.cleanupRequested = true → 0 < weigh (Scale.promise o) s

variable {s s' : Service} {a mid : Arbiter} {t o : Tenant} {p : Post}

theorem mail_promise (o : Tenant) (p q : Phase) (ms : List (Message Caller Sink)) :
    (Scale.promise o).mail p ms = (Scale.promise o).mail q ms := rfl

theorem kept_promise (o : Tenant) (ps : List (Switch.Parked Caller)) :
    (Scale.promise o).kept ps = 0 := by
  induction ps with
  | nil => rfl
  | cons p ps ih => rw [Scale.kept_cons, ih]; rfl

/-- What weighs no less promises no less. -/
theorem Promised.mono (h : Promised s a)
    (hle : ∀ o, weigh (Scale.promise o) s ≤ weigh (Scale.promise o) s') : Promised s' a :=
  fun o ho hclean => Nat.lt_of_lt_of_le (h o ho hclean) (hle o)

/-- A phase that follows another keeps the promise of a release. -/
theorem phase_promise_le {q r : Phase} (h : q.Follows r) (o t : Tenant) :
    (Scale.promise o).phase t q ≤ (Scale.promise o).phase t r := by
  unfold Scale.promise
  simp only
  split
  · next hq => rw [if_pos ⟨hq.1, h.2 hq.2⟩]
  · exact Nat.zero_le _

/-! ## Moves of a switch -/

theorem promise_heard (h : p.Wired t) (hp : s.post? t = some p) {signal : Signal}
    {rest : List Signal} (hsig : p.signals = signal :: rest) (o : Tenant) :
    weigh (Scale.promise o) s ≤ weigh (Scale.promise o)
      (s.after t { p with signals := rest } (p.station.switch.hear signal)) := by
  have hw := weigh_heard (Scale.promise o) hp hsig (p.station.switch.hear signal)
  obtain ⟨hten, -, -, hcase⟩ := hear_cases h.arbitrated h.outbox signal
  have hsignal : (Scale.promise o).signal signal = 0 := rfl
  have hjob : (Scale.promise o).job = 0 := rfl
  have hmail := mail_promise o (p.station.switch.hear signal).phase p.station.switch.phase
    p.channel.mailbox
  rw [hsignal, hjob, kept_promise, kept_promise, hmail, hten, h.tenant] at hw
  have hphase : (Scale.promise o).phase t p.station.switch.phase ≤
      (Scale.promise o).phase t (p.station.switch.hear signal).phase +
        (Scale.promise o).news ((Switch.notices (p.station.switch.hear signal).outbox).flatMap
          p.tell) := by
    cases hcase with
    | released token fault replaying hs htoken hrel hidle hparked hans hsub hnot =>
      have hlistened : p.Listened := by
        rcases h.attached with hl | hu
        · exact hl
        · rw [hu.2.1] at hrel
          cases hrel
      have hnotice : (Scale.promise o).notice (.enteredIdle t replaying) =
          if t = o then 1 else 0 := rfl
      rw [hnot, hlistened.tell, Scale.news_cons, h.tenant, hnotice]
      unfold Scale.promise
      simp only
      split
      · next hq =>
        rw [if_pos hq.1]
        omega
      · exact Nat.zero_le _
    | kept hfollows => exact Nat.le_add_right_of_le (phase_promise_le hfollows o t)
  omega

/-- The letter that promises something is the request of the arbiter to clean up. -/
theorem eq_of_promise_letter {q : Phase} {id : Nat} {request : Request} {handle : Option Caller}
    (hin : InOrder t (.request id request handle))
    (hletter : (Scale.promise o).letter q (.request id request handle) ≠ 0) :
    request = .cleanupAll ∧ t = o ∧ ∃ client, handle = some (.relay t id (some .cleanup) client) := by
  have hok := hin.2
  unfold Scale.promise at hletter
  simp only at hletter
  split at hletter
  · next k u j client heq =>
    cases heq
    obtain ⟨rfl, rfl⟩ := hok u j _ client rfl
    refine ⟨rfl, ?_, client, rfl⟩
    by_contra hne
    exact hletter (if_neg hne)
  · exact absurd rfl hletter

theorem promise_read (h : p.Wired t) (hp : s.post? t = some p) {id : Nat} {request : Request}
    {handle : Option Caller} {rest : List (Message Caller Sink)}
    (hmail : p.channel.mailbox = .request id request handle :: rest) {o : Tenant}
    (hpos : 0 < weigh (Scale.promise o) s) :
    0 < weigh (Scale.promise o)
      (s.after t (p.unread rest) (p.station.switch.handle id request handle)) := by
  have hw := weigh_read (Scale.promise o) hp hmail (p.station.switch.handle id request handle)
  obtain ⟨hten, -, -, -, hfollows, hcase⟩ := read_cases h.arbitrated h.outbox id request handle
  have hjob : (Scale.promise o).job = 0 := rfl
  have hrest := mail_promise o (p.station.switch.handle id request handle).phase
    p.station.switch.phase rest
  rw [hjob, kept_promise, kept_promise, hrest, hten, h.tenant] at hw
  have hphase := phase_promise_le hfollows o t
  by_cases hletter :
      (Scale.promise o).letter p.station.switch.phase (.request id request handle) = 0
  · omega
  · -- The request to clean up is read: it is answered, or there is a release.
    obtain ⟨rfl, rfl, client, rfl⟩ :=
      eq_of_promise_letter (h.mail _ (hmail ▸ List.mem_cons_self)) hletter
    have hone : (Scale.promise t).letter p.station.switch.phase
        (.request id .cleanupAll (some (.relay t id (some .cleanup) client))) = 1 := if_pos rfl
    cases hcase with
    | parked c hwant => cases hwant
    | asked c hwant => cases hwant
    | answered body hans hparked hlen hidle hclean =>
      rcases (hclean rfl).2 with rfl | hrel
      · have hload : (Scale.promise t).load ((Switch.answers (p.station.switch.handle id
            .cleanupAll (some (.relay t id (some .cleanup) client))).outbox).flatMap
              (errandsOf t)) = 1 := by
          rw [hans]
          simp [Switch.replyTo, errandsOf, Caller.errands, outcomeFrom, Scale.promise]
        omega
      · have hnew : (Scale.promise t).phase t (p.station.switch.handle id .cleanupAll
            (some (.relay t id (some .cleanup) client))).phase = 1 := if_pos ⟨rfl, hrel⟩
        have hself := post_le_weigh (Scale.promise t) (s := s.after t (p.unread rest)
          (p.station.switch.handle id .cleanupAll
            (some (.relay t id (some .cleanup) client)))) (post?_put hp _)
        rw [post_put, hten, h.tenant, hnew] at hself
        omega

/-! ## Turns of the arbiter -/

/-- A request to clean up is a promise. -/
theorem stamp_promise (hp : s.post? t = some p) :
    (Scale.promise t).stamp s ⟨t, .cleanupAll, some .cleanup, .nobody⟩ = 1 := by
  unfold Scale.stamp
  rw [hp, Option.elim_some]
  exact if_pos rfl

theorem letter_of_cleaned {new : List Arbiter.Effect} (h : t ∈ Arbiter.cleaned new) :
    (⟨t, .cleanupAll, some .cleanup, .nobody⟩ : Letter) ∈ new.filterMap letterOf := by
  obtain ⟨e, he, heq⟩ := List.mem_filterMap.1 h
  refine List.mem_filterMap.2 ⟨e, he, ?_⟩
  cases e with
  | cleanupAll u =>
    cases heq
    rfl
  | connect u c g => cases heq
  | event e => cases heq

/-- The arbiter makes a turn. -/
theorem Promised.ruled (h : Promised s mid) (hw : s.Wired)
    (hlen : mid.watches.length = s.arbiter.watches.length) {more : Nat}
    {sent : List Arbiter.Sending} {asked : List Tenant} {ls : List Letter} (es : List Errand)
    (hturn : Arbiter.Turn more mid a sent asked)
    (hls : ∀ u ∈ asked, (⟨u, .cleanupAll, some .cleanup, .nobody⟩ : Letter) ∈ ls) :
    Promised (s.ruled a ls es) a := by
  intro o ho hclean
  rw [weigh_ruled]
  rcases hturn.requested hclean with ⟨howner, hwas⟩ | ⟨u, hu⟩
  · have hpos := h o (howner ▸ ho) hwas
    omega
  · have hsame := (hturn.asking u hu).2
    rw [ho, Option.some.injEq] at hsame
    subst hsame
    obtain ⟨p, hp⟩ := exists_post_of_turn hw hlen hturn ho
    have hone := stamp_promise hp
    have hle := List.le_sum_of_mem (List.mem_map_of_mem (f := (Scale.promise o).stamp s) (hls o hu))
    omega

/-- The arbiter takes a notice. -/
theorem Promised.noted (h : Promised s s.arbiter) {n : Notice} {rest : List Notice}
    (hnotices : s.notices = n :: rest) (hn : Arbiter.Notes n s.arbiter mid) :
    Promised { s with notices := rest } mid := by
  intro o ho hclean
  obtain ⟨hwas, hother⟩ := hn.cleanup hclean
  rw [hn.owner] at ho
  have hpos := h o ho hwas
  have hw := weigh_notices (Scale.promise o) hnotices
  have hnotice : (Scale.promise o).notice n = 0 := by
    cases n with
    | enteredIdle u replaying =>
      refine if_neg fun heq => hother u replaying rfl ?_
      rw [ho, heq]
    | _ => rfl
  omega

/-- The arbiter takes the answer to a grant. -/
theorem Promised.granted (h : Promised s s.arbiter) {g : Grant} {outcome : Outcome}
    {rest : List Tidings} (htidings : s.tidings = ⟨t, .grant g, outcome⟩ :: rest) :
    Promised { s with tidings := rest } (s.arbiter.without g) := by
  have hkept : Promised { s with tidings := rest } s.arbiter := by
    refine h.mono fun o => ?_
    have hw := weigh_tidings (Scale.promise o) htidings
    have hnone : (Scale.promise o).tidings ⟨t, .grant g, outcome⟩ = 0 := if_neg (by simp)
    omega
  exact hkept

/-- The arbiter takes the answer to a request to clean up. -/
theorem Promised.cleaned (h : Promised s s.arbiter) {outcome : Outcome} {rest : List Tidings}
    (htidings : s.tidings = ⟨t, .cleanup, outcome⟩ :: rest)
    (hmid : s.arbiter.owner = some t ∧ outcome = .alreadyInactive ∧ mid = s.arbiter.unasked ∨
      ¬(s.arbiter.owner = some t ∧ outcome = .alreadyInactive) ∧ mid = s.arbiter) :
    Promised { s with tidings := rest } mid := by
  intro o ho hclean
  rcases hmid with ⟨-, -, rfl⟩ | ⟨hno, rfl⟩
  · cases hclean
  · have hpos := h o ho hclean
    have hw := weigh_tidings (Scale.promise o) htidings
    have hnone : (Scale.promise o).tidings ⟨t, .cleanup, outcome⟩ = 0 := by
      refine if_neg fun heq => hno ?_
      cases heq
      exact ⟨ho, rfl⟩
    omega

/-- The arbiter takes a command. -/
theorem Promised.serving (h : Promised s s.arbiter) {c : Arbiter.Command Client}
    {rest : List (Arbiter.Command Client)} (hcommands : s.commands = c :: rest) :
    Promised { s with commands := rest } s.arbiter := by
  refine h.mono fun o => ?_
  have hw := weigh_commands (Scale.promise o) hcommands
  have hnone : (Scale.promise o).command c = 0 := rfl
  omega

/-! ## All changes -/

/-- Promises are kept. -/
theorem Promised.change (h : Promised s s.arbiter) (hw : s.Wired) (hch : Change s s') :
    Promised s' s'.arbiter := by
  cases hch with
  | heard hp hsig =>
    exact h.mono fun o => promise_heard (hw.posts _ _ hp) hp hsig o
  | read hp hmail =>
    intro o ho hclean
    exact promise_read (hw.posts _ _ hp) hp hmail (h o ho hclean)
  | @subscribed t p filter sink handle rest hp hmail =>
    refine h.mono fun o => ?_
    have hsum := weigh_enrolled (Scale.promise o) hp hmail filter sink
    have hnone : (Scale.promise o).letter p.station.switch.phase
      (.subscribe filter sink handle) = 0 := rfl
    omega
  | executed hjobs hp =>
    refine h.mono fun o => ?_
    have hsum := weigh_executed (Scale.promise o) hjobs hp
    have hnone : (Scale.promise o).job = 0 := rfl
    omega
  | @tuned t radio rest hcontrols =>
    refine h.mono fun o => ?_
    obtain ⟨signals, -, hsum⟩ := weigh_tuned (Scale.promise o) hcontrols
    have hnone : (Scale.promise o).control (.radio t radio) = 0 := rfl
    omega
  | @steered control rest pipeline hcontrols hradio halike =>
    refine h.mono fun o => ?_
    have hsum := weigh_steered (Scale.promise o) hcontrols halike
    have hnone : (Scale.promise o).control control = 0 := rfl
    omega
  | noted hnotices hnotes hnone hturn hout =>
    rw [arbiter_ruled]
    exact (h.noted hnotices hnotes).ruled (hw.queues _ _ _ hw.commands) hnotes.length [] hturn
      fun u hu => letter_of_cleaned hu
  | granted hnotices htidings hturn hout =>
    rw [arbiter_ruled]
    exact (h.granted htidings).ruled (hw.queues _ _ _ hw.commands) rfl [] hturn
      fun u hu => letter_of_cleaned hu
  | @cleaned t outcome rest mid a new hnotices htidings hmid hturn hout =>
    rw [arbiter_ruled]
    obtain ⟨asked, rfl⟩ := Arbiter.exists_eq_of_cleanupAnswered hmid
    exact (h.cleaned htidings hmid).ruled (hw.queues _ _ _ hw.commands) rfl [] hturn
      fun u hu => letter_of_cleaned hu
  | replied hnotices htidings hcommands hclient hanswer hturn hout =>
    rw [arbiter_ruled]
    exact (h.serving hcommands).ruled (hw.serving hcommands) rfl _ hturn
      fun u hu => letter_of_cleaned hu
  | forwarded hnotices htidings hcommands hturn hsent hout =>
    rw [arbiter_ruled]
    exact (h.serving hcommands).ruled (hw.serving hcommands) rfl _ hturn
      fun u hu => List.mem_cons_of_mem _ (letter_of_cleaned hu)
  | passed hnotices htidings hcommands hknown hturn hout =>
    rw [arbiter_ruled]
    exact (h.serving hcommands).ruled (hw.serving hcommands) rfl _ hturn (by simp)
  | @asked t id c caller before rest herrands =>
    refine h.mono fun o => ?_
    have hsum := weigh_asked (Scale.promise o) herrands
    have hnone : (Scale.promise o).errand (.ask t id c caller) = 0 := rfl
    omega
  | @brought t id caller outcome before rest herrands =>
    refine h.mono fun o => ?_
    have hsum := weigh_errands (Scale.promise o) herrands
    have hnone : (Scale.promise o).errand (.answer t id caller outcome) = 0 := rfl
    rw [weigh_give]
    omega
  | @settled t id tracked client outcome before rest herrands =>
    refine h.mono fun o => ?_
    have hsum := weigh_settled (Scale.promise o) herrands (client.errands (.outcome outcome))
    have hkeep : (Scale.promise o).errand (.settle t id tracked client outcome) ≤
        tracked.elim 0 fun x => (Scale.promise o).tidings ⟨t, x, outcome⟩ := by
      cases tracked with
      | none => exact Nat.le_of_eq (if_neg (by simp))
      | some x =>
        simp only [Scale.promise, Option.elim_some, Option.some.injEq, Tidings.mk.injEq]
        exact Nat.le_refl _
    omega

/-- An input leaves promises alone. -/
theorem Promised.intake (h : Promised s s.arbiter) (hi : Intake s s') : Promised s' s'.arbiter := by
  cases hi with
  | nothing => exact h
  | @mailed t p nextId m hp hm =>
    refine h.mono fun o => ?_
    have hw := weigh_mailed (Scale.promise o) hp nextId [m]
    omega
  | @used t p nextId hp =>
    refine h.mono fun o => ?_
    have hw := weigh_mailed (Scale.promise o) hp nextId []
    simp only [List.append_nil] at hw
    exact Nat.le_trans (Nat.le_add_right _ _) (Nat.le_of_eq hw.symm)
  | commanded hclient =>
    refine h.mono fun o => ?_
    unfold weigh
    simp only [List.map_append, List.sum_append]
    omega
  | controlled hne =>
    refine h.mono fun o => ?_
    unfold weigh
    simp only [List.map_append, List.sum_append]
    omega

end DataPath.Service
