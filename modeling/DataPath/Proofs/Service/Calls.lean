import DataPath.Proofs.Service.Conservation

/-!
# Calls come in

An input brings its own call into the service, or ends it at once, and loses nobody else's
(`takes_accept`).  So it is with inputs of every kind, for whomever they are meant, and whether or
not he is still there.
-/

namespace DataPath.Service

variable {strict : Bool} {n : Nat} {s s' : Service} {t : Tenant} {p : Post}

/-- Whether an input tells the arbiter or a switch to stop. -/
def Input.stops : Input → Bool
  | .stopSwitch _ | .stopArbiter | .shutdown => true
  | _ => false

/-- Whether an input is a call, which has an answer. -/
def Input.isCall : Input → Bool
  | .steer _ | .nothing => false
  | _ => true

/-- Nobody who calls is lost, and somebody calls perhaps. -/
def Takes (strict : Bool) (number : Nat) (isCall : Bool) (s s' : Service) : Prop :=
  s'.Tidy strict ∧ ∀ n, custody strict n s' =
    custody strict n s + if number = n ∧ isCall = true then 1 else 0

theorem Keeps.takes (h : Keeps strict s s') (number : Nat) : Takes strict number false s s' :=
  ⟨h.1, fun n => by simp [h.2 n]⟩

/-- A call is answered at once. -/
theorem Keeps.finish (h : Keeps strict s s') (number : Nat) {a : Answer}
    (ha : strict = true → a.isDecision = true) :
    Takes strict number true s (s'.finish number a) := by
  refine ⟨h.1.clerical (clerical_finish s' number a), fun n => ?_⟩
  rw [custody_finish, h.2 n, endedStake]
  congr 2
  simp only [and_true, eq_iff_iff, and_iff_left_iff_imp]
  exact fun _ => ha

/-- A client calls the arbiter. -/
theorem takes_command (h : s.Tidy strict) (number : Nat) {c : Arbiter.Command Client}
    (hstop : c ≠ .shutdown)
    (hc : ∀ n, commandStake strict n c = if number = n then 1 else 0) :
    Takes strict number true s (s.command c) := by
  refine ⟨h.clerical (clerical_command s hstop), fun n => ?_⟩
  rw [custody_command h.arbiter, hc]
  simp

variable (strict n) in
theorem stake_put (p : Post) (m : Message Caller Sink) :
    Post.stake strict n { p with channel := (p.channel.put m).1 } =
      p.stake strict n + if p.channel.isOpen then messageStake strict n m else 0 := by
  by_cases hopen : p.channel.isOpen = true
  · rw [put_eq hopen, if_pos hopen]
    exact stake_mailed strict n hopen p.channel.nextId m
  · have hclosed : p.channel.put m = (p.channel, false) := if_neg hopen
    rw [hclosed, if_neg hopen, Nat.add_zero]

variable (strict n) in
theorem custody_mail (hp : s.post? t = some p) (m : Message Caller Sink) :
    custody strict n (s.mail t m) =
      custody strict n s + if p.channel.isOpen then messageStake strict n m else 0 := by
  have hamend : custody strict n (s.amend t fun post => { post with
        channel := (post.channel.put m).1 }) + p.stake strict n =
      custody strict n s + Post.stake strict n { p with
        channel := (p.channel.put m).1 } := custody_amend strict n hp _
  have hstake := stake_put strict n p m
  unfold mail
  rw [custody_wake]
  omega

/-- Who is told to stop waits for nothing. -/
theorem keeps_mail_shutdown (h : s.Tidy false) (t : Tenant) :
    Keeps false s (s.mail t .shutdown) := by
  refine ⟨h.mail t rfl, fun n => ?_⟩
  unfold mail
  rw [custody_wake]
  refine custody_amend_same t fun p => ?_
  rw [stake_put]
  simp [messageStake]

theorem keeps_command_shutdown (h : s.Tidy false) : Keeps false s (s.command .shutdown) := by
  have hcustody : ∀ n, custody false n (s.command .shutdown) =
      custody false n s + commandStake false n .shutdown := by
    intro n
    refine custody_command (fun hs => ?_) .shutdown
    cases hs
  refine ⟨?_, hcustody⟩
  unfold command
  split
  · have hgiven : ({ s with commands := s.commands ++ [.shutdown] } : Service).Tidy false :=
      ⟨h.posts, nofun, nofun, nofun⟩
    exact hgiven.clerical (clerical_wake _ _)
  · exact h

theorem keeps_foldl_mail_shutdown (h : s.Tidy false) (ps : List Post) :
    Keeps false s (ps.foldl (fun s post => s.mail post.channel.tenant .shutdown) s) := by
  induction ps generalizing s with
  | nil => exact ⟨h, fun _ => rfl⟩
  | cons p ps ih =>
    have hmail := keeps_mail_shutdown h p.channel.tenant
    exact hmail.trans (ih hmail.1)

theorem accept_call_of_none (hp : s.post? t = none) (number : Nat) (request : Request) :
    s.accept number (.call t request) = s.finish number .noSwitch := by
  simp only [accept, hp]

theorem accept_call (hp : s.post? t = some p) (number : Nat) (request : Request) :
    s.accept number (.call t request) =
      let sent := s.amend t fun post => { post with
        channel := (p.channel.call request fun id => .call number id request.expects).1 }
      if p.channel.isOpen then sent.wake (.station t)
      else sent.finish number (request.expects.read 0 none) := by
  rw [← call_snd p.channel request fun id => .call number id request.expects]
  simp only [accept, hp]

/-- A request through a channel, for whose answer somebody waits. -/
theorem takes_call (h : s.Tidy strict) (number : Nat) (t : Tenant) (request : Request) :
    Takes strict number true s (s.accept number (.call t request)) := by
  have hsame : Keeps strict s s := ⟨h, fun _ => rfl⟩
  cases hp : s.post? t with
  | none =>
    rw [accept_call_of_none hp]
    exact hsame.finish number fun _ => rfl
  | some p =>
    have hstake : ∀ n id, (Caller.call number id request.expects).stake strict n
        (if request.wantsDecision then some id else none) = if number = n then 1 else 0 := by
      intro n id
      rw [Caller.stake]
      congr 1
      simp only [eq_iff_iff, and_iff_left_iff_imp]
      rintro - - hexpects
      rw [Request.wantsDecision, hexpects]
      rfl
    have hsent := h.called hp request fun id => .call number id request.expects
    have hcall := fun n => custody_call strict n hp request
      fun id => .call number id request.expects
    rw [accept_call hp]
    by_cases hopen : p.channel.isOpen = true
    · simp only [hopen, if_true, hstake] at hcall ⊢
      refine ⟨hsent.clerical (clerical_wake _ _), fun n => ?_⟩
      rw [custody_wake, hcall]
      simp
    · simp only [hopen, Bool.false_eq_true, if_false, Nat.add_zero] at hcall ⊢
      have hkeeps : Keeps strict s (s.amend t fun post => { post with
        channel := (p.channel.call request fun id => .call number id request.expects).1 }) :=
        ⟨hsent, hcall⟩
      exact hkeeps.finish number fun hs => absurd ((h.post hp).running hs) hopen

/-- A request for whose answer nobody waits. -/
theorem takes_post (h : s.Tidy strict) (number : Nat) (t : Tenant) (request : Request) :
    Takes strict number true s (s.accept number (.post t request)) := by
  have hsame : Keeps strict s s := ⟨h, fun _ => rfl⟩
  unfold accept
  simp only
  split
  · exact hsame.finish number fun _ => rfl
  · next p hp =>
    have hposted : Post.Tidy strict { p with channel := (p.channel.post request).1 } ∧
        ∀ n, Post.stake strict n { p with channel := (p.channel.post request).1 } =
          p.stake strict n := by
      rcases post_cases p.channel request with heq | ⟨hopen, heq⟩
      · rw [heq]
        exact ⟨(h.post hp).of_eq rfl rfl, fun n => rfl⟩
      · rw [heq]
        exact ⟨(h.post hp).mailed hopen _ trivial, fun n => stake_mailed strict n hopen _ _⟩
    have hkeeps : Keeps strict s (s.amend t fun post => { post with
        channel := (p.channel.post request).1 }) := by
      rw [amend_eq hp]
      refine ⟨h.put t hposted.1, fun n => ?_⟩
      have hput := custody_put strict n hp { p with channel := (p.channel.post request).1 }
      have hstake := hposted.2 n
      omega
    have hwoken : Keeps strict s ((s.amend t fun post => { post with
        channel := (p.channel.post request).1 }).wake (.station t)) :=
      ⟨hkeeps.1.clerical (clerical_wake _ _), fun n => (custody_wake _).trans (hkeeps.2 n)⟩
    refine hwoken.finish number fun _ => ?_
    cases (p.channel.post request).2 <;> rfl

/-- Somebody subscribes to the notices of a switch. -/
theorem takes_subscribe (h : s.Tidy strict) (number : Nat) (t : Tenant) (filter : NoticeFilter) :
    Takes strict number true s (s.accept number (.subscribe t filter)) := by
  have hnext : ({ s with nextObserver := s.nextObserver + 1 } : Service).Tidy strict :=
    h.of_eq rfl rfl fun _ hc => .inl hc
  have hkeeps : Keeps strict s { s with nextObserver := s.nextObserver + 1 } :=
    ⟨hnext, fun _ => rfl⟩
  unfold accept
  simp only
  split
  · exact hkeeps.finish number fun _ => rfl
  · next p hp =>
    split
    · next hserved =>
      have hopen : p.channel.isOpen = true := by
        unfold isServed at hserved
        rw [hp] at hserved
        exact hserved
      refine ⟨hnext.mail t (.inr ⟨number, t, rfl⟩), fun n => ?_⟩
      rw [custody_mail strict n hp, if_pos hopen, hkeeps.2 n, messageStake]
      simp
    · exact hkeeps.finish number fun _ => rfl

/-- An input brings in its own call, and nobody is lost by it. -/
theorem takes_accept (h : s.Tidy strict) (number : Nat) {input : Input}
    (hstops : strict = true → input.stops = false) :
    Takes strict number input.isCall s (s.accept number input) := by
  have hsame : Keeps strict s s := ⟨h, fun _ => rfl⟩
  have hlenient : input.stops = true → strict = false := by
    intro hstop
    by_contra hs
    rw [hstops (by simpa using hs)] at hstop
    cases hstop
  cases input with
  | call t request => exact takes_call h number t request
  | post t request => exact takes_post h number t request
  | subscribe t filter => exact takes_subscribe h number t filter
  | activate t c | deactivate t c =>
    refine takes_command h number (by simp) fun n => ?_
    rw [commandStake, Client.stake]
    simp
  | setDefaultTenant t => exact takes_command h number (by simp) fun n => rfl
  | status => exact takes_command h number (by simp) fun n => rfl
  | isPossible t c => exact hsame.finish number fun _ => rfl
  | nothing => exact hsame.takes number
  | steer control =>
    refine Keeps.takes ?_ number
    unfold accept
    simp only
    split
    · have hgiven : ({ s with controls := s.controls ++ [control] } : Service).Tidy strict :=
        h.of_eq rfl rfl fun _ hc => .inl hc
      exact ⟨hgiven.clerical (clerical_wake _ _), fun n => custody_wake _⟩
    · exact hsame
  | stopSwitch t =>
    have hs := hlenient rfl
    subst hs
    unfold accept
    simp only
    split
    · exact hsame.finish number fun _ => rfl
    · exact (keeps_mail_shutdown h t).finish number fun _ => rfl
  | stopArbiter =>
    have hs := hlenient rfl
    subst hs
    exact (keeps_command_shutdown h).finish number fun _ => rfl
  | shutdown =>
    have hs := hlenient rfl
    subst hs
    have hcommand := keeps_command_shutdown h
    exact (hcommand.trans (keeps_foldl_mail_shutdown hcommand.1 s.posts)).finish number
      fun _ => rfl

end DataPath.Service
