import DataPath.Proofs.Modem
import DataPath.Proofs.Switch.Sound
import DataPath.Proofs.Switch.Wishes

/-!
# The line between a switch and the modem

On the line of a tenant are the commands that the modem works on and the signals that the
switch has not taken yet.  A `Line` ties the two ends together.

* The commands in flight are those that have ended, as the signals say, and then those that
  the modem works on, in the same order.
* A slot carries data only for a switch that is live, or one whose release has not reached
  the modem.  An idle switch has nothing in flight that could change that.
* A live switch gets what it wants: every class that it tracks is up or will be when all
  commands are executed, and it has heard of that or will, unless it is about to hear of a
  failure or that its radio is off.

Each end keeps this up on its own: `Line.handle` and `Line.hear`, `Line.execute` and
`Line.tune`.
-/

namespace DataPath

/-- The tokens of the commands that have ended, as signals say. -/
def endedTokens (signals : List Signal) : List Nat :=
  signals.filterMap fun
    | .completed token _ => some token
    | _ => none

@[simp] theorem endedTokens_append (xs ys : List Signal) :
    endedTokens (xs ++ ys) = endedTokens xs ++ endedTokens ys := List.filterMap_append

@[simp] theorem endedTokens_completed (k : Nat) (f : Option ModemFault) (xs : List Signal) :
    endedTokens (.completed k f :: xs) = k :: endedTokens xs := rfl

@[simp] theorem endedTokens_classConnected (c : DataClass) (xs : List Signal) :
    endedTokens (.classConnected c :: xs) = endedTokens xs := rfl

@[simp] theorem endedTokens_radio (r : Radio) (xs : List Signal) :
    endedTokens (.radio r :: xs) = endedTokens xs := rfl

theorem mem_endedTokens {signals : List Signal} {k : Nat} {f : Option ModemFault}
    (h : .completed k f ∈ signals) : k ∈ endedTokens signals :=
  List.mem_filterMap.2 ⟨_, h, rfl⟩

variable {ρ : Type}

/-- What holds between a switch, with its signals, and the modem, with the commands of the
switch and the classes that are up on the slot. -/
structure Line (sw : Switch ρ) (signals : List Signal) (jobs : List (Nat × Command))
    (up : ClassSet) : Prop where
  sound : sw.Sound
  arbitrated : sw.arbitrated = true
  order : ∃ ended : List (Nat × Command),
    sw.inflight = ended ++ jobs ∧ ended.map Prod.fst = endedTokens signals
  idle : sw.phase = .idle → ∀ k c, (k, .enable c) ∉ sw.inflight
  held : (∃ c, c ∈ up) → sw.phase.isLive = true ∨
    sw.phase = .releasing ∧ ∃ k command, sw.releaseToken = some k ∧ (k, command) ∈ jobs
  live : sw.phase.isLive = true → .radio .off ∉ signals → ∀ c ∈ sw.classes,
    (∃ k f, .completed k (some f) ∈ signals ∧ (k, .enable c) ∈ sw.inflight) ∨
      Command.lastWord c (c ∈ up) (jobs.map Prod.snd) = true ∧
        ((∃ k, (k, .enable c) ∈ jobs) ∨ c ∈ sw.connected ∨ .classConnected c ∈ signals)

namespace Line

variable {sw : Switch ρ} {signal : Signal} {signals : List Signal} {jobs : List (Nat × Command)} {up : ClassSet}

theorem mem_inflight (h : Line sw signals jobs up) {e : Nat × Command} (he : e ∈ jobs) :
    e ∈ sw.inflight := by
  obtain ⟨ended, hin, -⟩ := h.order
  rw [hin]
  exact List.mem_append_right _ he

/-- A switch takes a request. -/
theorem handle (h : Line sw signals jobs up) (id : Nat) (request : Request) (handle : Option ρ)
    {new : List (Nat × Command)} (hnew : (sw.handle id request handle).inflight = sw.inflight ++ new) :
    Line (sw.handle id request handle) signals (jobs ++ new) up := by
  obtain ⟨new', hin, hadv⟩ := Switch.advances_handle h.sound h.arbitrated id request handle
  rw [hnew] at hin
  have heq := List.append_cancel_left hin
  subst heq
  obtain ⟨es, hadds, -, hfollows, -⟩ := Switch.handle_cases h.arbitrated id request handle
  refine ⟨h.sound.handle id request handle, hadds.arbitrated.trans h.arbitrated, ?_, ?_, ?_, ?_⟩
  · obtain ⟨ended, hended, htokens⟩ := h.order
    exact ⟨ended, by rw [hnew, hended, List.append_assoc], htokens⟩
  · intro hidle k c hmem
    obtain ⟨hwas, hforce⟩ := hadv.idle hidle
    rw [hnew, List.mem_append] at hmem
    rcases hmem with hmem | hmem
    · exact h.idle hwas k c hmem
    · cases hforce _ hmem
  · intro hup
    rcases h.held hup with hlive | ⟨hrel, k, command, htoken, hmem⟩
    · cases hphase : (sw.handle id request handle).phase with
      | idle => exact absurd (hadv.idle hphase).1 (Phase.isLive_iff.1 hlive).1
      | acquiring => exact .inl rfl
      | active => exact .inl rfl
      | releasing =>
        rcases hadv.awaits hphase with ⟨hrel, -, -⟩ | ⟨-, k, htoken, hmem⟩
        · exact absurd hrel (Phase.isLive_iff.1 hlive).2
        · exact .inr ⟨rfl, k, _, htoken, List.mem_append_right _ hmem⟩
    · have hrel' := hfollows.2 hrel
      rcases hadv.awaits hrel' with ⟨-, hsame, -⟩ | ⟨hlive, -⟩
      · exact .inr ⟨hrel', k, command, hsame.trans htoken, List.mem_append_left _ hmem⟩
      · exact absurd hrel (Phase.isLive_iff.1 hlive).2
  · intro hlive hoff c hc
    obtain ⟨hword, hwhy⟩ := hadv.live hlive c hc
    rw [hnew, List.map_append, Command.lastWord_append]
    by_cases hwas : sw.phase.isLive = true ∧ c ∈ sw.classes
    · rcases h.live hwas.1 hoff c hwas.2 with ⟨k, f, hsig, hmem⟩ | ⟨hold, hwhy'⟩
      · exact .inl ⟨k, f, hsig, List.mem_append_left _ hmem⟩
      · refine .inr ⟨Command.lastWord_mono (fun _ => hold) hword, ?_⟩
        rcases hwhy with ⟨k, hk⟩ | ⟨-, -, hkeep⟩
        · exact .inl ⟨k, List.mem_append_right _ hk⟩
        · rcases hwhy' with ⟨k, hk⟩ | hconn | hsig
          · exact .inl ⟨k, List.mem_append_left _ hk⟩
          · exact .inr (.inl (hkeep hconn))
          · exact .inr (.inr hsig)
    · refine .inr ⟨Command.lastWord_mono (fun hno => ?_) hword, ?_⟩
      · exact absurd (of_decide_eq_true hno) hwas
      · rcases hwhy with ⟨k, hk⟩ | ⟨hl, hcl, -⟩
        · exact .inl ⟨k, List.mem_append_right _ hk⟩
        · exact absurd ⟨hl, hcl⟩ hwas

/-- When the end of a command comes up, it is that of the first command in flight. -/
theorem first (h : Line sw (signal :: signals) jobs up) {k : Nat} {f : Option ModemFault}
    (hsig : signal = .completed k f) :
    ∃ command ended, sw.inflight = (k, command) :: (ended ++ jobs) ∧
      ended.map Prod.fst = endedTokens signals ∧ (sw.without k).inflight = ended ++ jobs ∧
      ∀ e ∈ ended ++ jobs, k < e.1 := by
  obtain ⟨ended, hin, htokens⟩ := h.order
  rw [hsig, endedTokens_completed] at htokens
  cases ended with
  | nil => cases htokens
  | cons e ended =>
    obtain ⟨j, command⟩ := e
    simp only [List.map_cons, List.cons.injEq] at htokens
    obtain ⟨rfl, htokens⟩ := htokens
    have hsorted := h.sound.tokens.sorted
    rw [hin, List.cons_append, List.pairwise_cons] at hsorted
    refine ⟨command, ended, hin, htokens, ?_, hsorted.1⟩
    unfold Switch.without
    rw [hin, List.cons_append, List.filter_cons_of_neg (by simp), List.filter_eq_self]
    intro e he
    have hlt := hsorted.1 e he
    simp only [decide_eq_true_eq]
    omega

/-- After a signal the rest of the commands in flight is still in order. -/
theorem order_ended (h : Line sw (signal :: signals) jobs up) :
    ∃ ended : List (Nat × Command), (sw.ended signal).inflight = ended ++ jobs ∧
      ended.map Prod.fst = endedTokens signals ∧
      (∀ e ∈ (sw.ended signal).inflight, e ∈ sw.inflight) ∧
      ∀ k f c, .completed k f ∈ signals → (k, .enable c) ∈ sw.inflight →
        (k, .enable c) ∈ (sw.ended signal).inflight := by
  cases hsig : signal with
  | completed k f =>
    obtain ⟨command, ended, hin, htokens, hwithout, hlt⟩ := h.first hsig
    refine ⟨ended, hwithout, htokens, fun e he => ?_, fun j f' c hmem hj => ?_⟩
    · have he' : e ∈ (sw.without k).inflight := he
      rw [hin]
      rw [hwithout] at he'
      exact List.mem_cons_of_mem _ he'
    · have hj' := mem_endedTokens hmem
      rw [← htokens, List.mem_map] at hj'
      obtain ⟨e, he, rfl⟩ := hj'
      have hne := hlt e (List.mem_append_left _ he)
      have hgoal : (e.1, .enable c) ∈ (sw.without k).inflight := by
        rw [hwithout]
        rw [hin, List.mem_cons] at hj
        rcases hj with heq | hj
        · simp only [Prod.mk.injEq] at heq
          omega
        · exact hj
      exact hgoal
  | classConnected c =>
    obtain ⟨ended, hin, htokens⟩ := h.order
    rw [hsig, endedTokens_classConnected] at htokens
    exact ⟨ended, hin, htokens, fun e he => he, fun _ _ _ _ hj => hj⟩
  | radio r =>
    obtain ⟨ended, hin, htokens⟩ := h.order
    rw [hsig, endedTokens_radio] at htokens
    exact ⟨ended, hin, htokens, fun e he => he, fun _ _ _ _ hj => hj⟩

/-- When a release ends, no command to bring up a class is left. -/
theorem no_enable_of_released (h : Line sw (signal :: signals) jobs up) {k : Nat}
    {f : Option ModemFault} (hsig : signal = .completed k f) (htoken : sw.releaseToken = some k)
    {j : Nat} {c : DataClass} : (j, .enable c) ∉ (sw.ended signal).inflight := by
  obtain ⟨command, ended, hin, -, hwithout, hlt⟩ := h.first hsig
  intro hmem
  have hmem' : (j, .enable c) ∈ ended ++ jobs := by
    rw [← hwithout]
    rw [hsig] at hmem
    exact hmem
  have hbarrier := h.sound.tokens.barrier k htoken (j, .enable c)
    (by rw [hin]; exact List.mem_cons_of_mem _ hmem') c rfl
  have hlater := hlt _ hmem'
  simp only at hbarrier hlater
  omega

/-- What carries data after a signal does so for a live switch, or for a release that has not
reached the modem. -/
theorem held_hear (h : Line sw (signal :: signals) jobs up) {new : List (Nat × Command)}
    (hminds : sw.Minds signal (sw.hear signal) new) (hup : ∃ c, c ∈ up) :
    (sw.hear signal).phase.isLive = true ∨ (sw.hear signal).phase = .releasing ∧
      ∃ k command, (sw.hear signal).releaseToken = some k ∧ (k, command) ∈ jobs ++ new := by
  cases hphase : (sw.hear signal).phase with
  | acquiring => exact .inl rfl
  | active => exact .inl rfl
  | idle =>
    obtain ⟨-, hwas⟩ := hminds.idle hphase
    rcases h.held hup with hlive | ⟨hrel, k, command, htoken, hmem⟩
    · rcases hwas with hwas | ⟨j, f, -, htoken⟩
      · exact absurd hwas (Phase.isLive_iff.1 hlive).1
      · exact absurd (h.sound.tokens.releaseToken_eq htoken) (Phase.isLive_iff.1 hlive).2
    · rcases hwas with hwas | ⟨j, f, hsig, htoken'⟩
      · rw [hrel] at hwas
        cases hwas
      · obtain ⟨-, ended', -, -, -, hlt⟩ := h.first hsig
        rw [htoken, Option.some.injEq] at htoken'
        have := hlt _ (List.mem_append_right ended' hmem)
        simp only at this
        omega
  | releasing =>
    rcases hminds.awaits hphase with ⟨hrel, hsame, hnone⟩ | ⟨-, k, htoken, hmem⟩
    · rcases h.held hup with hlive | ⟨-, k, command, htoken, hmem⟩
      · exact absurd hrel (Phase.isLive_iff.1 hlive).2
      · exact .inr ⟨rfl, k, command, hsame.trans htoken, List.mem_append_left _ hmem⟩
    · exact .inr ⟨rfl, k, _, htoken, List.mem_append_right _ hmem⟩

/-- A switch takes a signal. -/
theorem hear (h : Line sw (signal :: signals) jobs up) {new : List (Nat × Command)}
    (hnew : (sw.hear signal).inflight = (sw.ended signal).inflight ++ new) :
    Line (sw.hear signal) signals (jobs ++ new) up := by
  obtain ⟨new', hin, hminds⟩ := Switch.minds_hear h.sound h.arbitrated signal
  rw [hnew] at hin
  have heq := List.append_cancel_left hin
  subst heq
  obtain ⟨es, hadds, -⟩ := Switch.hear_cases h.arbitrated signal
  obtain ⟨ended, hended, htokens, hsub, hkeep⟩ := h.order_ended
  have harb : (sw.ended signal).arbitrated = true :=
    (sw.ended_arbitrated signal).trans h.arbitrated
  refine ⟨h.sound.hear signal, hadds.arbitrated.trans harb, ?_, ?_, h.held_hear hminds, ?_⟩
  · exact ⟨ended, by rw [hnew, hended, List.append_assoc], htokens⟩
  · intro hidle k c hmem
    obtain ⟨hnone, hwas⟩ := hminds.idle hidle
    rw [hnew, hnone, List.append_nil] at hmem
    rcases hwas with hwas | ⟨j, f, hsig, htoken⟩
    · exact h.idle hwas k c (hsub _ hmem)
    · exact h.no_enable_of_released hsig htoken hmem
  · intro hlive hoff c hc
    obtain ⟨hwas, hradio, hnone, hclasses⟩ := hminds.live hlive
    obtain ⟨hmem, hconn, hheard, hfail⟩ := hclasses c hc
    have hoff' : .radio .off ∉ signal :: signals := by
      intro hin
      rcases List.mem_cons.1 hin with heq | hin
      · exact hradio heq.symm
      · exact hoff hin
    rw [hnew, hnone, List.append_nil, List.append_nil]
    rcases h.live hwas hoff' c hmem with ⟨k, f, hsig, hk⟩ | ⟨hword, hwhy⟩
    · rcases List.mem_cons.1 hsig with heq | hsig
      · exact absurd hk (hfail k f heq.symm)
      · exact .inl ⟨k, f, hsig, hkeep k _ c hsig hk⟩
    · refine .inr ⟨hword, ?_⟩
      rcases hwhy with hjob | hcon | hsig
      · exact .inl hjob
      · exact .inr (.inl (hconn hcon))
      · rcases List.mem_cons.1 hsig with heq | hsig
        · exact .inr (.inl (hheard heq.symm))
        · exact .inr (.inr hsig)

/-! ## The modem at the line -/

section Execute

variable {k : Nat} {command : Command} {up' : ClassSet} {fault : Option ModemFault} {c : DataClass}

theorem endedTokens_signals (k : Nat) (command : Command) (fault : Option ModemFault) :
    endedTokens (Modem.signals k command fault) = [k] := by
  unfold Modem.signals
  split <;> rfl

/-- A class that is up after a command was up before, or the command has brought it up. -/
theorem up_or_enabled (hdone : fault = none → ∀ c, c ∈ up' ↔ command.word c (c ∈ up) = true)
    (hfailed : fault ≠ none → up' = up) (hc : c ∈ up') : c ∈ up ∨ command = .enable c := by
  by_cases hfault : fault = none
  · have hword := (hdone hfault c).1 hc
    cases command with
    | enable d =>
      simp only [Command.word, Bool.or_eq_true, decide_eq_true_eq] at hword
      rcases hword with hold | rfl
      · exact .inl hold
      · exact .inr rfl
    | disable d =>
      simp only [Command.word, Bool.and_eq_true, decide_eq_true_eq] at hword
      exact .inl hword.1
    | forceIdle => cases hword
  · rw [hfailed hfault] at hc
    exact .inl hc

/-- A class that is wanted up after a command is up, unless bringing it up has failed. -/
theorem up_or_failed (hdone : fault = none → ∀ c, c ∈ up' ↔ command.word c (c ∈ up) = true)
    (hfailed : fault ≠ none → up' = up) (hword : command.word c (c ∈ up) = true) :
    c ∈ up' ∨ ∃ f, fault = some f ∧ command = .enable c := by
  cases hfault : fault with
  | none => exact .inl ((hdone hfault c).2 hword)
  | some f =>
    rw [hfailed (by simp [hfault])]
    cases command with
    | enable d =>
      simp only [Command.word, Bool.or_eq_true, decide_eq_true_eq] at hword
      rcases hword with hold | rfl
      · exact .inl hold
      · exact .inr ⟨f, rfl, rfl⟩
    | disable d =>
      simp only [Command.word, Bool.and_eq_true, decide_eq_true_eq] at hword
      exact .inl hword.1
    | forceIdle => cases hword

/-- While a release has something to take down, the modem has its force-idle before it. -/
theorem forceIdle_mem (h : Line sw signals ((k, command) :: jobs) up)
    (hphase : sw.phase = .releasing) (hc : c ∈ up ∨ command = .enable c) :
    ∃ j, sw.releaseToken = some j ∧ (j, .forceIdle) ∈ (k, command) :: jobs := by
  obtain ⟨j, htoken, hforce⟩ := h.sound.tokens.token hphase
  refine ⟨j, htoken, ?_⟩
  rcases hc with hold | rfl
  · rcases h.held ⟨c, hold⟩ with hlive | ⟨-, i, command', htoken', hin⟩
    · rw [hphase] at hlive
      cases hlive
    · rw [htoken, Option.some.injEq] at htoken'
      subst htoken'
      have heq := h.sound.tokens.command_unique (h.mem_inflight hin) hforce
      rw [heq] at hin
      exact hin
  · -- The command to bring the class up is older than the release, so both are in the queue.
    have hmem : (k, .enable c) ∈ sw.inflight := h.mem_inflight List.mem_cons_self
    have hlt := h.sound.tokens.barrier j htoken _ hmem c rfl
    obtain ⟨ended, hin, -⟩ := h.order
    have hsorted := h.sound.tokens.sorted
    rw [hin, List.pairwise_append] at hsorted
    rw [hin, List.mem_append] at hforce
    rcases hforce with hforce | hforce
    · have := hsorted.2.2 _ hforce _ List.mem_cons_self
      simp only at this hlt
      omega
    · exact hforce

/-- What carries data after a command does so for a live switch, or for a release that has
not reached the modem. -/
theorem held_execute (h : Line sw signals ((k, command) :: jobs) up)
    (hcleared : command = .forceIdle → up' = ∅) (hc : c ∈ up')
    (hold : c ∈ up ∨ command = .enable c) :
    sw.phase.isLive = true ∨
      sw.phase = .releasing ∧ ∃ j command', sw.releaseToken = some j ∧ (j, command') ∈ jobs := by
  cases hphase : sw.phase with
  | acquiring => exact .inl rfl
  | active => exact .inl rfl
  | idle =>
    rcases hold with hold | rfl
    · rcases h.held ⟨c, hold⟩ with hlive | ⟨hrel, -⟩
      · rw [hphase] at hlive
        cases hlive
      · rw [hphase] at hrel
        cases hrel
    · exact absurd (h.mem_inflight List.mem_cons_self) (h.idle hphase k c)
  | releasing =>
    obtain ⟨j, htoken, hjob⟩ := h.forceIdle_mem hphase hold
    refine .inr ⟨rfl, j, .forceIdle, htoken, ?_⟩
    rcases List.mem_cons.1 hjob with heq | hjob
    · simp only [Prod.mk.injEq] at heq
      rw [hcleared heq.2.symm] at hc
      exact absurd hc (ClassSet.not_mem_empty c)
    · exact hjob

/-- The switch has heard of a class that it wants, or will. -/
theorem heard_execute (hwhy : (∃ j, (j, .enable c) ∈ (k, command) :: jobs) ∨
      c ∈ sw.connected ∨ .classConnected c ∈ signals)
    (hup : ∀ f, fault = some f → command ≠ .enable c) :
    (∃ j, (j, .enable c) ∈ jobs) ∨ c ∈ sw.connected ∨
      .classConnected c ∈ signals ++ Modem.signals k command fault := by
  rcases hwhy with ⟨j, hj⟩ | hcon | hsig
  · rcases List.mem_cons.1 hj with heq | hj
    · simp only [Prod.mk.injEq] at heq
      refine .inr (.inr (List.mem_append_right _ ?_))
      rw [← heq.2] at hup ⊢
      cases hfault : fault with
      | none => simp [Modem.signals]
      | some f => exact absurd rfl (hup f hfault)
    · exact .inl ⟨j, hj⟩
  · exact .inr (.inl hcon)
  · exact .inr (.inr (List.mem_append_left _ hsig))

/-- The modem executes the next command. -/
theorem execute (h : Line sw signals ((k, command) :: jobs) up)
    (hdone : fault = none → ∀ c, c ∈ up' ↔ command.word c (c ∈ up) = true)
    (hfailed : fault ≠ none → up' = up) (hcleared : command = .forceIdle → up' = ∅) :
    Line sw (signals ++ Modem.signals k command fault) jobs up' := by
  refine ⟨h.sound, h.arbitrated, ?_, h.idle, ?_, ?_⟩
  · obtain ⟨ended, hin, hended⟩ := h.order
    refine ⟨ended ++ [(k, command)], by simp [hin], ?_⟩
    rw [List.map_append, hended, endedTokens_append, endedTokens_signals]
    rfl
  · rintro ⟨c, hc⟩
    exact h.held_execute hcleared hc (up_or_enabled hdone hfailed hc)
  · intro hlive hoff c hc
    have hoff' : .radio .off ∉ signals := fun hin => hoff (List.mem_append_left _ hin)
    by_cases hfails : ∃ f, fault = some f ∧ command = .enable c
    · obtain ⟨f, rfl, rfl⟩ := hfails
      exact .inl ⟨k, f, by simp [Modem.signals], h.mem_inflight List.mem_cons_self⟩
    · rcases h.live hlive hoff' c hc with ⟨j, f, hsig, hj⟩ | ⟨hword, hwhy⟩
      · exact .inl ⟨j, f, List.mem_append_left _ hsig, hj⟩
      · rw [List.map_cons, Command.lastWord_cons] at hword
        refine .inr ⟨Command.lastWord_mono (fun hyes => ?_) hword,
          heard_execute hwhy fun f hf hc => hfails ⟨f, hf, hc⟩⟩
        exact decide_eq_true ((up_or_failed hdone hfailed hyes).resolve_right hfails)

end Execute

/-- The modem sets the radio of the slot. -/
theorem tune (h : Line sw signals jobs up) {up' : ClassSet} {more : List Signal}
    (hmore : ∀ x ∈ more, ∃ radio, x = .radio radio)
    (hup : up' = up ∨ up' = ∅ ∧ .radio .off ∈ more) :
    Line sw (signals ++ more) jobs up' := by
  have htokens : endedTokens more = [] := by
    refine List.filterMap_eq_nil_iff.2 fun x hx => ?_
    obtain ⟨radio, rfl⟩ := hmore x hx
    rfl
  have hsub : ∀ c, c ∈ up' → c ∈ up := by
    intro c hc
    rcases hup with rfl | ⟨rfl, -⟩
    · exact hc
    · exact absurd hc (ClassSet.not_mem_empty c)
  refine ⟨h.sound, h.arbitrated, ?_, h.idle, ?_, ?_⟩
  · obtain ⟨ended, hin, hended⟩ := h.order
    exact ⟨ended, hin, by rw [endedTokens_append, htokens, List.append_nil, hended]⟩
  · rintro ⟨c, hc⟩
    exact h.held ⟨c, hsub c hc⟩
  · intro hlive hoff c hc
    have hoff' : .radio .off ∉ signals := fun hin => hoff (List.mem_append_left _ hin)
    rcases hup with rfl | ⟨-, hin⟩
    · rcases h.live hlive hoff' c hc with ⟨j, f, hsig, hj⟩ | ⟨hword, hwhy⟩
      · exact .inl ⟨j, f, List.mem_append_left _ hsig, hj⟩
      · refine .inr ⟨hword, ?_⟩
        rcases hwhy with hjob | hcon | hsig
        · exact .inl hjob
        · exact .inr (.inl hcon)
        · exact .inr (.inr (List.mem_append_left _ hsig))
    · exact absurd (List.mem_append_right _ hin) hoff

end Line

end DataPath
