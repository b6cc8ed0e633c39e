import DataPath.Proofs.Switch.Ledger
import DataPath.Proofs.Switch.Step

/-!
# Refused commands

A command that the modem does not accept comes back to the switch as one that has failed, and then
the switch may want more done.  So effects are carried out in rounds, until the switch wants nothing
any more.

What a refusal may lead to is said once (`Refused`).  With that it can be told from a switch how many
rounds it takes at most (`rounds`).  In the worst case the switch is releasing and keeps connects:

1. its force-idle is refused, the release is over, and the connects are tried again;
2. their commands are refused, and with the last class that is lost the switch starts a release;
3. the force-idle of that is refused as well, and now there is nobody to be tried again;
4. what is left says only what has happened.

No switch ever takes more rounds than there are (`outbox_carryOut`).
-/

namespace DataPath.Switch

variable {ρ : Type} {s s' : Switch ρ} {token : Nat} {accepts : Nat → Bool}

/-! ## One refusal -/

/-- What becomes of a switch whose command is refused. -/
inductive Refused (s : Switch ρ) (token : Nat) (s' : Switch ρ) : Prop where
  /-- It is noted, and that is all. -/
  | noted (hphase : s'.phase = s.phase ∨ s.phase.isLive = true)
      (htoken : s'.releaseToken = s.releaseToken) (hparked : s'.parked = s.parked)
      (hout : submissions s'.outbox = submissions s.outbox)
  /-- No class is left, and a release starts. -/
  | released (hlive : s.phase.isLive = true) (hphase : s'.phase = .releasing)
      (htoken : s'.releaseToken = some s.nextToken) (hparked : s'.parked = s.parked)
  /-- The release is over. -/
  | completed (hphase : s.phase = .releasing) (htoken : s.releaseToken = some token)
      (hparked : s'.parked = [])
      (hidle : s.parked = [] → s'.phase = .idle ∧ submissions s'.outbox = submissions s.outbox)

/-- A connect is parked during a release only, and does not start one. -/
theorem connect_of_ne_releasing (hp : s.phase ≠ .releasing) (id : Nat) (c : DataClass)
    (handle : Option ρ) (grant : Option Grant) :
    (s.connect id c handle grant).phase ≠ .releasing ∧
      (s.connect id c handle grant).parked = s.parked := by
  unfold connect
  split
  · rw [answer_eq]
    exact ⟨hp, rfl⟩
  · split
    · next hrel => exact absurd hrel hp
    · split
      · exact ⟨hp, rfl⟩
      · rw [answer_eq, enter_eq]
        exact ⟨nofun, rfl⟩
    all_goals
      split
      · rw [answer_eq]
        exact ⟨hp, rfl⟩
      · split
        · rw [answer_eq]
          exact ⟨hp, rfl⟩
        · rw [answer_eq]
          exact ⟨hp, rfl⟩

/-- The same holds of many connects that are tried again. -/
theorem foldl_replay_of_ne_releasing (hp : s.phase ≠ .releasing) (ps : List (Parked ρ)) :
    (ps.foldl replay s).phase ≠ .releasing ∧ (ps.foldl replay s).parked = s.parked := by
  induction ps generalizing s with
  | nil => exact ⟨hp, rfl⟩
  | cons p ps ih =>
    obtain ⟨hphase, hparked⟩ := connect_of_ne_releasing
      (s := s.emit (.event (.deferredReplayed s.tenant p.dataClass))) hp p.id p.dataClass p.handle none
    obtain ⟨hphases, hparkeds⟩ := ih hphase
    exact ⟨hphases, hparkeds.trans hparked⟩

/-- When a release is over nobody is parked, and if nobody was then the switch wants nothing. -/
theorem completeRelease_cases (s : Switch ρ) : s.completeRelease.parked = [] ∧
    (s.parked = [] → s.completeRelease.phase = .idle ∧
      submissions s.completeRelease.outbox = submissions s.outbox) := by
  unfold completeRelease
  simp only [enter_eq]
  refine ⟨(foldl_replay_of_ne_releasing (by simp [emit]) _).2, fun hnil => ?_⟩
  simp [hnil, emit, Effect.submission?]

/-- Telling of a change changes nothing. -/
theorem Refused.publishChange (h : Refused s token s') (before : Snapshot) :
    Refused s token (s'.publishChange before) := by
  rw [publishChange_eq]
  cases h with
  | noted hphase htoken hparked hout => exact .noted hphase htoken hparked (by simpa using hout)
  | released hlive hphase htoken hparked => exact .released hlive hphase htoken hparked
  | completed hphase htoken hparked hidle =>
    refine .completed hphase htoken hparked fun hnil => ⟨(hidle hnil).1, ?_⟩
    simpa using (hidle hnil).2

/-- What the end of a command leads to, when the modem has refused it. -/
theorem refused_finish (s : Switch ρ) (token : Nat) (command : Command) (f : ModemFault) :
    Refused s token (s.finish token command (some f)) := by
  cases command with
  | disable c => exact .noted (.inl rfl) rfl rfl (by simp [finish, emit, Effect.submission?])
  | forceIdle =>
    unfold finish
    simp only
    split
    · next h =>
      obtain ⟨hparked, hidle⟩ := completeRelease_cases s
      exact .completed h.1 h.2 hparked hidle
    · exact .noted (.inl rfl) rfl rfl rfl
  | enable c =>
    unfold finish
    simp only
    split
    · next h =>
      rcases settle_cases ((s.untrack c).emit
        (.event (.requestFailed s.tenant (some c) (.transport f)))) with
        ⟨-, heq⟩ | ⟨-, heq⟩ | ⟨-, heq⟩
      · rw [heq, beginRelease_eq]
        exact .released h.2 rfl rfl rfl
      · rw [heq, enter_eq]
        exact .noted (.inr h.2) rfl rfl (by simp [emit, untrack, Effect.submission?])
      · rw [heq]
        exact .noted (.inl rfl) rfl rfl (by simp [emit, untrack, Effect.submission?])
    · exact .noted (.inl rfl) rfl rfl (by simp [emit, untrack, Effect.submission?])

/-- What a refusal leads to, whatever the command. -/
theorem refused_hear (s : Switch ρ) (token : Nat) (f : ModemFault) :
    Refused s token (s.hear (.completed token (some f))) := by
  unfold hear
  simp only
  split
  · exact .noted (.inl rfl) rfl rfl rfl
  · next command _ =>
    have hended := refused_finish
      { s with inflight := s.inflight.filter fun entry => entry.1 ≠ token } token command f
    refine Refused.publishChange ?_ _
    cases hended with
    | noted hphase htoken hparked hout => exact .noted hphase htoken hparked hout
    | released hlive hphase htoken hparked => exact .released hlive hphase htoken hparked
    | completed hphase htoken hparked hidle => exact .completed hphase htoken hparked hidle

/-! ## One round -/

/-- The switch after one round, in which it was told which commands the modem refused. -/
def round (accepts : Nat → Bool) (s : Switch ρ) : Switch ρ :=
  s.drain.1.foldl (attempt accepts) s.drain.2

/-- What is kept whenever the switch hears that a command in its outbox is refused, is kept by the
round. -/
theorem round_induction {P : Switch ρ → Prop} (hstart : P { s with outbox := [] })
    (hhear : ∀ x : Switch ρ, P x → ∀ e ∈ submissions s.outbox,
      P (x.hear (.completed e.1 (some .closed)))) : P (s.round accepts) := by
  have hfold : ∀ (es : List (Effect ρ)), (∀ e ∈ submissions es, e ∈ submissions s.outbox) →
      ∀ x, P x → P (es.foldl (attempt accepts) x) := by
    intro es
    induction es with
    | nil => exact fun _ x hx => hx
    | cons e es ih =>
      intro hes x hx
      rw [submissions_cons] at hes
      refine ih (fun e he => hes e (List.mem_append_right _ he)) _ ?_
      cases e with
      | submit token command =>
        have hmem := hes (token, command) (List.mem_append_left _ (by simp [Effect.submission?]))
        change P (if accepts token then x else _)
        split
        · exact hx
        · exact hhear x hx _ hmem
      | notice | event | reply | askOwnership => exact hx
  exact hfold s.drain.1 (fun e he => by rwa [submissions_drain] at he) _ hstart

theorem Sound.round (h : s.Sound) (accepts : Nat → Bool) : (s.round accepts).Sound :=
  round_induction h.drain fun _ hx _ _ => hx.hear _

/-- The commands in the outbox have been given their tokens. -/
def Issued (s : Switch ρ) : Prop := ∀ e ∈ submissions s.outbox, e.1 < s.nextToken

/-- What a switch adds to an empty outbox has been given its tokens. -/
theorem Grows.issued {due : List (Owed ρ)} (h : Grows s s' due) (hnil : s.outbox = []) :
    s'.Issued := by
  obtain ⟨new, houtbox, ⟨cs, hcs, hnext⟩, -⟩ := h
  intro e he
  rw [houtbox, hnil, List.nil_append, hcs] at he
  rw [hnext]
  exact lt_of_mem_numbered he

theorem issued_round (accepts : Nat → Bool) (s : Switch ρ) : (s.round accepts).Issued := by
  have hgrows : Grows { s with outbox := [] } (s.round accepts) [] :=
    round_induction (P := fun x => Grows { s with outbox := [] } x []) (Grows.refl _)
      fun x hx _ _ => hx.and_then (grows_hear x _)
  exact hgrows.issued rfl

theorem nextToken_le_hear (s : Switch ρ) (signal : Signal) :
    s.nextToken ≤ (s.hear signal).nextToken := by
  obtain ⟨-, -, ⟨cs, -, hnext⟩, -⟩ := grows_hear s signal
  rw [hnext]
  exact Nat.le_add_right _ _

/-! ## How many rounds there are -/

/-- How many rounds it takes a switch at most to get everything done. -/
def rounds (s : Switch ρ) : Nat :=
  if submissions s.outbox = [] then (if s.outbox = [] then 0 else 1)
  else if s.phase ≠ .releasing then 3
  else if s.parked = [] then 2 else 4

theorem rounds_le_one (h : submissions s.outbox = []) : s.rounds ≤ 1 := by
  unfold rounds
  split_ifs <;> omega

theorem rounds_le_three (h : s.parked = []) : s.rounds ≤ 3 := by
  unfold rounds
  split_ifs <;> omega

theorem rounds_le_two (hp : s.phase = .releasing) (h : s.parked = []) : s.rounds ≤ 2 := by
  simp only [rounds, hp, h, ne_eq, not_true_eq_false, if_false, if_true]
  split_ifs <;> omega

section

variable (accepts)

/-- A round without commands. -/
theorem rounds_round_of_done (h : submissions s.outbox = []) : (s.round accepts).rounds = 0 := by
  have hnil : (s.round accepts).outbox = [] := by
    refine round_induction (P := fun x => x.outbox = []) rfl fun x _ e he => ?_
    rw [h] at he
    cases he
  simp [rounds, hnil]

/-- A release without anybody to be tried again wants nothing more. -/
theorem rounds_round_of_releasing (hp : s.phase = .releasing) (hparked : s.parked = []) :
    (s.round accepts).rounds ≤ 1 := by
  have hround : (s.round accepts).phase.isLive = false ∧ (s.round accepts).parked = [] ∧
      submissions (s.round accepts).outbox = [] := by
    refine round_induction (P := fun x => x.phase.isLive = false ∧ x.parked = [] ∧
      submissions x.outbox = []) ⟨by rw [hp]; rfl, hparked, rfl⟩ ?_
    rintro x ⟨hlive, hnil, hout⟩ e -
    cases refused_hear x e.1 .closed with
    | noted hphase _ hparked' hout' =>
      refine ⟨?_, hparked'.trans hnil, hout'.trans hout⟩
      rw [hphase.resolve_right (by simp [hlive])]
      exact hlive
    | released hlive' => simp [hlive] at hlive'
    | completed _ _ hparked' hidle =>
      obtain ⟨hphase, hout'⟩ := hidle hnil
      exact ⟨by rw [hphase]; rfl, hparked', hout'.trans hout⟩
  exact rounds_le_one hround.2.2

/-- A switch that is not releasing may start to, once. -/
theorem rounds_round_of_ne_releasing (hparked : s.parked = []) (hissued : s.Issued) : (s.round accepts).rounds ≤ 2 := by
  have hround : (s.round accepts).parked = [] ∧ s.nextToken ≤ (s.round accepts).nextToken ∧
      (submissions (s.round accepts).outbox = [] ∨ (s.round accepts).phase = .releasing ∧
        ∃ k, (s.round accepts).releaseToken = some k ∧ s.nextToken ≤ k) := by
    refine round_induction (P := fun x => x.parked = [] ∧ s.nextToken ≤ x.nextToken ∧
      (submissions x.outbox = [] ∨ x.phase = .releasing ∧
        ∃ k, x.releaseToken = some k ∧ s.nextToken ≤ k)) ⟨hparked, Nat.le_refl _, .inl rfl⟩ ?_
    rintro x ⟨hnil, hnext, hwhy⟩ e he
    have hnext' := Nat.le_trans hnext (nextToken_le_hear x (.completed e.1 (some .closed)))
    cases refused_hear x e.1 .closed with
    | noted hphase htoken hparked' hout' =>
      refine ⟨hparked'.trans hnil, hnext', hwhy.imp hout'.trans fun ⟨hrel, k, hk, hle⟩ => ?_⟩
      refine ⟨?_, k, htoken.trans hk, hle⟩
      rw [hphase.resolve_right (by simp [hrel, Phase.isLive]), hrel]
    | released _ hphase htoken hparked' =>
      exact ⟨hparked'.trans hnil, hnext', .inr ⟨hphase, _, htoken, hnext⟩⟩
    | completed hphase htoken hparked' hidle =>
      refine ⟨hparked', hnext', .inl ((hidle hnil).2.trans ?_)⟩
      -- A release that has started in this round is not over in it.
      refine hwhy.resolve_right fun ⟨_, k, hk, hle⟩ => ?_
      rw [htoken, Option.some.injEq] at hk
      have hlt := hissued e he
      omega
  obtain ⟨hparked', -, hout | ⟨hrel, -⟩⟩ := hround
  · exact Nat.le_trans (rounds_le_one hout) (by decide)
  · exact rounds_le_two hrel hparked'

/-- At the end of a release nobody is parked any more. -/
theorem rounds_round_of_parked (hp : s.phase = .releasing) : (s.round accepts).rounds ≤ 3 := by
  have hround : (s.round accepts).parked = [] ∨ submissions (s.round accepts).outbox = [] ∧
      (s.round accepts).phase = .releasing := by
    refine round_induction (P := fun x => x.parked = [] ∨ submissions x.outbox = [] ∧
      x.phase = .releasing) (.inr ⟨rfl, hp⟩) ?_
    rintro x hx e -
    cases refused_hear x e.1 .closed with
    | noted hphase _ hparked' hout' =>
      refine hx.imp hparked'.trans fun ⟨hout, hrel⟩ => ⟨hout'.trans hout, ?_⟩
      rw [hphase.resolve_right (by simp [hrel, Phase.isLive]), hrel]
    | released hlive _ _ hparked' =>
      refine .inl (hparked'.trans (hx.resolve_right fun ⟨_, hrel⟩ => ?_))
      simp [hrel, Phase.isLive] at hlive
    | completed _ _ hparked' => exact .inl hparked'
  rcases hround with hparked' | ⟨hout, -⟩
  · exact rounds_le_three hparked'
  · exact Nat.le_trans (rounds_le_one hout) (by decide)

/-- Every round brings a switch nearer to the end. -/
theorem rounds_round_lt (h : s.Sound) (hissued : s.Issued) (hne : s.outbox ≠ []) : (s.round accepts).rounds < s.rounds := by
  by_cases hout : submissions s.outbox = []
  · rw [rounds_round_of_done accepts hout]
    simp [rounds, hout, hne]
  by_cases hp : s.phase = .releasing
  · by_cases hparked : s.parked = []
    · have hrounds : s.rounds = 2 := by simp [rounds, hout, hp, hparked]
      have hround := rounds_round_of_releasing accepts hp hparked
      omega
    · have hrounds : s.rounds = 4 := by simp [rounds, hout, hp, hparked]
      have hround := rounds_round_of_parked accepts hp
      omega
  · have hrounds : s.rounds = 3 := by simp [rounds, hout, hp]
    have hround := rounds_round_of_ne_releasing accepts (h.tracks.parked_eq_nil hp) hissued
    omega

end

/-! ## All rounds -/

/-- What is carried out in so many rounds is everything. -/
theorem outbox_carryOutFor (h : s.Sound) (hissued : s.Issued) {fuel : Nat} (hle : s.rounds ≤ fuel) :
    (s.carryOutFor accepts fuel).1.outbox = [] := by
  induction fuel generalizing s with
  | zero =>
    by_contra hne
    have hlt := rounds_round_lt accepts h hissued hne
    omega
  | succ fuel ih =>
    unfold carryOutFor
    simp only
    split
    · rfl
    · next hdrain =>
      have hne : s.outbox ≠ [] := fun hnil => hdrain (by simp [drain, hnil])
      have hlt := rounds_round_lt accepts h hissued hne
      exact ih (h.round accepts) (issued_round accepts s) (by unfold round at hlt; omega)

theorem Sound.carryOutFor (h : s.Sound) (accepts : Nat → Bool) (fuel : Nat) :
    (s.carryOutFor accepts fuel).1.Sound := by
  induction fuel generalizing s with
  | zero => exact h
  | succ fuel ih =>
    unfold Switch.carryOutFor
    simp only
    split
    · exact h.drain
    · exact ih (h.round accepts)

theorem Sound.carryOut (h : s.Sound) (accepts : Nat → Bool) : (s.carryOut accepts).1.Sound :=
  h.carryOutFor accepts maxRounds

/-- Effects are carried out until the switch wants nothing any more. -/
theorem outbox_carryOut (h : s.Sound) (hissued : s.Issued) (accepts : Nat → Bool) :
    (s.carryOut accepts).1.outbox = [] := by
  refine outbox_carryOutFor h hissued ?_
  unfold rounds maxRounds
  split_ifs <;> omega

end DataPath.Switch
