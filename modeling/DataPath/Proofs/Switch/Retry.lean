import DataPath.Proofs.Switch.Log

/-!
# Asking the modem again

A live switch that is told to retry goes through the classes that it wants and does not have, and
submits a command for each that no command in flight is about to bring up.  The table of commands in
flight grows while the switch goes through the classes, so what it finds there is not what was there
at the start.  But it lists every class once, and a command that it has submitted is for a class that
it has passed (`foldl_retry_eq`).  So the commands are those for the classes that were lacking at the
start (`lacking`), whatever else is in flight: commands for classes that were let go of, several
commands for one class, commands of other kinds.

Afterwards nothing is lacking, which is why a second retry submits nothing (`retries_of_run`).
-/

namespace DataPath.Switch

variable {ρ : Type} {s : Switch ρ}

/-! ## The classes that are lacking -/

/-- The classes that the switch wants and does not have, and that no command in flight is about to
bring up. -/
def lacking (s : Switch ρ) : List DataClass := s.waiting.toList.filter fun c => !s.isEnabling c

/-- The commands that a retry submits, with their tokens. -/
def retrials (s : Switch ρ) : List (Nat × Command) := numbered s.nextToken (s.lacking.map .enable)

theorem isEnabling_iff {c : DataClass} :
    s.isEnabling c = true ↔ ∃ k, (k, .enable c) ∈ s.inflight := by
  simp [isEnabling]

theorem mem_waiting {c : DataClass} : c ∈ s.waiting ↔ c ∈ s.classes ∧ c ∉ s.connected :=
  ClassSet.mem_diff

theorem mem_lacking {c : DataClass} :
    c ∈ s.lacking ↔ (c ∈ s.classes ∧ c ∉ s.connected) ∧ ∀ k, (k, .enable c) ∉ s.inflight := by
  rw [lacking, List.mem_filter, ClassSet.mem_toList, mem_waiting, Bool.not_eq_true', ← not_exists,
    ← isEnabling_iff, Bool.not_eq_true]

theorem nodup_lacking (s : Switch ρ) : s.lacking.Nodup :=
  s.waiting.nodup_toList.sublist List.filter_sublist

/-- A command that has been submitted is for its own class only. -/
theorem isEnabling_submit (s : Switch ρ) (c d : DataClass) :
    (s.submit (.enable c)).isEnabling d = (s.isEnabling d || decide (c = d)) := by
  simp [isEnabling, submit, emit]

/-- Classes that are listed once each are retried as if nothing were in flight but what was at the
start. -/
theorem foldl_retry_eq (s : Switch ρ) {cs : List DataClass} (hcs : cs.Nodup) :
    cs.foldl retry s = ((cs.filter fun c => !s.isEnabling c).map .enable).foldl submit s := by
  induction cs generalizing s with
  | nil => rfl
  | cons c cs ih =>
    obtain ⟨hc, hcs⟩ := List.nodup_cons.1 hcs
    rw [List.foldl_cons, ih _ hcs, retry]
    split
    · next hflight => rw [List.filter_cons_of_neg (by simp [hflight])]
    · next hflight =>
      have hlater : (cs.filter fun d => !(s.submit (.enable c)).isEnabling d) =
          cs.filter fun d => !s.isEnabling d := by
        refine List.filter_congr fun d hd => ?_
        have hne : c ≠ d := fun heq => hc (heq ▸ hd)
        rw [isEnabling_submit, decide_eq_false hne, Bool.or_false]
      rw [List.filter_cons_of_pos (by simpa using hflight), hlater, List.map_cons, List.foldl_cons]

/-! ## One retry -/

theorem retryConnect_eq (hlive : s.phase.isLive = true) :
    s.retryConnect.1 = (s.lacking.map .enable).foldl submit s := by
  unfold retryConnect
  rw [if_neg (by simpa using hlive)]
  split
  · next hempty =>
    have hnone : s.waiting = ∅ := ClassSet.eq_empty_iff.2 (ClassSet.isEmpty_iff.1 hempty)
    rw [lacking, hnone, ClassSet.toList_empty]
    rfl
  · exact foldl_retry_eq s s.waiting.nodup_toList

/-- The answer to a retry tells whether there is anything to wait for. -/
theorem retryConnect_outcome (hlive : s.phase.isLive = true) :
    (s.retryConnect.2 = .alreadyActive ∧ ∀ c ∈ s.classes, c ∈ s.connected) ∨
      (s.retryConnect.2 = .started ∧ ∃ c ∈ s.classes, c ∉ s.connected) := by
  unfold retryConnect
  rw [if_neg (by simpa using hlive)]
  split
  · next hempty =>
    refine .inl ⟨rfl, fun c hc => ?_⟩
    by_contra hconn
    exact ClassSet.isEmpty_iff.1 hempty c (mem_waiting.2 ⟨hc, hconn⟩)
  · next hsome =>
    obtain ⟨c, hc⟩ := ClassSet.exists_mem_of_not_isEmpty hsome
    exact .inr ⟨rfl, c, mem_waiting.1 hc⟩

/-- A retry puts commands in flight, and that is all it does to the records. -/
theorem after_retry (hlive : s.phase.isLive = true) (id : Nat) (handle : Option ρ) :
    s.after (.request id .retryConnect handle) =
      { s with
        inflight := s.inflight ++ s.retrials
        nextToken := s.nextToken + s.lacking.length
        outbox := s.outbox ++ (s.retrials.map fun e => .submit e.1 e.2) ++
          replyTo handle id (.outcome s.retryConnect.2) } := by
  have hserved : s.after (.request id .retryConnect handle) =
      (s.retryConnect.1.answer handle id (.outcome s.retryConnect.2)).publishChange s.snapshot := rfl
  rw [hserved, retryConnect_eq hlive, foldl_submit_eq, answer_eq]
  have hsame : ∀ (es : List (Nat × Command)) (k : Nat) (out : List (Effect ρ)),
      { s with inflight := es, nextToken := k, outbox := out }.publishChange s.snapshot =
        { s with inflight := es, nextToken := k, outbox := out } := fun _ _ _ => if_pos rfl
  rw [hsame, List.length_map]
  rfl

theorem emitted_retry (hlive : s.phase.isLive = true) (id : Nat) (handle : Option ρ) :
    s.emitted (.request id .retryConnect handle) =
      (s.retrials.map fun e => .submit e.1 e.2) ++ replyTo handle id (.outcome s.retryConnect.2) := by
  refine emitted_eq ?_
  rw [after_retry hlive, List.append_assoc]

/-! ## Another retry -/

/-- After a retry something is in flight for whatever the switch is waiting for. -/
theorem lacking_after_retry (hlive : s.phase.isLive = true) (id : Nat) (handle : Option ρ) :
    (s.after (.request id .retryConnect handle)).lacking = [] := by
  rw [after_retry hlive]
  refine List.eq_nil_iff_forall_not_mem.2 fun c hc => ?_
  obtain ⟨hwaiting, hnone⟩ := mem_lacking.1 hc
  by_cases hflight : ∃ k, (k, .enable c) ∈ s.inflight
  · obtain ⟨k, hk⟩ := hflight
    exact hnone k (List.mem_append_left _ hk)
  · have hlacking : c ∈ s.lacking := mem_lacking.2 ⟨hwaiting, not_exists.1 hflight⟩
    have hcommand : .enable c ∈ s.retrials.map Prod.snd := by
      rw [retrials, map_snd_numbered]
      exact List.mem_map_of_mem hlacking
    obtain ⟨⟨k, _⟩, hk, rfl⟩ := List.mem_map.1 hcommand
    exact hnone k (List.mem_append_right _ hk)

/-- The answer does not depend on what is in flight. -/
theorem retryConnect_outcome_congr {s' : Switch ρ} (hphase : s'.phase = s.phase)
    (hwaiting : s'.waiting = s.waiting) : s'.retryConnect.2 = s.retryConnect.2 := by
  unfold retryConnect
  rw [hphase, hwaiting]
  split
  · rfl
  · split <;> rfl

theorem outcome_after_retry (hlive : s.phase.isLive = true) (id : Nat) (handle : Option ρ) :
    (s.after (.request id .retryConnect handle)).retryConnect.2 = s.retryConnect.2 := by
  rw [after_retry hlive]
  exact retryConnect_outcome_congr rfl rfl

/-- A retry covers exactly what a switch is waiting for: this is the answer, and these are the classes
for which a command is submitted. -/
structure Retries (s : Switch ρ) (outcome : Outcome) (cs : List DataClass) : Prop where
  /-- The answer is that everything is there already if it is, and else that it is on its way. -/
  answer : (outcome = .alreadyActive ∧ ∀ c ∈ s.classes, c ∈ s.connected) ∨
    (outcome = .started ∧ ∃ c ∈ s.classes, c ∉ s.connected)
  /-- A command is submitted for a class if it is wanted, not there, and not about to be brought up. -/
  mem : ∀ c, c ∈ cs ↔ (c ∈ s.classes ∧ c ∉ s.connected) ∧ ∀ k, (k, .enable c) ∉ s.inflight
  /-- No class gets two. -/
  nodup : cs.Nodup
  /-- The commands have the next tokens, and behind them comes the answer; there is no other
  effect. -/
  emitted : ∀ id handle, s.emitted (.request id .retryConnect handle) =
    ((numbered s.nextToken (cs.map .enable)).map fun e => .submit e.1 e.2) ++
      replyTo handle id (.outcome outcome)
  /-- The commands are in flight afterwards, and no other record changes. -/
  after : ∀ id handle, s.after (.request id .retryConnect handle) =
    { s with
      inflight := s.inflight ++ numbered s.nextToken (cs.map .enable)
      nextToken := s.nextToken + cs.length
      outbox := s.outbox ++ s.emitted (.request id .retryConnect handle) }
  /-- So whatever the switch is waiting for is about to be brought up. -/
  covered : ∀ id handle, ∀ c ∈ s.classes, c ∉ s.connected →
    ∃ k, (k, .enable c) ∈ (s.after (.request id .retryConnect handle)).inflight
  /-- Another retry answers the same and does nothing else. -/
  again : ∀ id handle id' handle', (s.after (.request id .retryConnect handle)).emitted
    (.request id' .retryConnect handle') = replyTo handle' id' (.outcome outcome)

theorem retries (hlive : s.phase.isLive = true) : s.Retries s.retryConnect.2 s.lacking where
  answer := retryConnect_outcome hlive
  mem _ := mem_lacking
  nodup := nodup_lacking s
  emitted := emitted_retry hlive
  after id handle := by
    rw [emitted_retry hlive, ← List.append_assoc]
    exact after_retry hlive id handle
  covered id handle c hc hconn := by
    by_contra hnone
    have hlacking : c ∈ (s.after (.request id .retryConnect handle)).lacking := by
      refine mem_lacking.2 ⟨?_, not_exists.1 hnone⟩
      rw [after_retry hlive]
      exact ⟨hc, hconn⟩
    rw [lacking_after_retry hlive] at hlacking
    cases hlacking
  again id handle id' handle' := by
    have hlive' : (s.after (.request id .retryConnect handle)).phase.isLive = true := by
      rw [after_retry hlive]
      exact hlive
    rw [emitted_retry hlive', outcome_after_retry hlive, retrials, lacking_after_retry hlive]
    rfl

/-- In every run, a retry of a live switch covers exactly what the switch is waiting for, under tokens
that were never issued before and belong to no command in flight. -/
theorem retries_of_run (tenant : Tenant) (arbitrated : Bool) (inputs : List (Input ρ))
    (hlive : (run tenant arbitrated inputs).phase.isLive = true) :
    (run tenant arbitrated inputs).Retries (run tenant arbitrated inputs).retryConnect.2
        (run tenant arbitrated inputs).lacking ∧
      ∀ e ∈ (run tenant arbitrated inputs).retrials,
        e.1 ∉ issued { tenant := tenant, arbitrated := arbitrated } inputs ∧
          e.1 ∉ (run tenant arbitrated inputs).inflight.map Prod.fst := by
  refine ⟨retries hlive, fun e he => ?_⟩
  have hnext : (run tenant arbitrated inputs).nextToken ≤ e.1 := by
    have htoken := List.mem_map_of_mem (f := Prod.fst) he
    rw [retrials, map_fst_numbered] at htoken
    exact (List.mem_range'_1.1 htoken).1
  constructor
  · obtain ⟨n, hissued, hn⟩ := issued_eq tenant arbitrated inputs
    rw [hissued, List.mem_range'_1, not_and, Nat.not_lt]
    intro _
    omega
  · rw [List.mem_map]
    rintro ⟨e', he', heq⟩
    have hbound := (sound_run tenant arbitrated inputs).tokens.bound e' he'
    omega

/-- One class is connected, one is asked for a second time while the first command for it is still
in flight, and the command for a third one has ended without a connection. -/
def mishaps : List (Input Nat) :=
  [.request 1 .cleanupAll none, .request 2 (.connect .mms) none, .request 3 (.connect .dun) none,
    .signal (.classConnected .dun), .request 4 (.disconnect .mms) none,
    .request 5 (.connect .mms) none, .request 6 (.connect .ia) none, .signal (.completed 6 none),
    .drain]

/-- Two commands for the second class and a stray force-idle are in flight, and the retry submits
one for the third class. -/
theorem retries_after_mishaps :
    (run ⟨0⟩ false mishaps).phase.isLive = true ∧
      (run ⟨0⟩ false mishaps).inflight =
        [(1, .forceIdle), (2, .enable .mms), (3, .enable .dun), (4, .disable .mms),
          (5, .enable .mms)] ∧
      (run ⟨0⟩ false mishaps).Retries .started [.ia] :=
  ⟨by decide +kernel, by decide +kernel,
    (retries_of_run ⟨0⟩ false mishaps (by decide +kernel)).1⟩

end DataPath.Switch
