import DataPath.Modem.Pipeline
import DataPath.Proofs.Switch.Wishes

/-!
# What a command does to the modem

A command of one slot leaves the others alone.  When it succeeds, what is up on its slot
afterwards is what was asked for, class by class, in the sense of `Command.word`; when it
fails nothing changes (`executes`).  A violation is counted only for a command to bring up a
class while another slot carries data.

Taking down a class fails when it was made to fail, or when there is no slot.  As long as nobody
makes it fail (`Yields`), a slot never carries more than was asked for.
-/

namespace DataPath.Modem

variable {m m' : Modem} {t u : Tenant}

/-- The classes that carry data on a slot, if there is such a slot. -/
def up (m : Modem) (t : Tenant) : ClassSet := (m.connected? t).getD ∅

theorem connected?_amend_self (m : Modem) (t : Tenant) (f : Slot → Slot) :
    (m.amend t f).connected? t = (m.slot? t).map fun slot => (f slot).connected := by
  unfold connected? slot? amend
  rw [List.getElem?_modify_eq]
  cases m.slots[t.slot]? with
  | none => rfl
  | some slot => rfl

theorem connected?_amend_ne (m : Modem) (h : u ≠ t) (f : Slot → Slot) :
    (m.amend t f).connected? u = m.connected? u := by
  have hslot : t.slot ≠ u.slot := by
    intro heq
    cases t
    cases u
    exact h (by simpa using heq.symm)
  unfold connected? slot? amend
  rw [List.getElem?_modify_ne _ _ hslot]

theorem up_amend (m : Modem) (t : Tenant) (f : Slot → Slot) {slot : Slot} (h : m.slot? t = some slot) :
    (m.amend t f).up t = (f slot).connected := by
  rw [up, connected?_amend_self, h]
  rfl

theorem up_eq {slot : Slot} (h : m.slot? t = some slot) : m.up t = slot.connected := by
  rw [up, connected?, h]
  rfl

theorem up_of_none (h : m.slot? t = none) : m.up t = ∅ := by
  rw [up, connected?, h]
  rfl

/-- A slot of a modem that has just started. -/
theorem slot_of_ofConfig {config : ModemConfig} {slot : Slot}
    (h : (ofConfig config).slot? t = some slot) : slot.connected = ∅ ∧ slot.failDisables = 0 := by
  unfold slot? ofConfig at h
  rw [List.getElem?_map, Option.map_eq_some_iff] at h
  obtain ⟨_, -, rfl⟩ := h
  exact ⟨rfl, rfl⟩

theorem eq_empty_of_connected?_ofConfig {config : ModemConfig} {cs : ClassSet}
    (hcs : (ofConfig config).connected? t = some cs) : cs = ∅ := by
  obtain ⟨slot, hslot, rfl⟩ := Option.map_eq_some_iff.1 hcs
  exact (slot_of_ofConfig hslot).1

/-- Nothing is up on a modem that has just started. -/
theorem up_ofConfig (config : ModemConfig) (t : Tenant) : (ofConfig config).up t = ∅ := by
  cases hslot : (ofConfig config).slot? t with
  | none => exact up_of_none hslot
  | some slot => rw [up_eq hslot, (slot_of_ofConfig hslot).1]

/-- What executing a command comes to. -/
structure Executes (m : Modem) (t : Tenant) (command : Command) (m' : Modem)
    (fault : Option ModemFault) : Prop where
  others : ∀ u, u ≠ t → m'.connected? u = m.connected? u
  done : fault = none → ∀ c, c ∈ m'.up t ↔ command.word c (c ∈ m.up t) = true
  failed : fault ≠ none → m'.up t = m.up t
  cleared : command = .forceIdle → m'.up t = ∅
  violations : m'.violations = m.violations ∨
    (∃ c, command = .enable c) ∧ ∃ u, u ≠ t ∧ ∃ c, c ∈ m.up u

/-- A command that is refused. -/
theorem executes_refused {command : Command} {m' : Modem} (f : ModemFault)
    (hforce : command = .forceIdle → m.up t = ∅)
    (hconn : ∀ u, m'.connected? u = m.connected? u)
    (hviol : m'.violations = m.violations ∨
      (∃ c, command = .enable c) ∧ ∃ u, u ≠ t ∧ ∃ c, c ∈ m.up u) :
    Executes m t command m' (some f) where
  others u _ := hconn u
  done h := by cases h
  failed _ := by rw [up, hconn, up]
  cleared h := by
    have := hforce h
    rw [up] at this ⊢
    rw [hconn]
    exact this
  violations := hviol

theorem holder_carries {holder : Tenant} (h : m.holder? = some holder) : ∃ c, c ∈ m.up holder := by
  unfold holder? at h
  rw [Option.map_eq_some_iff] at h
  obtain ⟨i, hi, rfl⟩ := h
  rw [List.findIdx?_eq_some_iff_getElem] at hi
  obtain ⟨hlt, hsome, -⟩ := hi
  have hslot : m.slot? ⟨i⟩ = some m.slots[i] := by simp [slot?, hlt]
  rw [up_eq hslot]
  refine ClassSet.exists_mem_of_not_isEmpty ?_
  simpa using hsome

/-- Changing nothing that carries data. -/
theorem connected?_amend_keep (m : Modem) (t u : Tenant) {f : Slot → Slot}
    (hf : ∀ slot, (f slot).connected = slot.connected) :
    (m.amend t f).connected? u = m.connected? u := by
  by_cases h : u = t
  · subst h
    rw [connected?_amend_self, connected?]
    simp only [hf]
  · exact connected?_amend_ne m h f

theorem executes_enable (m : Modem) (t : Tenant) (c : DataClass) :
    Executes m t (.enable c) (m.enable t c).1 (m.enable t c).2 := by
  unfold enable
  simp only
  split
  · exact executes_refused _ nofun (fun _ => rfl) (.inl rfl)
  · next slot hslot =>
    have hslot' : m.slot? t = some slot := hslot
    split
    · exact executes_refused _ nofun (fun _ => rfl) (.inl rfl)
    · split
      · exact executes_refused _ nofun (fun _ => rfl) (.inl rfl)
      · split
        · exact executes_refused _ nofun
            (fun u => connected?_amend_keep m.count t u fun _ => rfl) (.inl rfl)
        · split
          · next holder hholder =>
            refine executes_refused _ nofun (fun _ => rfl) (.inr ⟨⟨c, rfl⟩, holder, ?_, ?_⟩)
            · simpa using (Option.filter_eq_some_iff.1 hholder).2
            · exact holder_carries (m := m) (Option.filter_eq_some_iff.1 hholder).1
          · refine ⟨fun u hu => connected?_amend_ne m.count hu _, fun _ d => ?_, nofun, nofun,
              .inl rfl⟩
            rw [up_amend m.count t _ hslot, up_eq hslot', ClassSet.mem_insert]
            simp only [Command.word, Bool.or_eq_true, decide_eq_true_eq]
            rw [or_comm, eq_comm]

theorem executes_disable (m : Modem) (t : Tenant) (c : DataClass) :
    Executes m t (.disable c) (m.disable t c).1 (m.disable t c).2 := by
  unfold disable
  simp only
  split
  · exact executes_refused _ nofun (fun _ => rfl) (.inl rfl)
  · next slot hslot =>
    have hslot' : m.slot? t = some slot := hslot
    split
    · exact executes_refused _ nofun
        (fun u => connected?_amend_keep m.count t u fun _ => rfl) (.inl rfl)
    · refine ⟨fun u hu => connected?_amend_ne m.count hu _, fun _ d => ?_, nofun, nofun, .inl rfl⟩
      rw [up_amend m.count t _ hslot, up_eq hslot', ClassSet.mem_erase]
      simp only [Command.word, Bool.and_eq_true, decide_eq_true_eq]
      rw [and_comm, ne_comm]

theorem executes_forceIdle (m : Modem) (t : Tenant) :
    Executes m t .forceIdle (m.forceIdle t).1 (m.forceIdle t).2 := by
  unfold forceIdle
  simp only
  split
  · next hslot => exact executes_refused _ (fun _ => up_of_none hslot) (fun _ => rfl) (.inl rfl)
  · next slot hslot =>
    have hempty : (m.count.amend t fun slot => { slot with connected := ∅ }).up t = ∅ :=
      up_amend m.count t _ hslot
    refine ⟨fun u hu => connected?_amend_ne m.count hu _, fun _ d => ?_, nofun, fun _ => hempty,
      .inl rfl⟩
    rw [hempty]
    simp [Command.word, ClassSet.not_mem_empty]

/-- What every command comes to. -/
theorem executes (m : Modem) (t : Tenant) (command : Command) :
    Executes m t command (m.execute t command).1 (m.execute t command).2 := by
  cases command with
  | enable c => exact m.executes_enable t c
  | disable c => exact m.executes_disable t c
  | forceIdle => exact m.executes_forceIdle t

/-- Setting a radio changes nothing on other slots, and takes everything down on its own when
it goes off. -/
theorem setRadio_cases (m : Modem) (t : Tenant) (radio : Radio) :
    (m.setRadio t radio).1.violations = m.violations ∧
    (∀ u, u ≠ t → (m.setRadio t radio).1.connected? u = m.connected? u) ∧
    (((m.setRadio t radio).2 = true ∧ radio = .off ∧ (m.setRadio t radio).1.up t = ∅) ∨
      (m.setRadio t radio).1.up t = m.up t) := by
  unfold setRadio
  split
  · exact ⟨rfl, fun _ _ => rfl, .inr rfl⟩
  · next slot hslot =>
    split
    · exact ⟨rfl, fun _ _ => rfl, .inr rfl⟩
    · refine ⟨rfl, fun u hu => connected?_amend_ne m hu _, ?_⟩
      rw [up_amend m t _ hslot, up_eq hslot]
      by_cases hoff : radio = .off
      · exact .inl ⟨rfl, hoff, by simp [hoff, Radio.isOff]⟩
      · exact .inr (by simp [hoff, Radio.isOff])

/-- A modem that goes on executes its first command. -/
theorem Pipeline.exists_of_next? {σ : Type} {p : Pipeline σ} {now : Nat}
    {out : Pipeline σ × List (Sent σ)} (h : p.next? now = some out) :
    ∃ job rest, p.jobs = job :: rest ∧ out = { p with jobs := rest }.complete job := by
  unfold Pipeline.next? at h
  split at h
  · next job rest hjobs =>
    split at h
    · rw [Option.some.injEq] at h
      exact ⟨job, rest, hjobs, h.symm⟩
    · cases h
  · cases h

/-- Who is attached for another tenant stays attached. -/
theorem lookup_filter_ne {σ : Type} (l : List (Tenant × σ)) {t u : Tenant} (h : t ≠ u) :
    (l.filter fun entry => entry.1 ≠ u).lookup t = l.lookup t := by
  induction l with
  | nil => rfl
  | cons e l ih =>
    obtain ⟨v, x⟩ := e
    by_cases hv : v = u
    · have hne : (t == v) = false := by simpa [hv] using h
      rw [List.filter_cons_of_neg (by simpa using hv), ih, List.lookup_cons, hne]
    · rw [List.filter_cons_of_pos (by simpa using hv), List.lookup_cons, List.lookup_cons, ih]

/-! ## A slot that lets go -/

/-- No command to take down a class of the slot was made to fail. -/
def Yields (m : Modem) (t : Tenant) : Prop :=
  ∀ slot, m.slot? t = some slot → slot.failDisables = 0

theorem yields_ofConfig (config : ModemConfig) (t : Tenant) : (ofConfig config).Yields t :=
  fun _ hslot => (slot_of_ofConfig hslot).2

theorem Yields.amend (h : m.Yields t) {f : Slot → Slot}
    (hf : ∀ slot, (f slot).failDisables = slot.failDisables) : (m.amend t f).Yields t := by
  intro slot hslot
  unfold slot? Modem.amend at hslot
  rw [List.getElem?_modify_eq, Option.map_eq_map, Option.map_eq_some_iff] at hslot
  obtain ⟨old, hold, rfl⟩ := hslot
  exact (hf old).trans (h old hold)

theorem Yields.failNextEnable (h : m.Yields t) (count : Nat) : (m.failNextEnable t count).Yields t :=
  h.amend fun _ => rfl

theorem Yields.setRadio (h : m.Yields t) (radio : Radio) : (m.setRadio t radio).1.Yields t := by
  unfold Modem.setRadio
  split
  · exact h
  · split
    · exact h
    · exact h.amend fun _ => rfl

theorem Yields.execute (h : m.Yields t) (command : Command) : (m.execute t command).1.Yields t := by
  have hcount : m.count.Yields t := h
  cases command with
  | enable c =>
    unfold Modem.execute enable
    simp only
    split
    · exact hcount
    · split
      · exact hcount
      · split
        · exact hcount
        · split
          · exact hcount.amend fun _ => rfl
          · split
            · exact hcount
            · exact hcount.amend fun _ => rfl
  | disable c =>
    unfold Modem.execute disable
    simp only
    split
    · exact hcount
    · next slot hslot =>
      rw [if_neg (not_not.2 (h slot hslot))]
      exact hcount.amend fun _ => rfl
  | forceIdle =>
    unfold Modem.execute forceIdle
    simp only
    split
    · exact hcount
    · exact hcount.amend fun _ => rfl

/-- Only a missing slot does not let go of a class. -/
theorem Yields.disable_fails (h : m.Yields t) {c : DataClass} (hfault : (m.disable t c).2 ≠ none) :
    m.slot? t = none := by
  unfold disable at hfault
  simp only at hfault
  split at hfault
  · next hslot => exact hslot
  · next slot hslot =>
    rw [if_neg (not_not.2 (h slot hslot))] at hfault
    exact absurd rfl hfault

/-- What is up on a slot that lets go was asked for last, also when the command failed. -/
theorem Yields.word_of_mem_up (h : m.Yields t) {command : Command} {c : DataClass}
    (hup : c ∈ (m.execute t command).1.up t) : command.word c (c ∈ m.up t) = true := by
  have hex := m.executes t command
  by_cases hfault : (m.execute t command).2 = none
  · exact (hex.done hfault c).1 hup
  · cases command with
    | enable d =>
      rw [hex.failed hfault] at hup
      simp [Command.word, hup]
    | disable d =>
      rw [hex.failed hfault, up_of_none (h.disable_fails hfault)] at hup
      exact absurd hup (ClassSet.not_mem_empty c)
    | forceIdle =>
      rw [hex.cleared rfl] at hup
      exact absurd hup (ClassSet.not_mem_empty c)

end DataPath.Modem
