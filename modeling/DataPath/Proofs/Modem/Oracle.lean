import DataPath.Proofs.Modem
import Mathlib.Data.List.Induction

/-!
# The modem as an oracle

A modem is told to execute commands and to set radios, and commands are made to fail; for any slot
that can be named, whether it exists or not, and in any order.  Whatever it is told, its verdicts can
be trusted.

* One slot at most carries data (`Sole`), and that is the holder (`holder?_eq_some_iff`).
* A slot carries nothing that it cannot carry, and nothing while its radio is off (`Slot.Fits`).  The
  slots and what they can carry are those of the configuration, and so are the radios until they are
  set (`kind?_run`).
* A command is refused for one reason, which is the first one that there is: no slot, then the radio,
  then the class, then a failure that was injected, and last the data path (`Refuses`).
* A refusal changes nothing, except that an injected failure is used up when it is the reason
  (`Slot.Spends`).

So the violations are the refusals for the sake of the data path, and no others.  `oracle_of_run`
gathers this for every modem that has been told a list of orders.
-/

namespace DataPath.Modem

variable {m : Modem} {t u : Tenant} {c d : DataClass} {command : Command} {f : ModemFault}

/-! ## Orders -/

/-- What a modem is told. -/
inductive Order where
  /-- Execute a command. -/
  | execute (tenant : Tenant) (command : Command)
  /-- Set the radio of a slot. -/
  | tune (tenant : Tenant) (radio : Radio)
  /-- Make so many more commands to bring up a class fail. -/
  | failEnables (tenant : Tenant) (count : Nat)
  /-- Make so many more commands to take down a class fail. -/
  | failDisables (tenant : Tenant) (count : Nat)
  deriving DecidableEq, Repr

/-- Whether an order is to execute a command. -/
def Order.isCommand : Order → Bool
  | .execute .. => true
  | .tune .. | .failEnables .. | .failDisables .. => false

/-- The modem after an order. -/
def after (m : Modem) : Order → Modem
  | .execute t command => (m.execute t command).1
  | .tune t radio => (m.setRadio t radio).1
  | .failEnables t count => m.failNextEnable t count
  | .failDisables t count => m.failNextDisable t count

/-- What a modem says to an order, if that is a command: nothing, or why it has failed. -/
def verdict (m : Modem) : Order → List (Option ModemFault)
  | .execute t command => [(m.execute t command).2]
  | .tune .. | .failEnables .. | .failDisables .. => []

/-- What a modem says to the commands among some orders, one after the other. -/
def verdicts (m : Modem) : List Order → List (Option ModemFault)
  | [] => []
  | order :: orders => m.verdict order ++ (m.after order).verdicts orders

/-- The modem of a configuration, after some orders. -/
def run (config : ModemConfig) (orders : List Order) : Modem := orders.foldl after (ofConfig config)

@[simp] theorem run_append (config : ModemConfig) (orders : List Order) (order : Order) :
    run config (orders ++ [order]) = (run config orders).after order := by
  simp [run]

theorem verdicts_append (m : Modem) (orders orders' : List Order) :
    m.verdicts (orders ++ orders') =
      m.verdicts orders ++ (orders.foldl after m).verdicts orders' := by
  induction orders generalizing m with
  | nil => rfl
  | cons order orders ih => simp [verdicts, ih]

theorem length_verdicts (m : Modem) (orders : List Order) :
    (m.verdicts orders).length = orders.countP Order.isCommand := by
  induction orders generalizing m with
  | nil => rfl
  | cons order orders ih =>
    rw [verdicts, List.length_append, ih, List.countP_cons]
    cases order <;> simp [verdict, Order.isCommand, Nat.add_comm]

/-! ## One slot -/

theorem slot?_amend_self (m : Modem) (t : Tenant) (g : Slot → Slot) :
    (m.amend t g).slot? t = (m.slot? t).map g := by
  unfold slot? amend
  rw [List.getElem?_modify_eq]
  rfl

theorem slot?_amend_ne (m : Modem) (h : u ≠ t) (g : Slot → Slot) :
    (m.amend t g).slot? u = m.slot? u := by
  have hslot : t.slot ≠ u.slot := fun heq => h (by cases t; cases u; simpa using heq.symm)
  unfold slot? amend
  rw [List.getElem?_modify_ne _ _ hslot]

/-- A slot carries only what it can carry, and nothing while its radio is off. -/
structure Slot.Fits (slot : Slot) : Prop where
  carries : ∀ c ∈ slot.connected, c ∈ slot.supported
  powered : slot.radio = .off → slot.connected = ∅

theorem Slot.fits_of_empty {slot : Slot} (h : slot.connected = ∅) : slot.Fits where
  carries c hc := absurd (h ▸ hc) (ClassSet.not_mem_empty c)
  powered _ := h

/-- What fits a slot fits it also when something is taken down. -/
theorem Slot.Fits.less {slot slot' : Slot} (h : slot.Fits) (hradio : slot'.radio = slot.radio)
    (hsupported : slot'.supported = slot.supported)
    (hless : ∀ c ∈ slot'.connected, c ∈ slot.connected) : slot'.Fits where
  carries c hc := hsupported ▸ h.carries c (hless c hc)
  powered hoff := by
    refine ClassSet.eq_empty_iff.2 fun c hc => ClassSet.not_mem_empty c ?_
    rw [← h.powered (hradio ▸ hoff)]
    exact hless c hc

/-- The slot is as before, except that so many injected failures have been used up. -/
structure Slot.Spends (slot : Slot) (enables disables : Nat) (slot' : Slot) : Prop where
  radio : slot'.radio = slot.radio
  connected : slot'.connected = slot.connected
  supported : slot'.supported = slot.supported
  enables : slot.failEnables = slot'.failEnables + enables
  disables : slot.failDisables = slot'.failDisables + disables

theorem Slot.Spends.refl (slot : Slot) : slot.Spends 0 0 slot := ⟨rfl, rfl, rfl, rfl, rfl⟩

/-! ## All slots -/

/-- One slot at most carries data, and what it carries fits. -/
structure Sole (m : Modem) : Prop where
  one : ∀ t u c d, c ∈ m.up t → d ∈ m.up u → t = u
  fits : ∀ t slot, m.slot? t = some slot → slot.Fits

theorem sole_ofConfig (config : ModemConfig) : (ofConfig config).Sole where
  one t u c d hc _ := by
    rw [up_ofConfig] at hc
    exact absurd hc (ClassSet.not_mem_empty c)
  fits t slot hslot := Slot.fits_of_empty (slot_of_ofConfig hslot).1

/-- A slot may be changed so that it still fits, and carries no more than before, or is the only one
that carries anything. -/
theorem Sole.amend (h : m.Sole) {g : Slot → Slot}
    (hfits : ∀ slot, m.slot? t = some slot → (g slot).Fits)
    (hless : ∀ slot, m.slot? t = some slot →
      (∀ c ∈ (g slot).connected, c ∈ slot.connected) ∨ ∀ u, u ≠ t → m.up u = ∅) :
    (m.amend t g).Sole := by
  have hother : ∀ u, u ≠ t → (m.amend t g).up u = m.up u := by
    intro u hu
    rw [up, connected?_amend_ne m hu, up]
  have hself : ∀ c, c ∈ (m.amend t g).up t → c ∈ m.up t ∨ ∀ u, u ≠ t → m.up u = ∅ := by
    intro c hc
    cases hslot : m.slot? t with
    | none =>
      rw [up, connected?_amend_self, hslot] at hc
      exact absurd hc (ClassSet.not_mem_empty c)
    | some slot =>
      rw [up_amend m t g hslot] at hc
      rw [up_eq hslot]
      exact (hless slot hslot).imp_left fun hsub => hsub c hc
  -- Data on two slots would have been there before, or on one that carries nothing.
  have hboth : ∀ u c d, u ≠ t → c ∈ (m.amend t g).up t → d ∈ (m.amend t g).up u → False := by
    intro u c d hu hc hd
    rw [hother u hu] at hd
    rcases hself c hc with hold | hnone
    · exact hu (h.one t u c d hold hd).symm
    · exact ClassSet.not_mem_empty d (hnone u hu ▸ hd)
  refine ⟨fun u v c d hc hd => ?_, fun u slot hslot => ?_⟩
  · by_cases hu : u = t
    · by_cases hv : v = t
      · rw [hu, hv]
      · exact (hboth v c d hv (hu ▸ hc) hd).elim
    · by_cases hv : v = t
      · exact (hboth u d c hu (hv ▸ hd) hc).elim
      · rw [hother u hu] at hc
        rw [hother v hv] at hd
        exact h.one u v c d hc hd
  · by_cases hu : u = t
    · rw [hu, slot?_amend_self] at hslot
      obtain ⟨old, hold, rfl⟩ := Option.map_eq_some_iff.1 hslot
      exact hfits old hold
    · rw [slot?_amend_ne m hu] at hslot
      exact h.fits u slot hslot

/-- The holder is the slot that carries data. -/
theorem Sole.holder?_eq_some_iff (h : m.Sole) : m.holder? = some t ↔ ∃ c, c ∈ m.up t := by
  refine ⟨holder_carries, fun ⟨c, hc⟩ => ?_⟩
  cases hslot : m.slot? t with
  | none =>
    rw [up_of_none hslot] at hc
    exact absurd hc (ClassSet.not_mem_empty c)
  | some slot =>
    have hsome : m.holder? ≠ none := by
      unfold holder?
      rw [ne_eq, Option.map_eq_none_iff, List.findIdx?_eq_none_iff]
      intro hnone
      have hempty := hnone slot (List.mem_of_getElem? hslot)
      rw [Bool.not_eq_false', ClassSet.isEmpty_iff] at hempty
      exact hempty c (up_eq hslot ▸ hc)
    obtain ⟨u, hu⟩ := Option.ne_none_iff_exists'.1 hsome
    obtain ⟨d, hd⟩ := holder_carries hu
    rw [hu, h.one u t d c hd hc]

/-- Only another slot stands in the way of one that wants the data path. -/
theorem Sole.holder?_filter (h : m.Sole) :
    m.holder?.filter (· ≠ t) = some u ↔ u ≠ t ∧ ∃ c, c ∈ m.up u := by
  rw [Option.filter_eq_some_iff, h.holder?_eq_some_iff, decide_eq_true_eq, and_comm]

theorem Sole.up_eq_empty (h : m.Sole) (hfree : m.holder?.filter (· ≠ t) = none) (hu : u ≠ t) :
    m.up u = ∅ := by
  refine ClassSet.eq_empty_iff.2 fun c hc => ?_
  have hsome := h.holder?_filter.2 ⟨hu, c, hc⟩
  rw [hfree] at hsome
  cases hsome

/-! ## How a command ends -/

/-- The ways in which a command for a slot ends, with the modem afterwards. -/
inductive Ends (m : Modem) (t : Tenant) : Command → Modem → Option ModemFault → Prop where
  /-- There is no such slot. -/
  | noSlot (command : Command) (hslot : m.slot? t = none) :
      Ends m t command m.count (some (noSuchSlot t))
  /-- The radio is off. -/
  | radioOff (c : DataClass) {slot : Slot} (hslot : m.slot? t = some slot)
      (hradio : slot.radio = .off) : Ends m t (.enable c) m.count (some (.radioOff t))
  /-- The slot cannot carry the class. -/
  | unsupported (c : DataClass) {slot : Slot} (hslot : m.slot? t = some slot)
      (hradio : slot.radio ≠ .off) (hclass : c ∉ slot.supported) :
      Ends m t (.enable c) m.count (some (.unsupported t c))
  /-- A failure to bring up a class was injected. -/
  | enableInjected (c : DataClass) {slot : Slot} (hslot : m.slot? t = some slot)
      (hradio : slot.radio ≠ .off) (hclass : c ∈ slot.supported) (hfail : 0 < slot.failEnables) :
      Ends m t (.enable c)
        (m.count.amend t fun slot => { slot with failEnables := slot.failEnables - 1 })
        (some (injectedEnable c))
  /-- Another slot holds the data path. -/
  | busy (c : DataClass) {slot : Slot} {u : Tenant} (hslot : m.slot? t = some slot)
      (hradio : slot.radio ≠ .off) (hclass : c ∈ slot.supported) (hfail : slot.failEnables = 0)
      (hholder : m.holder?.filter (· ≠ t) = some u) :
      Ends m t (.enable c) { m.count with violations := m.violations + 1 } (some (.busy u))
  /-- The class is brought up. -/
  | enabled (c : DataClass) {slot : Slot} (hslot : m.slot? t = some slot)
      (hradio : slot.radio ≠ .off) (hclass : c ∈ slot.supported) (hfail : slot.failEnables = 0)
      (hfree : m.holder?.filter (· ≠ t) = none) :
      Ends m t (.enable c)
        (m.count.amend t fun slot => { slot with connected := slot.connected.insert c }) none
  /-- A failure to take down a class was injected. -/
  | disableInjected (c : DataClass) {slot : Slot} (hslot : m.slot? t = some slot)
      (hfail : 0 < slot.failDisables) :
      Ends m t (.disable c)
        (m.count.amend t fun slot => { slot with failDisables := slot.failDisables - 1 })
        (some (injectedDisable c))
  /-- The class is taken down. -/
  | disabled (c : DataClass) {slot : Slot} (hslot : m.slot? t = some slot)
      (hfail : slot.failDisables = 0) :
      Ends m t (.disable c)
        (m.count.amend t fun slot => { slot with connected := slot.connected.erase c }) none
  /-- Everything is taken down. -/
  | idled {slot : Slot} (hslot : m.slot? t = some slot) :
      Ends m t .forceIdle (m.count.amend t fun slot => { slot with connected := ∅ }) none

theorem ends_enable (m : Modem) (t : Tenant) (c : DataClass) :
    Ends m t (.enable c) (m.enable t c).1 (m.enable t c).2 := by
  unfold enable
  simp only
  split
  · next hslot => exact .noSlot _ hslot
  · next slot hslot =>
    split
    · next hradio => exact .radioOff c hslot (by simpa [Radio.isOff] using hradio)
    · next hradio =>
      have hradio' : slot.radio ≠ .off := by simpa [Radio.isOff] using hradio
      split
      · next hclass => exact .unsupported c hslot hradio' hclass
      · next hclass =>
        have hclass' : c ∈ slot.supported := not_not.1 hclass
        split
        · next hfail =>
          exact .enableInjected c hslot hradio' hclass' (Nat.pos_of_ne_zero hfail)
        · next hfail =>
          have hfail' : slot.failEnables = 0 := not_not.1 hfail
          split
          · next holder hholder => exact .busy c hslot hradio' hclass' hfail' hholder
          · next hfree => exact .enabled c hslot hradio' hclass' hfail' hfree

/-- Every command ends in one of these ways. -/
theorem ends_execute (m : Modem) (t : Tenant) (command : Command) :
    Ends m t command (m.execute t command).1 (m.execute t command).2 := by
  cases command with
  | enable c => exact m.ends_enable t c
  | disable c =>
    unfold execute disable
    simp only
    split
    · next hslot => exact .noSlot _ hslot
    · next slot hslot =>
      split
      · next hfail => exact .disableInjected c hslot (Nat.pos_of_ne_zero hfail)
      · next hfail => exact .disabled c hslot (not_not.1 hfail)
  | forceIdle =>
    unfold execute forceIdle
    simp only
    split
    · next hslot => exact .noSlot _ hslot
    · next slot hslot => exact .idled hslot

/-! ## Why a command is refused -/

/-- Why a modem refuses a command for a slot. -/
inductive Refuses (m : Modem) (t : Tenant) : Command → ModemFault → Prop where
  /-- There is no such slot. -/
  | noSlot (command : Command) (hslot : m.slot? t = none) : Refuses m t command (noSuchSlot t)
  /-- The radio of the slot is off. -/
  | radioOff (c : DataClass) {slot : Slot} (hslot : m.slot? t = some slot)
      (hradio : slot.radio = .off) : Refuses m t (.enable c) (.radioOff t)
  /-- The radio is not off, but the slot cannot carry the class. -/
  | unsupported (c : DataClass) {slot : Slot} (hslot : m.slot? t = some slot)
      (hradio : slot.radio ≠ .off) (hclass : c ∉ slot.supported) :
      Refuses m t (.enable c) (.unsupported t c)
  /-- The slot could carry the class, but a failure was injected. -/
  | enableInjected (c : DataClass) {slot : Slot} (hslot : m.slot? t = some slot)
      (hradio : slot.radio ≠ .off) (hclass : c ∈ slot.supported) (hfail : 0 < slot.failEnables) :
      Refuses m t (.enable c) (injectedEnable c)
  /-- Nothing was injected, but another slot carries data. -/
  | busy (c : DataClass) {slot : Slot} {u : Tenant} (hslot : m.slot? t = some slot)
      (hradio : slot.radio ≠ .off) (hclass : c ∈ slot.supported) (hfail : slot.failEnables = 0)
      (hother : u ≠ t) (hup : ∃ d, d ∈ m.up u) : Refuses m t (.enable c) (.busy u)
  /-- A failure to take down a class was injected. -/
  | disableInjected (c : DataClass) {slot : Slot} (hslot : m.slot? t = some slot)
      (hfail : 0 < slot.failDisables) : Refuses m t (.disable c) (injectedDisable c)

/-- A command that has failed was refused for a reason. -/
theorem Sole.refuses (h : m.Sole) (hf : (m.execute t command).2 = some f) :
    m.Refuses t command f := by
  have hends := m.ends_execute t command
  rw [hf] at hends
  generalize (m.execute t command).1 = m' at hends
  cases hends with
  | noSlot _ hslot => exact .noSlot _ hslot
  | radioOff c hslot hradio => exact .radioOff c hslot hradio
  | unsupported c hslot hradio hclass => exact .unsupported c hslot hradio hclass
  | enableInjected c hslot hradio hclass hfail => exact .enableInjected c hslot hradio hclass hfail
  | busy c hslot hradio hclass hfail hholder =>
    obtain ⟨hother, hup⟩ := h.holder?_filter.1 hholder
    exact .busy c hslot hradio hclass hfail hother hup
  | disableInjected c hslot hfail => exact .disableInjected c hslot hfail

/-- Where there is a reason the command fails, and for this reason. -/
theorem Sole.execute_eq_some (h : m.Sole) (hf : m.Refuses t command f) :
    (m.execute t command).2 = some f := by
  have hcount : m.count.slot? t = m.slot? t := rfl
  cases hf with
  | noSlot _ hslot => cases command <;> simp [execute, enable, disable, forceIdle, hcount, hslot]
  | radioOff _ hslot hradio => simp [execute, enable, hcount, hslot, hradio, Radio.isOff]
  | unsupported _ hslot hradio hclass =>
    simp [execute, enable, hcount, hslot, hradio, hclass, Radio.isOff]
  | enableInjected _ hslot hradio hclass hfail =>
    simp [execute, enable, hcount, hslot, hradio, hclass, Nat.ne_of_gt hfail, Radio.isOff]
  | busy _ hslot hradio hclass hfail hother hup =>
    have hholder : m.count.holder?.filter (· ≠ t) = some _ := h.holder?_filter.2 ⟨hother, hup⟩
    simp only [execute, enable, hcount, hslot, Radio.isOff, hradio, hclass, hfail, decide_false,
      hholder, Bool.false_eq_true, if_false, not_true_eq_false, ne_eq]
  | disableInjected _ hslot hfail => simp [execute, disable, hcount, hslot, Nat.ne_of_gt hfail]

/-! ## What a refusal uses up -/

/-- How many injected failures to bring up a class are used up by a refusal. -/
def spentEnables : Command → ModemFault → Nat
  | .enable c, f => if f = injectedEnable c then 1 else 0
  | .disable _, _ | .forceIdle, _ => 0

/-- How many injected failures to take down a class are used up by a refusal. -/
def spentDisables : Command → ModemFault → Nat
  | .disable c, f => if f = injectedDisable c then 1 else 0
  | .enable _, _ | .forceIdle, _ => 0

/-- Every slot is as it was, but for the injected failures that were the reason of a refusal. -/
def Spares (m : Modem) (t : Tenant) (command : Command) (f : ModemFault) (m' : Modem) : Prop :=
  ∀ u slot, m.slot? u = some slot → ∃ slot', m'.slot? u = some slot' ∧
    slot.Spends (if u = t then spentEnables command f else 0)
      (if u = t then spentDisables command f else 0) slot'

/-- Nothing is used up, or there is no slot that could have used up anything. -/
theorem spares_of_same {m' : Modem} (hslots : ∀ u, m'.slot? u = m.slot? u)
    (hnone : (m.slot? t).isSome = true → spentEnables command f = 0 ∧ spentDisables command f = 0) :
    m.Spares t command f m' := by
  intro u slot hslot
  refine ⟨slot, (hslots u).trans hslot, ?_⟩
  by_cases hu : u = t
  · obtain ⟨henables, hdisables⟩ := hnone (by rw [← hu, hslot]; rfl)
    rw [if_pos hu, if_pos hu, henables, hdisables]
    exact Slot.Spends.refl slot
  · rw [if_neg hu, if_neg hu]
    exact Slot.Spends.refl slot

/-- One slot is changed. -/
theorem spares_amend {g : Slot → Slot} {slot : Slot} (hslot : m.slot? t = some slot)
    (hg : slot.Spends (spentEnables command f) (spentDisables command f) (g slot)) :
    m.Spares t command f (m.count.amend t g) := by
  intro u old hold
  by_cases hu : u = t
  · rw [if_pos hu, if_pos hu]
    subst hu
    obtain rfl := Option.some.inj (hslot.symm.trans hold)
    refine ⟨g slot, ?_, hg⟩
    rw [slot?_amend_self]
    exact congrArg (Option.map g) hslot
  · rw [if_neg hu, if_neg hu]
    exact ⟨old, (slot?_amend_ne m.count hu g).trans hold, Slot.Spends.refl old⟩

/-- A refusal uses up at most the failure that was injected. -/
theorem spares_execute (hf : (m.execute t command).2 = some f) :
    m.Spares t command f (m.execute t command).1 := by
  have hends := m.ends_execute t command
  rw [hf] at hends
  generalize (m.execute t command).1 = m' at hends
  cases hends with
  | noSlot _ hslot => exact spares_of_same (fun _ => rfl) (by simp [hslot])
  | radioOff | unsupported | busy => exact spares_of_same (fun _ => rfl) fun _ => ⟨rfl, rfl⟩
  | enableInjected c hslot _ _ hfail =>
    refine spares_amend hslot ⟨rfl, rfl, rfl, ?_, rfl⟩
    simp only [spentEnables, if_true]
    omega
  | disableInjected c hslot hfail =>
    refine spares_amend hslot ⟨rfl, rfl, rfl, rfl, ?_⟩
    simp only [spentDisables, if_true]
    omega

/-! ## What every order keeps -/

/-- What is only counted changes no slot. -/
theorem Sole.of_slots {m' : Modem} (h : m.Sole) (hslots : ∀ u, m'.slot? u = m.slot? u) :
    m'.Sole := by
  have hup : ∀ u, m'.up u = m.up u := fun u => by rw [up, connected?, hslots, up, connected?]
  refine ⟨fun t u c d hc hd => ?_, fun t slot hslot => h.fits t slot ((hslots t).symm.trans hslot)⟩
  rw [hup] at hc hd
  exact h.one t u c d hc hd

/-- A slot may be changed so that it carries no more than before. -/
theorem Sole.amend_less (h : m.Sole) {g : Slot → Slot}
    (hfits : ∀ slot, slot.Fits → (g slot).Fits)
    (hless : ∀ slot, ∀ c ∈ (g slot).connected, c ∈ slot.connected) : (m.amend t g).Sole :=
  h.amend (fun slot hslot => hfits slot (h.fits t slot hslot)) fun slot _ => .inl (hless slot)

theorem Sole.execute (h : m.Sole) (t : Tenant) (command : Command) :
    (m.execute t command).1.Sole := by
  have hcount : m.count.Sole := h.of_slots fun _ => rfl
  have hends := m.ends_execute t command
  generalize (m.execute t command).1 = m', (m.execute t command).2 = fault at hends
  cases hends with
  | noSlot | radioOff | unsupported => exact hcount
  | busy => exact h.of_slots fun _ => rfl
  | enableInjected | disableInjected =>
    exact hcount.amend_less (fun slot hfits => hfits.less rfl rfl fun _ hc => hc) fun _ _ hc => hc
  | enabled c hslot hradio hclass _ hfree =>
    refine hcount.amend (fun slot hslot' => ?_) fun _ _ => .inr fun u hu => h.up_eq_empty hfree hu
    obtain rfl := Option.some.inj (hslot.symm.trans hslot')
    refine ⟨fun d hd => ?_, fun hoff => absurd hoff hradio⟩
    rcases ClassSet.mem_insert.1 hd with rfl | hold
    · exact hclass
    · exact (h.fits t _ hslot).carries d hold
  | disabled c =>
    have hless : ∀ slot : Slot, ∀ d ∈ slot.connected.erase c, d ∈ slot.connected :=
      fun _ _ hd => (ClassSet.mem_erase.1 hd).2
    exact hcount.amend_less (fun slot hfits => hfits.less rfl rfl (hless slot)) hless
  | idled =>
    exact hcount.amend_less (fun slot _ => Slot.fits_of_empty rfl) fun _ d hd =>
      absurd hd (ClassSet.not_mem_empty d)

theorem Sole.setRadio (h : m.Sole) (t : Tenant) (radio : Radio) : (m.setRadio t radio).1.Sole := by
  unfold Modem.setRadio
  split
  · exact h
  · next slot hslot =>
    split
    · exact h
    · have hless : ∀ slot : Slot, ∀ c ∈ (if radio.isOff then ∅ else slot.connected),
          c ∈ slot.connected := by
        intro slot c hc
        split at hc
        · exact absurd hc (ClassSet.not_mem_empty c)
        · exact hc
      refine h.amend_less (fun slot hfits => ⟨fun c hc => hfits.carries c (hless slot c hc), ?_⟩)
        hless
      intro hoff
      exact if_pos (by simpa [Radio.isOff] using hoff)

/-- Every order keeps it so that one slot at most carries data. -/
theorem Sole.after (h : m.Sole) (order : Order) : (m.after order).Sole := by
  cases order with
  | execute t command => exact h.execute t command
  | tune t radio => exact h.setRadio t radio
  | failEnables | failDisables =>
    exact h.amend_less (fun slot hfits => hfits.less rfl rfl fun _ hc => hc) fun _ _ hc => hc

theorem sole_run (config : ModemConfig) (orders : List Order) : (run config orders).Sole := by
  induction orders using List.reverseRecOn with
  | nil => exact sole_ofConfig config
  | append_singleton orders order ih =>
    rw [run_append]
    exact ih.after order

/-! ## What a slot is configured for -/

/-- The radio of a slot and what it can carry, if there is such a slot. -/
def kind? (m : Modem) (t : Tenant) : Option (Radio × ClassSet) :=
  (m.slot? t).map fun slot => (slot.radio, slot.supported)

/-- What a slot can carry, if there is such a slot. -/
def carries? (m : Modem) (t : Tenant) : Option ClassSet := (m.slot? t).map Slot.supported

/-- The radio of a slot after an order. -/
def Order.tunes (t : Tenant) (radio : Radio) : Order → Radio
  | .tune u radio' => if u = t then radio' else radio
  | .execute .. | .failEnables .. | .failDisables .. => radio

theorem kind?_amend_keep {g : Slot → Slot} (hradio : ∀ slot, (g slot).radio = slot.radio)
    (hcarries : ∀ slot, (g slot).supported = slot.supported) (u : Tenant) :
    (m.amend t g).kind? u = m.kind? u := by
  unfold kind?
  by_cases hu : u = t
  · rw [hu, slot?_amend_self, Option.map_map]
    refine congrArg (Option.map · _) (funext fun slot => ?_)
    rw [Function.comp_apply, hradio, hcarries]
  · rw [slot?_amend_ne m hu]

/-- A command changes no radio, nor what a slot can carry. -/
theorem kind?_execute (m : Modem) (t u : Tenant) (command : Command) :
    (m.execute t command).1.kind? u = m.kind? u := by
  have hends := m.ends_execute t command
  generalize (m.execute t command).1 = m', (m.execute t command).2 = fault at hends
  cases hends with
  | noSlot | radioOff | unsupported | busy => rfl
  | enableInjected | enabled | disableInjected | disabled | idled =>
    refine kind?_amend_keep (m := m.count) ?_ ?_ u
    · exact fun _ => rfl
    · exact fun _ => rfl

/-- Setting a radio changes nothing else of this. -/
theorem kind?_setRadio (m : Modem) (t u : Tenant) (radio : Radio) :
    (m.setRadio t radio).1.kind? u =
      (m.kind? u).map fun kind => (if t = u then radio else kind.1, kind.2) := by
  by_cases hu : t = u
  · subst hu
    unfold Modem.setRadio kind?
    cases hslot : m.slot? t with
    | none => simp [hslot]
    | some slot =>
      by_cases hsame : slot.radio = radio
      · simp [hslot, hsame]
      · simp [hslot, hsame, slot?_amend_self]
  · have hother : (m.setRadio t radio).1.slot? u = m.slot? u := by
      unfold Modem.setRadio
      split
      · rfl
      · split
        · rfl
        · exact slot?_amend_ne m (Ne.symm hu) _
    unfold kind?
    rw [hother, Option.map_map]
    simp [hu, Function.comp_def]

/-- No order changes what a slot can carry, and its radio is the one that is set. -/
theorem kind?_after (m : Modem) (order : Order) (u : Tenant) :
    (m.after order).kind? u = (m.kind? u).map fun kind => (order.tunes u kind.1, kind.2) := by
  cases order with
  | execute t command => exact (m.kind?_execute t u command).trans Option.map_id'.symm
  | tune t radio => exact m.kind?_setRadio t u radio
  | failEnables | failDisables =>
    refine (kind?_amend_keep ?_ ?_ u).trans Option.map_id'.symm
    · exact fun _ => rfl
    · exact fun _ => rfl

/-- There is a slot for each that was configured.  It can carry what it was configured for, and its
radio is the one that was set last, if it was set at all. -/
theorem kind?_run (config : ModemConfig) (orders : List Order) (t : Tenant) :
    (run config orders).kind? t = config.slots[t.slot]?.map fun slot =>
      (orders.foldl (Order.tunes t) slot.radio, slot.carries) := by
  induction orders using List.reverseRecOn with
  | nil =>
    show ((ofConfig config).slots[t.slot]?).map _ = _
    rw [ofConfig, List.getElem?_map, Option.map_map]
    rfl
  | append_singleton orders order ih =>
    rw [run_append, kind?_after, ih, Option.map_map]
    simp only [List.foldl_append, List.foldl_cons, List.foldl_nil]
    rfl

theorem radio?_eq (m : Modem) (t : Tenant) : m.radio? t = (m.kind? t).map Prod.fst := by
  rw [kind?, Option.map_map]
  rfl

theorem carries?_eq (m : Modem) (t : Tenant) : m.carries? t = (m.kind? t).map Prod.snd := by
  rw [kind?, Option.map_map]
  rfl

theorem radio?_run (config : ModemConfig) (orders : List Order) (t : Tenant) :
    (run config orders).radio? t = config.slots[t.slot]?.map fun slot =>
      orders.foldl (Order.tunes t) slot.radio := by
  rw [radio?_eq, kind?_run, Option.map_map]
  rfl

theorem carries?_run (config : ModemConfig) (orders : List Order) (t : Tenant) :
    (run config orders).carries? t = config.slots[t.slot]?.map SlotConfig.carries := by
  rw [carries?_eq, kind?_run, Option.map_map]
  rfl

/-- A slot can carry the classes that are named for it, and all if none is named. -/
theorem mem_carries {slot : SlotConfig} :
    c ∈ slot.carries ↔ slot.supported = [] ∨ c ∈ slot.supported := by
  unfold SlotConfig.carries
  rw [ClassSet.mem_ofList]
  split
  · next hnone =>
    exact iff_of_true (DataClass.mem_all c) (.inl (List.isEmpty_iff.1 hnone))
  · next hsome => exact (or_iff_right fun hnil => hsome (List.isEmpty_iff.2 hnil)).symm

/-- Only the classes that were configured for a slot are supported, and all if none was. -/
theorem supports_run (config : ModemConfig) (orders : List Order) (t : Tenant) (c : DataClass) :
    (run config orders).supports t c = true ↔
      ∃ slot, config.slots[t.slot]? = some slot ∧ (slot.supported = [] ∨ c ∈ slot.supported) := by
  have hcarries : (run config orders).supports t c = true ↔
      ∃ cs, (run config orders).carries? t = some cs ∧ c ∈ cs := by
    rw [supports, carries?]
    cases (run config orders).slot? t <;> simp
  rw [hcarries, carries?_run]
  constructor
  · rintro ⟨cs, hcs, hc⟩
    obtain ⟨slot, hslot, rfl⟩ := Option.map_eq_some_iff.1 hcs
    exact ⟨slot, hslot, mem_carries.1 hc⟩
  · rintro ⟨slot, hslot, hc⟩
    exact ⟨slot.carries, Option.map_eq_some_iff.2 ⟨slot, hslot, rfl⟩, mem_carries.2 hc⟩

/-! ## Counting -/

/-- Whether a verdict is that another slot holds the data path. -/
def isBusy : Option ModemFault → Bool
  | some (.busy _) => true
  | _ => false

/-- Every command counts, and every refusal for the sake of the data path is a violation. -/
theorem counts_after (m : Modem) (order : Order) :
    (m.after order).commands = m.commands + (m.verdict order).length ∧
      (m.after order).violations = m.violations + (m.verdict order).countP isBusy := by
  cases order with
  | execute t command =>
    have hends := m.ends_execute t command
    show (m.execute t command).1.commands = m.commands + [(m.execute t command).2].length ∧
      (m.execute t command).1.violations = m.violations + [(m.execute t command).2].countP isBusy
    generalize (m.execute t command).1 = m', (m.execute t command).2 = fault at hends
    cases hends <;> exact ⟨rfl, rfl⟩
  | tune t radio =>
    show (m.setRadio t radio).1.commands = m.commands ∧
      (m.setRadio t radio).1.violations = m.violations
    refine ⟨?_, (m.setRadio_cases t radio).1⟩
    unfold Modem.setRadio
    split
    · rfl
    · split <;> rfl
  | failEnables | failDisables => exact ⟨rfl, rfl⟩

theorem counts_run (config : ModemConfig) (orders : List Order) :
    (run config orders).commands = ((ofConfig config).verdicts orders).length ∧
      (run config orders).violations = ((ofConfig config).verdicts orders).countP isBusy := by
  induction orders using List.reverseRecOn with
  | nil => exact ⟨rfl, rfl⟩
  | append_singleton orders order ih =>
    obtain ⟨hcommands, hviolations⟩ := counts_after (run config orders) order
    have hlast : (ofConfig config).verdicts (orders ++ [order]) =
        (ofConfig config).verdicts orders ++ (run config orders).verdict order := by
      rw [verdicts_append, verdicts, verdicts, List.append_nil]
      rfl
    rw [run_append, hcommands, hviolations, ih.1, ih.2, hlast, List.length_append,
      List.countP_append]
    exact ⟨rfl, rfl⟩

/-! ## The oracle -/

/-- What can be relied on when a modem has been told a list of orders. -/
structure Oracle (config : ModemConfig) (orders : List Order) (m : Modem) : Prop where
  /-- One slot at most carries data. -/
  one : ∀ t u c d, c ∈ m.up t → d ∈ m.up u → t = u
  /-- It is the holder. -/
  holder : ∀ t, m.holder? = some t ↔ ∃ c, c ∈ m.up t
  /-- The holder and its classes are what the modem tells. -/
  told : m.stats.holder = m.holder? ∧
    ∀ c, c ∈ m.stats.activeClasses ↔ ∃ t, m.holder? = some t ∧ c ∈ m.up t
  /-- A slot carries only what it can carry, and nothing while its radio is off. -/
  fits : ∀ t slot, m.slot? t = some slot → slot.Fits
  /-- What a slot can carry is what it was configured for. -/
  supported : ∀ t, m.carries? t = (ofConfig config).carries? t
  /-- These are the classes that the configuration names for it, and all classes if it names none. -/
  configured : ∀ t c, m.supports t c = true ↔
    ∃ slot, config.slots[t.slot]? = some slot ∧ (slot.supported = [] ∨ c ∈ slot.supported)
  /-- There is a slot for each that was configured, and its radio is the one that was set last, or the
  one that was configured. -/
  radio : ∀ t, m.radio? t = config.slots[t.slot]?.map fun slot =>
    orders.foldl (Order.tunes t) slot.radio
  /-- Nothing was connected at the start. -/
  start : ∀ t, (ofConfig config).up t = ∅
  /-- The violations are the refusals for the sake of the data path. -/
  violations : m.stats.violations = ((ofConfig config).verdicts orders).countP isBusy
  /-- Every command counts, also one for a slot that does not exist. -/
  commands : m.stats.commands = orders.countP Order.isCommand
  /-- The next command is refused for the first reason that there is. -/
  refuses : ∀ t command f, (m.execute t command).2 = some f ↔ m.Refuses t command f
  /-- A refusal uses up at most the failure that was injected. -/
  spares : ∀ t command f, (m.execute t command).2 = some f →
    m.Spares t command f (m.execute t command).1
  /-- A command that is not refused does what it says, and on its slot only. -/
  obeys : ∀ t command, (m.execute t command).2 = none →
    (∀ c, c ∈ (m.execute t command).1.up t ↔ command.word c (c ∈ m.up t) = true) ∧
      ∀ u, u ≠ t → (m.execute t command).1.up u = m.up u

/-- The classes that a modem tells of are those of the holder. -/
theorem mem_activeClasses (m : Modem) (c : DataClass) :
    c ∈ m.stats.activeClasses ↔ ∃ t, m.holder? = some t ∧ c ∈ m.up t := by
  unfold stats
  cases hholder : m.holder? with
  | none => simp
  | some t => simp [up]

/-- Whatever a modem is told, its verdicts can be relied on. -/
theorem oracle_of_run (config : ModemConfig) (orders : List Order) :
    Oracle config orders (run config orders) := by
  have hsole := sole_run config orders
  obtain ⟨hcommands, hviolations⟩ := counts_run config orders
  refine ⟨hsole.one, fun t => hsole.holder?_eq_some_iff, ⟨rfl, mem_activeClasses _⟩, hsole.fits,
    fun t => (carries?_run config orders t).trans (carries?_run config [] t).symm,
    supports_run config orders, radio?_run config orders, up_ofConfig config, hviolations, ?_,
    fun t command f => ?_,
    fun t command f hf => spares_execute hf, fun t command hnone => ?_⟩
  · exact hcommands.trans (length_verdicts _ orders)
  · exact ⟨hsole.refuses, hsole.execute_eq_some⟩
  · have hexecutes := (run config orders).executes t command
    refine ⟨hexecutes.done hnone, fun u hu => ?_⟩
    rw [up, hexecutes.others u hu, up]

end DataPath.Modem
