import DataPath.Arbiter.Desk
import DataPath.Proofs.Classes

/-!
# How the arbiter decides

Whatever changes what is known of the owner ends in `settle`, so this is where ownership
moves.  Here is said once what it can come to (`settles`), with the new arbiter and the new
effects written out.

Two properties of an arbiter are behind that.

* `Orderly`: without an owner there is nothing to wait for and no grant is outstanding.  The
  owner and who waits are known tenants and different ones, who waits does so with a class,
  and then the owner asks for nothing.  No grant was issued twice.
* `Settled`: an owner that was last seen idle has a grant outstanding, and whenever somebody
  waits, the owner with its classes or another, there is a reason to wait: the owner is
  releasing, or was asked to clean up, or has a grant outstanding.

Nothing needs to be settled for an arbiter that is settled, and `settle` establishes this.
-/

namespace DataPath.Arbiter

variable {a a' : Arbiter}

/-! ## Many connects at once -/

/-- The grants that follow a serial number. -/
def grantsFrom : Nat → List DataClass → List Grant
  | _, [] => []
  | n, _ :: cs => ⟨n + 1⟩ :: grantsFrom (n + 1) cs

/-- The connects of some classes, under the grants that follow a serial number. -/
def connectsFrom (t : Tenant) : Nat → List DataClass → List Effect
  | _, [] => []
  | n, c :: cs => .connect t c ⟨n + 1⟩ :: connectsFrom t (n + 1) cs

@[simp] theorem length_grantsFrom (n : Nat) (cs : List DataClass) :
    (grantsFrom n cs).length = cs.length := by
  induction cs generalizing n with
  | nil => rfl
  | cons c cs ih => simp [grantsFrom, ih]

theorem serial_of_mem_grantsFrom {n : Nat} {cs : List DataClass} {g : Grant}
    (h : g ∈ grantsFrom n cs) : n < g.serial ∧ g.serial ≤ n + cs.length := by
  induction cs generalizing n with
  | nil => cases h
  | cons c cs ih =>
    rcases List.mem_cons.1 h with rfl | h
    · simp only [List.length_cons]
      omega
    · obtain ⟨h1, h2⟩ := ih h
      simp only [List.length_cons]
      omega

theorem nodup_grantsFrom (n : Nat) (cs : List DataClass) : (grantsFrom n cs).Nodup := by
  induction cs generalizing n with
  | nil => exact List.nodup_nil
  | cons c cs ih =>
    refine List.nodup_cons.2 ⟨fun hmem => ?_, ih (n + 1)⟩
    have := (serial_of_mem_grantsFrom hmem).1
    simp only at this
    omega

/-- Sending connects one after the other. -/
theorem foldl_sendConnect_eq (a : Arbiter) (t : Tenant) (cs : List DataClass) :
    cs.foldl (fun a c => a.sendConnect t c) a =
      { a with
        lastGrant := a.lastGrant + cs.length
        outstanding := a.outstanding ++ grantsFrom a.lastGrant cs
        outbox := a.outbox ++ connectsFrom t a.lastGrant cs } := by
  induction cs generalizing a with
  | nil => simp [grantsFrom, connectsFrom]
  | cons c cs ih =>
    rw [List.foldl_cons, ih]
    simp [sendConnect, issueGrant, emit, grantsFrom, connectsFrom, Nat.add_assoc, Nat.add_comm 1]

/-- Publishing that activations are refused, one after the other. -/
theorem foldl_publish_eq (a : Arbiter) (f : DataClass → Event) (cs : List DataClass) :
    cs.foldl (fun a c => a.publish (f c)) a =
      { a with outbox := a.outbox ++ cs.map fun c => .event (f c) } := by
  induction cs generalizing a with
  | nil => simp
  | cons c cs ih =>
    rw [List.foldl_cons, ih]
    simp [publish, emit]

theorem setOwner_eq (a : Arbiter) {owner : Option Tenant} (h : a.owner ≠ owner) :
    a.setOwner owner =
      { a with
        owner := owner
        cleanupRequested := false
        reacquire := ∅
        outbox := a.outbox ++ [.event (.ownerChanged a.owner owner)] } := by
  rw [setOwner, if_neg h]
  rfl

/-! ## What holds of an arbiter -/

/-- The records of the arbiter make sense. -/
structure Orderly (a : Arbiter) : Prop where
  free : a.owner = none →
    a.pending = none ∧ a.reacquire = ∅ ∧ a.cleanupRequested = false ∧ a.outstanding = []
  known : ∀ o, a.owner = some o → a.knows o = true
  pending : ∀ p, a.pending = some p → a.knows p.tenant = true ∧ a.owner ≠ some p.tenant ∧
    (∃ c, c ∈ p.classes) ∧ a.reacquire = ∅
  nodup : a.outstanding.Nodup
  issued : ∀ g ∈ a.outstanding, g.serial ≤ a.lastGrant

/-- Nothing is left to be settled. -/
structure Settled (a : Arbiter) : Prop where
  idle : ∀ o, a.owner = some o → a.phaseOf? o = some .idle → a.outstanding ≠ []
  waits : ∀ o, a.owner = some o → a.pending ≠ none ∨ a.reacquire ≠ ∅ →
    a.phaseOf? o = some .releasing ∨ a.cleanupRequested = true ∨ a.outstanding ≠ []

/-- There is a watch for a known tenant. -/
theorem exists_watch {t : Tenant} (h : a.knows t = true) : ∃ w, a.watch? t = some w :=
  ⟨_, List.getElem?_eq_getElem (of_decide_eq_true h)⟩

/-- A known tenant was last seen in some phase. -/
theorem exists_phaseOf {t : Tenant} (h : a.knows t = true) : ∃ p, a.phaseOf? t = some p := by
  obtain ⟨w, hw⟩ := exists_watch h
  exact ⟨w.lastSeen.phase, by rw [phaseOf?, lastSeen?, hw]; rfl⟩

/-! ## The cases of settling -/

/-- Who owns the data path is connected again with everything it asked for. -/
def connectedAgain (a : Arbiter) (o : Tenant) : Arbiter :=
  { a with
    reacquire := ∅
    lastGrant := a.lastGrant + a.reacquire.toList.length
    outstanding := a.outstanding ++ grantsFrom a.lastGrant a.reacquire.toList
    outbox := a.outbox ++ connectsFrom o a.lastGrant a.reacquire.toList }

/-- The data path is nobody's any more. -/
def freed (a : Arbiter) : Arbiter :=
  { a with
    owner := none
    pending := none
    cleanupRequested := false
    reacquire := ∅
    outbox := a.outbox ++ [.event (.ownerChanged a.owner none)] }

/-- The data path is nobody's any more, and who waited is refused. -/
def refused (a : Arbiter) (p : Pending) : Arbiter :=
  { a.freed with
    outbox := a.freed.outbox ++ p.classes.toList.map fun c =>
      .event (.activationRejected p.tenant c (.radioOff p.tenant)) }

/-- The data path is handed over to who waited. -/
def granted (a : Arbiter) (p : Pending) : Arbiter :=
  { a with
    owner := some p.tenant
    pending := none
    cleanupRequested := false
    reacquire := ∅
    lastGrant := a.lastGrant + p.classes.toList.length
    outstanding := a.outstanding ++ grantsFrom a.lastGrant p.classes.toList
    outbox := a.outbox ++ [.event (.ownerChanged a.owner (some p.tenant))] ++
      connectsFrom p.tenant a.lastGrant p.classes.toList }

/-- The owner has been asked to clean up. -/
def cleaning (a : Arbiter) (o : Tenant) : Arbiter :=
  { a with cleanupRequested := true, outbox := a.outbox ++ [.cleanupAll o] }

/-- What settling can come to. -/
inductive Settles (a : Arbiter) : Arbiter → Prop where
  /-- There is nothing to do. -/
  | rests (hidle : ∀ o, a.owner = some o → a.phaseOf? o = some .idle → a.outstanding ≠ [])
      (hwaits : ∀ o, a.owner = some o → a.pending ≠ none ∨ a.reacquire ≠ ∅ →
        a.phaseOf? o = some .releasing ∨ a.cleanupRequested = true ∨ a.outstanding ≠ []) :
      Settles a a
  /-- The owner gets what it asked for. -/
  | again (o : Tenant) (howner : a.owner = some o) (hpending : a.pending = none)
      (hsome : ∃ c, c ∈ a.reacquire)
      (hphase : a.phaseOf? o = some .idle ∨ ∃ p : Phase, a.phaseOf? o = some p ∧ p.isLive = true) :
      Settles a (a.connectedAgain o)
  /-- A live owner is asked to clean up. -/
  | cleans (o : Tenant) (howner : a.owner = some o) (hpending : a.pending ≠ none)
      (hnot : a.cleanupRequested = false)
      (hphase : ∃ p : Phase, a.phaseOf? o = some p ∧ p.isLive = true) : Settles a (a.cleaning o)
  /-- Nobody wants the data path. -/
  | frees (o : Tenant) (howner : a.owner = some o) (hphase : a.phaseOf? o = some .idle)
      (hnone : a.outstanding = []) (hpending : a.pending = none) (hnothing : a.reacquire = ∅) :
      Settles a a.freed
  /-- Who waits is refused. -/
  | refuses (o : Tenant) (p : Pending) (howner : a.owner = some o)
      (hphase : a.phaseOf? o = some .idle) (hnone : a.outstanding = [])
      (hpending : a.pending = some p)
      (hoff : ∀ m, a.lastSeen? p.tenant = some m → m.radio.isOff = true) :
      Settles a (a.refused p)
  /-- Who waits gets the data path. -/
  | grants (o : Tenant) (p : Pending) (howner : a.owner = some o)
      (hphase : a.phaseOf? o = some .idle) (hnone : a.outstanding = [])
      (hpending : a.pending = some p) : Settles a (a.granted p)

theorem connectAgain_eq (a : Arbiter) (o : Tenant) : a.connectAgain o = a.connectedAgain o := by
  rw [connectAgain, foldl_sendConnect_eq]
  rfl

/-- Handing over the data path of an idle owner without grants. -/
theorem settles_handOver (h : a.Orderly) {o : Tenant} (howner : a.owner = some o)
    (hphase : a.phaseOf? o = some .idle) (hnone : a.outstanding = [])
    (hnothing : a.pending = none → a.reacquire = ∅) :
    Settles a ({ a with reacquire := ∅ }.handOver) := by
  unfold handOver
  simp only
  split
  · next hpending =>
    have hne : ({ a with reacquire := ∅ } : Arbiter).owner ≠ none := by simp [howner]
    rw [setOwner_eq _ hne]
    have heq : a.freed = { a with
        owner := none
        cleanupRequested := false
        reacquire := ∅
        outbox := a.outbox ++ [.event (.ownerChanged a.owner none)] } := by
      unfold freed
      rw [hpending]
    exact heq ▸ .frees o howner hphase hnone hpending (hnothing hpending)
  · next p hpending =>
    have hne : a.owner ≠ some p.tenant := (h.pending p hpending).2.1
    split
    · next hoff =>
      have hne' : ({ a with pending := none, reacquire := ∅ } : Arbiter).owner ≠ none := by
        simp [howner]
      rw [setOwner_eq _ hne', foldl_publish_eq]
      refine .refuses o p howner hphase hnone hpending fun m hm => ?_
      have hoff' : (a.lastSeen? p.tenant).all (fun m => m.radio.isOff) = true := hoff
      rw [hm] at hoff'
      exact hoff'
    · have hne' : ({ a with pending := none, reacquire := ∅ } : Arbiter).owner ≠
          some p.tenant := hne
      rw [setOwner_eq _ hne', foldl_sendConnect_eq]
      exact .grants o p howner hphase hnone hpending

/-- A live owner is asked to clean up when somebody waits, and gets what it asked for otherwise. -/
theorem settles_live {o : Tenant} {p : Phase} (howner : a.owner = some o)
    (hphase : a.phaseOf? o = some p) (hlive : p.isLive = true) :
    Settles a (if a.pending.isSome then a.requestCleanup o
      else if ¬a.reacquire.isEmpty ∧ ¬a.cleanupRequested then a.connectAgain o
      else a) := by
  have hidle : ∀ o', a.owner = some o' → a.phaseOf? o' = some .idle → a.outstanding ≠ [] := by
    intro o' ho' hi
    obtain rfl := Option.some.inj (howner.symm.trans ho')
    obtain rfl := Option.some.inj (hphase.symm.trans hi)
    cases hlive
  split
  · next hpending =>
    have hne : a.pending ≠ none := Option.isSome_iff_ne_none.1 hpending
    unfold requestCleanup
    split
    · next hclean => exact .rests hidle fun _ _ _ => .inr (.inl hclean)
    · next hclean => exact .cleans o howner hne (by simpa using hclean) ⟨p, hphase, hlive⟩
  · next hpending =>
    have hnone : a.pending = none := by simpa using hpending
    split
    · next hagain =>
      rw [connectAgain_eq]
      exact .again o howner hnone (ClassSet.exists_mem_of_not_isEmpty hagain.1)
        (.inr ⟨p, hphase, hlive⟩)
    · next hnot =>
      refine .rests hidle fun _ _ hwait => .inr (.inl ?_)
      by_contra hclean
      refine hnot ⟨fun he => ?_, hclean⟩
      rcases hwait with hw | hw
      · exact hw hnone
      · exact hw (by simpa [ClassSet.isEmpty] using he)

/-- An idle owner waits for its grants, gets what it asked for, or gives the data path away. -/
theorem settles_idle (h : a.Orderly) {o : Tenant} (howner : a.owner = some o)
    (hphase : a.phaseOf? o = some .idle) :
    Settles a (if ¬a.outstanding.isEmpty then a
      else if a.pending.isNone ∧ ¬a.reacquire.isEmpty then a.connectAgain o
      else { a with reacquire := ∅ }.handOver) := by
  split
  · next hout =>
    have hne : a.outstanding ≠ [] := by simpa using hout
    exact .rests (fun _ _ _ => hne) fun _ _ _ => .inr (.inr hne)
  · next hout =>
    have hnone : a.outstanding = [] := by simpa using hout
    split
    · next hagain =>
      rw [connectAgain_eq]
      exact .again o howner (by simpa using hagain.1) (ClassSet.exists_mem_of_not_isEmpty hagain.2)
        (.inl hphase)
    · next hagain =>
      refine settles_handOver h howner hphase hnone fun hpending => ?_
      simpa [hpending, ClassSet.isEmpty] using hagain

/-- What settling comes to, for an arbiter with orderly records. -/
theorem settles (h : a.Orderly) : Settles a a.settle := by
  unfold settle
  split
  · next howner =>
    exact .rests (fun _ ho => nomatch howner.symm.trans ho) fun _ ho => nomatch howner.symm.trans ho
  · next o howner =>
    split
    · next hphase =>
      obtain ⟨p, hp⟩ := exists_phaseOf (h.known o howner)
      cases hphase.symm.trans hp
    · next hphase =>
      refine .rests (fun o' ho' hi => ?_) fun o' ho' _ => ?_
      · obtain rfl := Option.some.inj (howner.symm.trans ho')
        cases hphase.symm.trans hi
      · obtain rfl := Option.some.inj (howner.symm.trans ho')
        exact .inl hphase
    · next hphase => exact settles_idle h howner hphase
    · next hphase => exact settles_live howner hphase rfl
    · next hphase => exact settles_live howner hphase rfl

end DataPath.Arbiter
