import DataPath.Proofs.Arbiter.Input
import DataPath.Proofs.Switch.Step

/-!
# What notices tell of a phase

The arbiter knows the phase of a switch from notices only, and there may be notices that it
has not taken yet.  Those lead from the phase that it knows to the present one (`Leads`), and
on the way there the switch became idle only where a notice says so.

Sometimes it matters whether the switch was idle anywhere on the way (`Passes`): then it has
left idle by a grant since, if it is not idle now.
-/

namespace DataPath

/-- Whether a notice says that a switch became idle. -/
def Notice.isIdle : Notice → Bool
  | .enteredIdle .. => true
  | _ => false

namespace Mirror

variable {t : Tenant} {p q r : Phase} {ns ms : List Notice}

/-- What is known of the phase of a tenant after a notice. -/
def seen (t : Tenant) (p : Phase) (n : Notice) : Phase := if t = n.tenant then n.after p else p

/-- Notices lead from one phase of a tenant to another. -/
def Leads (t : Tenant) : Phase → List Notice → Phase → Prop
  | p, [], q => p = q
  | p, n :: ns, q =>
    (t = n.tenant → n.isIdle = true ∨ p.Follows (n.after p)) ∧ Leads t (seen t p n) ns q

/-- Starting from a phase, the tenant is idle before some notice or after the last. -/
def Passes (t : Tenant) : Phase → List Notice → Prop
  | p, [] => p = .idle
  | p, n :: ns => p = .idle ∨ Passes t (seen t p n) ns

theorem Leads.append (h : Leads t p ns q) (h' : Leads t q ms r) : Leads t p (ns ++ ms) r := by
  induction ns generalizing p with
  | nil => exact h ▸ h'
  | cons n ns ih => exact ⟨h.1, ih h.2⟩

/-- Who is idle on the way of some notices and then some more is idle on either way. -/
theorem Leads.passes (h : Leads t p ns q) (hp : Passes t p (ns ++ ms)) :
    Passes t p ns ∨ Passes t q ms := by
  induction ns generalizing p with
  | nil => exact .inr (h ▸ hp)
  | cons n ns ih =>
    rcases hp with hp | hp
    · exact .inl (.inl hp)
    · exact (ih h.2 hp).imp_left .inr

/-- Notices on others tell nothing. -/
theorem leads_of_ne (h : ∀ n ∈ ns, n.tenant ≠ t) : Leads t p ns p := by
  induction ns generalizing p with
  | nil => rfl
  | cons n ns ih =>
    have hne : ¬t = n.tenant := fun heq => h n List.mem_cons_self heq.symm
    refine ⟨fun heq => absurd heq hne, ?_⟩
    rw [seen, if_neg hne]
    exact ih fun m hm => h m (List.mem_cons_of_mem _ hm)

theorem passes_of_ne (h : ∀ n ∈ ns, n.tenant ≠ t) (hp : Passes t p ns) : p = .idle := by
  induction ns generalizing p with
  | nil => exact hp
  | cons n ns ih =>
    have hne : ¬t = n.tenant := fun heq => h n List.mem_cons_self heq.symm
    rcases hp with hp | hp
    · exact hp
    · rw [seen, if_neg hne] at hp
      exact ih (fun m hm => h m (List.mem_cons_of_mem _ hm)) hp

/-- Notices of a switch tell of what it has just done: they are about its tenant, they lead
to its present phase, and a switch that was not idle before and is not idle now was not idle
in between. -/
structure Tells (t : Tenant) (p : Phase) (ns : List Notice) (q : Phase) : Prop where
  tenant : ∀ n ∈ ns, n.tenant = t
  leads : Leads t p ns q
  idle : q ≠ .idle → Passes t p ns → p = .idle

theorem Tells.nil (t : Tenant) (p : Phase) : Tells t p [] p := ⟨nofun, rfl, fun _ h => h⟩

/-- A change of the observable state. -/
theorem Tells.updated {s : Snapshot} (ht : s.tenant = t) (hf : p.Follows s.phase) :
    Tells t p [.updated s] s.phase where
  tenant n hn := by
    rw [List.mem_singleton] at hn
    rw [hn]
    exact ht
  leads := by
    refine ⟨fun _ => .inr hf, ?_⟩
    have hseen : seen t p (.updated s) = s.phase := if_pos ht.symm
    rw [hseen]
    rfl
  idle hq hp := by
    rcases hp with hp | hp
    · exact hp
    · have hseen : seen t p (.updated s) = s.phase := if_pos ht.symm
      rw [hseen] at hp
      exact absurd hp hq

end Mirror

namespace Switch

variable {ρ : Type} {s s' : Switch ρ} {new : List (Effect ρ)}

/-- What a request makes a switch tell. -/
theorem TellsChange.tells (h : TellsChange s s' new) (hf : s.phase.Follows s'.phase)
    (ht : s'.tenant = s.tenant) : Mirror.Tells s.tenant s.phase (notices new) s'.phase := by
  rcases h with ⟨hnone, hsame⟩ | hone
  · have hphase : s'.phase = s.phase := congrArg Snapshot.phase hsame
    rw [hnone, hphase]
    exact .nil _ _
  · rw [hone]
    exact Mirror.Tells.updated (s := s'.snapshot) ht hf

/-- What a signal makes a switch tell. -/
theorem Heard.tells {signal : Signal} (h : Heard s signal s' new) (ht : s'.tenant = s.tenant) :
    Mirror.Tells s.tenant s.phase (notices new) s'.phase := by
  cases h with
  | released token fault replaying hsig htoken hphase hidle hparked hans hsub hnot =>
    rw [hnot]
    refine ⟨?_, ⟨fun _ => .inl rfl, ?_⟩, fun hne => absurd hidle hne⟩
    · intro n hn
      rcases List.mem_cons.1 hn with rfl | hn
      · rfl
      · rw [List.mem_singleton.1 hn]
        exact ht
    · have hseen : Mirror.seen s.tenant s.phase (.enteredIdle s.tenant replaying) = .idle :=
        if_pos rfl
      rw [hseen]
      refine (Mirror.Tells.updated (s := s'.snapshot) ht ?_).leads
      refine ⟨fun _ => rfl, nofun⟩
  | kept hfollows hidle hparked hans hsub hnot =>
    rcases hnot with hnot | ⟨radio, -, hnot⟩
    · exact hnot.tells hfollows ht
    · rw [hnot]
      have hupdated := Mirror.Tells.updated (s := s'.snapshot) ht hfollows
      have hseen : Mirror.seen s.tenant s.phase (.radioChanged s.tenant s.radio radio) = s.phase :=
        if_pos rfl
      refine ⟨?_, ⟨fun _ => .inr (Phase.Follows.refl _), ?_⟩, fun hne hp => ?_⟩
      · intro n hn
        rcases List.mem_cons.1 hn with rfl | hn
        · rfl
        · exact hupdated.tenant n hn
      · rw [hseen]
        exact hupdated.leads
      · rcases hp with hp | hp
        · exact hp
        · rw [hseen] at hp
          exact hupdated.idle hne hp

end Switch

end DataPath
