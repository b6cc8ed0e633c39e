import DataPath.Files.Tree
import DataPath.Proofs.Json.Records
import DataPath.Proofs.Spelling
import DataPath.Settings.Storage

/-!
# Settings come back as they were kept

Every field of the settings has a default, so a field that the encoder left out, or wrote under
another name, would come back as something else without an error.  That this never happens is shown
part by part, in the order in which the parts are nested: tenants, classes and radio states, the
configurations of slots, of the modem and of the arbiter, the steps, and the settings.  Each
encoding *denotes* what it was made of (`Json.Denotes`), provided that the numbers in it fit their
widths (`InRange`).

Two places need more than the fields.  A preferred tenant may be missing, which is written as
`null`; left out it would be the usual one.  And a step is read in two stages: its record is held
and its name split off before the other fields are looked at, so the record must not be nested too
deeply and its name must not be taken for one of the fields (`split?_record`).

A file only adds that a text that was written is what is read (`Tree.read?_of_write`).
`kept_of_inRange` says it all of settings, of each part on its own, and of files.
-/

namespace DataPath

open Json

/-! ## Tenants, classes and radio states -/

/-- The number of the slot fits its width. -/
def Tenant.InRange (t : Tenant) : Prop := t.slot ≤ Tenant.maxSlot

theorem Tenant.denotes {t : Tenant} (h : t.InRange) : Denotes Tenant.ofJson? t.toJson t where
  decoded := by
    rw [ofJson?, toJson, (denotes_nat h (by decide)).decoded]
    rfl
  plain := (denotes_nat h (by decide)).plain

theorem DataClass.denotes (c : DataClass) : Denotes DataClass.ofJson? c.toJson c where
  decoded := by
    rw [toJson, ofJson?_text, parse_eq_ok_iff.2 c.folded_label]
    rfl
  plain := rfl

theorem Radio.ofLabel?_label (r : Radio) : Radio.ofLabel? r.label = some r := by
  cases r <;> decide

theorem Radio.denotes (r : Radio) : Denotes Radio.ofJson? r.toJson r where
  decoded := r.ofLabel?_label
  plain := rfl

/-! ## Configurations -/

theorem SlotConfig.denotes (config : SlotConfig) :
    Denotes SlotConfig.ofJson? config.toJson config := by
  have hradio := config.radio.denotes
  have hsupported := denotes_list fun c (_ : c ∈ config.supported) => c.denotes
  constructor
  · rw [ofJson?, toJson, pick?_record]
    · simp [orDefault?, hradio.decoded, hsupported.decoded]
    · rfl
    · decide
  · refine isPlain_record ?_
    simp [hradio.plain, hsupported.plain]

namespace ModemConfig

/-- The number of milliseconds fits its width. -/
def InRange (config : ModemConfig) : Prop := config.latency ≤ maxWord

theorem denotes {config : ModemConfig} (h : config.InRange) :
    Denotes ofJson? config.toJson config := by
  have hlatency := denotes_nat h le_rfl
  have hslots := denotes_list fun slot (_ : slot ∈ config.slots) => slot.denotes
  constructor
  · rw [ofJson?, toJson, pick?_record]
    · simp [orDefault?, word?, hlatency.decoded, hslots.decoded]
    · rfl
    · decide
  · refine isPlain_record ?_
    simp [hlatency.plain, hslots.plain]

end ModemConfig

namespace ArbiterConfig

/-- The numbers of a configuration fit their widths. -/
structure InRange (config : ArbiterConfig) : Prop where
  count : config.tenantCount ≤ maxByte
  tenant : ∀ t ∈ config.defaultTenant, t.InRange
  capacity : config.mailboxCapacity ≤ maxWord

theorem denotes {config : ArbiterConfig} (h : config.InRange) :
    Denotes ofJson? config.toJson config := by
  have hcount := denotes_nat h.count (by decide)
  -- A tenant is encoded as a number, so none is mistaken for a missing one.
  have htenant := denotes_orNull (fun t ht => Tenant.denotes (h.tenant t ht)) fun _ => nofun
  have hclass := config.defaultClass.denotes
  have hcapacity := denotes_nat h.capacity le_rfl
  constructor
  · rw [ofJson?, toJson, pick?_record]
    · simp [orDefault?, byte?, word?, bool?, hcount.decoded, htenant.decoded, hclass.decoded,
        hcapacity.decoded]
    · rfl
    · decide
  · refine isPlain_record ?_
    simp [hcount.plain, htenant.plain, hclass.plain, hcapacity.plain, isPlain]

/-- No preferred tenant is written as `null`, which is not the same as leaving the field out. -/
example : ofJson? (.record [("default_tenant", .null)]) = some { defaultTenant := none } ∧
    ofJson? (.record []) = some { defaultTenant := some ⟨0⟩ } := by
  decide +kernel

end ArbiterConfig

/-! ## Steps -/

namespace Scenario.Step

/-- The numbers of a step fit their widths. -/
def InRange : Step → Prop
  | .activate t _ | .deactivate t _ | .radio t _ | .failNextEnable t => t.InRange
  | .wait ms => ms ≤ maxWord
  | .status => True

/-- The name of a step. -/
def tag : Step → String
  | .activate _ _ => "activate"
  | .deactivate _ _ => "deactivate"
  | .radio _ _ => "radio"
  | .failNextEnable _ => "fail_next_enable"
  | .wait _ => "wait"
  | .status => "status"

/-- The fields of a step besides its name. -/
def operands : Step → List (String × Json)
  | .activate t c | .deactivate t c => [("tenant", t.toJson), ("class", c.toJson)]
  | .radio t state => [("tenant", t.toJson), ("state", state.toJson)]
  | .failNextEnable t => [("tenant", t.toJson)]
  | .wait ms => [("ms", .nat ms)]
  | .status => []

theorem toJson_eq (step : Step) :
    step.toJson = .record (("step", .text step.tag) :: step.operands) := by
  cases step <;> rfl

theorem fieldsOf?_tag (step : Step) : fieldsOf? step.tag = some (step.operands.map Prod.fst) := by
  cases step <;> rfl

/-- No field is there twice, and none has the key of the name. -/
theorem nodup_keys (step : Step) : ("step" :: step.operands.map Prod.fst).Nodup := by
  cases step <;> simp [operands]

/-- The name of a step is split off from its other fields. -/
theorem split?_record {name : String} {fields : List (String × Json)}
    (hnodup : ("step" :: fields.map Prod.fst).Nodup) :
    split? (.record (("step", .text name) :: fields)) = some (name, .record fields) := by
  have hgiven := givenOnce?_record
    (List.mem_cons_self : ("step", Json.text name) ∈ ("step", .text name) :: fields) hnodup
  have hkeep : ∀ f ∈ fields, f.1 ≠ "step" := fun f hf heq =>
    (List.nodup_cons.1 hnodup).1 (heq ▸ List.mem_map_of_mem hf)
  have hrest : fields.filter (fun f => !decide (f.1 = "step")) = fields := by simpa using hkeep
  rw [record, split?, hgiven]
  simp [record, List.filter_map, Function.comp_def, hrest, text?, text]

theorem radio?_toJson (r : Radio) : radio? r.toJson = some r := r.denotes.decoded

/-- The name of a step and all its fields make the step. -/
theorem build?_operands {step : Step} (h : step.InRange) :
    build? step.tag (step.operands.map fun f => some f.2) = some step := by
  cases step with
  | activate t c | deactivate t c =>
    simp [tag, operands, build?, required?, (Tenant.denotes h).decoded, c.denotes.decoded]
  | radio t r => simp [tag, operands, build?, required?, (Tenant.denotes h).decoded, radio?_toJson]
  | failNextEnable t => simp [tag, operands, build?, required?, (Tenant.denotes h).decoded]
  | wait ms => simp [tag, operands, build?, required?, word?, (denotes_nat h le_rfl).decoded]
  | status => rfl

theorem isPlain_operands {step : Step} (h : step.InRange) :
    ∀ f ∈ step.operands, f.2.isPlain = true := by
  cases step with
  | activate t c | deactivate t c => simp [operands, (Tenant.denotes h).plain, c.denotes.plain]
  | radio t r => simp [operands, (Tenant.denotes h).plain, r.denotes.plain]
  | failNextEnable t => simp [operands, (Tenant.denotes h).plain]
  | wait ms => simp [operands, (denotes_nat h le_rfl).plain]
  | status => simp [operands]

theorem depth_operands (step : Step) : ∀ f ∈ step.operands, f.2.depth ≤ 0 := by
  cases step <;> simp [operands, Tenant.toJson, DataClass.toJson, Radio.toJson, nat, text, depth]

/-- A step comes back wherever its record can stand. -/
theorem denotes {step : Step} (h : step.InRange) (level : Nat) (hlevel : level < maxDepth) :
    Denotes (ofJson? level) step.toJson step := by
  have hplain : step.toJson.isPlain = true :=
    step.toJson_eq ▸ isPlain_record (List.forall_mem_cons.2 ⟨rfl, isPlain_operands h⟩)
  have hdepth : step.toJson.depth ≤ 1 :=
    step.toJson_eq ▸ depth_record_le (List.forall_mem_cons.2 ⟨le_rfl, step.depth_operands⟩)
  have hheld : step.toJson.isHeld level = true := by
    rw [isHeld, hplain, Bool.true_and, decide_eq_true_eq]
    omega
  have hpick := pick?_record rfl (List.nodup_cons.1 step.nodup_keys).2
  refine ⟨?_, hplain⟩
  rw [ofJson?, if_neg (not_not.2 hheld), step.toJson_eq, split?_record step.nodup_keys]
  simp [fieldsOf?_tag, hpick, build?_operands h]

end Scenario.Step

/-! ## Files -/

namespace Files.Tree

theorem entry?_put (tree : Tree) {names : List String} (hne : names ≠ []) (entry : Entry) :
    entry? (tree.put names entry) names = some entry := by
  unfold entry?
  rw [if_neg (by simpa using hne), put, List.lookup_cons_self]

/-- A text that could be written is there and is what is read. -/
theorem read?_of_write {tree tree' : Tree} {path text : String}
    (h : tree.write path text = (tree', true)) :
    tree'.contains path = true ∧ tree'.read? path = some text := by
  have hput : names path ≠ [] ∧ tree' = tree.put (names path) (.file text) := by
    -- The root is a directory, so nothing is written there.
    have hroot : names path = [] → tree.entry? (names path) = some .directory := by
      intro hnil
      rw [hnil]
      rfl
    simp only [write] at h
    split at h
    · next hnone =>
      exact ⟨fun hnil => by simp [hroot hnil] at hnone, (congrArg Prod.fst h).symm⟩
    · next hfile =>
      exact ⟨fun hnil => by simp [hroot hnil] at hfile, (congrArg Prod.fst h).symm⟩
    · cases h
  obtain ⟨hne, rfl⟩ := hput
  simp [contains, read?, entry?_put tree hne]

variable (tree : Tree) (path text : String)

theorem run_exists? : (access.exists? path).run tree = pure (tree.contains path, tree) := rfl

theorem run_read? : (access.read? path).run tree = pure (tree.read? path, tree) := rfl

theorem run_createDirs : (access.createDirs path).run tree = pure (tree.createDirs path).swap := rfl

theorem run_write : (access.write path text).run tree = pure (tree.write path text).swap := rfl

end Files.Tree

/-! ## Settings -/

namespace Settings

open Files

/-- The numbers of settings fit their widths. -/
structure InRange (s : Settings) : Prop where
  arbiter : s.arbiter.InRange
  modem : s.modem.InRange
  scenario : ∀ step ∈ s.scenario, step.InRange
  limit : s.eventLogLimit ≤ maxWord
  settle : s.settle ≤ maxWord

theorem denotes {s : Settings} (h : s.InRange) : Denotes ofJson? s.toJson s := by
  have harbiter := ArbiterConfig.denotes h.arbiter
  have hmodem := ModemConfig.denotes h.modem
  have hscenario := denotes_list fun step hstep =>
    Scenario.Step.denotes (h.scenario step hstep) stepLevel (by decide)
  have hlimit := denotes_nat h.limit le_rfl
  have hsettle := denotes_nat h.settle le_rfl
  constructor
  · rw [ofJson?, toJson, pick?_record]
    · simp [orDefault?, word?, harbiter.decoded, hmodem.decoded, hscenario.decoded, hlimit.decoded,
        hsettle.decoded]
    · rfl
    · decide
  · refine isPlain_record ?_
    simp [harbiter.plain, hmodem.plain, hscenario.plain, hlimit.plain, hsettle.plain]

theorem parse?_print {s : Settings} (h : s.InRange) : parse? s.print = some s :=
  (denotes h).survives.text

variable {s : Settings} {env : Environment} {path : Option String} {place : String}
  {tree tree' : Tree}

theorem write_of_writeTo {file : String}
    (h : (save.writeTo s Tree.access file).run tree = (.ok place, tree')) :
    file = place ∧ tree.write place s.print = (tree', true) := by
  rw [save.writeTo, StateT.run_bind, Tree.run_write] at h
  cases hwritten : tree.write file s.print with
  | mk written done =>
    rw [hwritten] at h
    cases done with
    | false => cases h
    | true =>
      cases h
      exact ⟨rfl, hwritten⟩

/-- Settings that were kept were written to the file that is named, or else to the usual place. -/
theorem write_of_save (h : (s.save Tree.access env path).run tree = (.ok place, tree')) :
    (path <|> env.settingsPath?) = some place ∧
      ∃ made : Tree, made.write place s.print = (tree', true) := by
  unfold save at h
  split at h
  · cases h
  · next file hfile =>
    split at h
    · next directory _ =>
      rw [StateT.run_bind, Tree.run_createDirs] at h
      cases hmade : tree.createDirs directory with
      | mk made done =>
        rw [hmade] at h
        cases done with
        | false => cases h
        | true =>
          obtain ⟨rfl, hwritten⟩ := write_of_writeTo h
          exact ⟨hfile, made, hwritten⟩
    · obtain ⟨rfl, hwritten⟩ := write_of_writeTo h
      exact ⟨hfile, tree, hwritten⟩

theorem readFrom_of_write (hs : s.InRange) (h : tree.write place s.print = (tree', true)) :
    (readFrom Tree.access place).run tree' = (.ok s, tree') := by
  rw [readFrom, StateT.run_bind, Tree.run_read?, (Tree.read?_of_write h).2, pure_bind]
  simp only [parse?_print hs]
  rfl

/-- Settings that were kept are loaded again, under the name they were given and from the place that
was told. -/
theorem load_of_save (hs : s.InRange)
    (h : (s.save Tree.access env path).run tree = (.ok place, tree')) :
    (load Tree.access env path).run tree' = (.ok s, tree') ∧
      (load Tree.access env (some place)).run tree' = (.ok s, tree') := by
  obtain ⟨hplace, made, hwritten⟩ := write_of_save h
  have hread := readFrom_of_write hs hwritten
  refine ⟨?_, hread⟩
  cases path with
  | some file =>
    obtain rfl : file = place := Option.some.inj hplace
    exact hread
  | none =>
    have hplace : env.settingsPath? = some place := hplace
    simp only [load, hplace, StateT.run_bind, Tree.run_exists?, (Tree.read?_of_write hwritten).1,
      pure_bind, ↓reduceIte, hread]

/-- Settings and all their parts come back from their encodings, and settings come back from the
files they are saved in. -/
structure Kept (s : Settings) : Prop where
  whole : Survives ofJson? s.toJson s
  arbiter : Survives ArbiterConfig.ofJson? s.arbiter.toJson s.arbiter
  modem : Survives ModemConfig.ofJson? s.modem.toJson s.modem
  slots : ∀ slot ∈ s.modem.slots, Survives SlotConfig.ofJson? slot.toJson slot
  /-- A step on its own is not enclosed by other values. -/
  steps : ∀ step ∈ s.scenario, Survives (Scenario.Step.ofJson? 0) step.toJson step
  stored : ∀ {env : Environment} {path : Option String} {place : String} {tree tree' : Tree},
    (s.save Tree.access env path).run tree = (.ok place, tree') →
      (load Tree.access env path).run tree' = (.ok s, tree') ∧
        (load Tree.access env (some place)).run tree' = (.ok s, tree')

/-- Settings survive being saved and loaded when their numbers fit. -/
theorem kept_of_inRange (h : s.InRange) : s.Kept where
  whole := (denotes h).survives
  arbiter := (ArbiterConfig.denotes h.arbiter).survives
  modem := (ModemConfig.denotes h.modem).survives
  slots slot _ := slot.denotes.survives
  steps step hstep := (Scenario.Step.denotes (h.scenario step hstep) 0 (by decide)).survives
  stored := load_of_save h

/-- Settings that differ from the default ones everywhere: no preferred tenant, every kind of step,
and the greatest numbers there are. -/
def unusual : Settings where
  arbiter :=
    { tenantCount := maxByte, defaultTenant := none, defaultClass := .mms,
      mailboxCapacity := maxWord, autoRecoverDefault := false }
  modem :=
    { latency := 0,
      slots := [⟨.off, [.supl, .ims, .supl]⟩, ⟨.outOfService, []⟩, ⟨.emergencyOnly, [.dun]⟩] }
  scenario :=
    [.activate ⟨Tenant.maxSlot⟩ .hipri, .deactivate ⟨0⟩ .ia, .radio ⟨1⟩ .emergencyOnly,
      .failNextEnable ⟨2⟩, .wait maxWord, .status]
  eventLogLimit := 0
  settle := maxWord

theorem inRange_unusual : unusual.InRange where
  arbiter := ⟨le_rfl, nofun, le_rfl⟩
  modem := Nat.zero_le _
  scenario := by simp [unusual, Scenario.Step.InRange, Tenant.InRange, Tenant.maxSlot]
  limit := Nat.zero_le _
  settle := le_rfl

/-- They can be saved where nothing is yet, and are loaded again. -/
theorem kept_unusual : unusual.InRange ∧ unusual.Kept ∧
    ∃ tree, (unusual.save Tree.access ⟨none, none⟩ (some "settings.json")).run {} =
        (.ok "settings.json", tree) ∧
      (load Tree.access ⟨none, none⟩ (some "settings.json")).run tree = (.ok unusual, tree) := by
  have hsaved : (unusual.save Tree.access ⟨none, none⟩ (some "settings.json")).run {} =
      (.ok "settings.json", Tree.put {} ["settings.json"] (.file unusual.print)) := rfl
  exact ⟨inRange_unusual, kept_of_inRange inRange_unusual, _, hsaved,
    ((kept_of_inRange inRange_unusual).stored hsaved).1⟩

end Settings

end DataPath
