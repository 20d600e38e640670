import Mathlib.Data.List.Forall2
import Deployment.Manifest.Reading
import Deployment.Proofs.Entries
import Deployment.Proofs.Outcome
import Deployment.Proofs.Value

/-!
# Proofs/Manifest/Reading — what a manifest is read as

Reading goes through a manifest entry by entry.  Here it is said all at once: which entries are
needed, and which document they make.  The parts are the settings of a body
(`service_eq_ok_iff`), the services (`addServices_eq_ok_iff`) and what stands beside them
(`addRest_eq_ok_iff`); `Document.ofValue_eq_ok_iff` puts them together.  The only violation of a
manifest is a name that two services have (`Document.exists_of_ofValue_violation`).
-/

namespace Deployment

namespace CompileError

/-- Naming the kind of an error changes no success. -/
theorem ofSchema_eq_ok_iff {α : Type} {x : Except SchemaError α} {a : α} :
    ofSchema x = .ok a ↔ x = .ok a := by
  cases x with
  | ok b => rw [ofSchema, Except.ok.injEq, Except.ok.injEq]
  | error e => exact ⟨nofun, nofun⟩

theorem ofViolation_eq_ok_iff {α : Type} {x : Except Violation α} {a : α} :
    ofViolation x = .ok a ↔ x = .ok a := by
  cases x with
  | ok b => rw [ofViolation, Except.ok.injEq, Except.ok.injEq]
  | error e => exact ⟨nofun, nofun⟩

/-- A fault in the form of a manifest is no violation. -/
theorem ofSchema_ne_violation {α : Type} (x : Except SchemaError α) (w : Violation) :
    ofSchema x ≠ .error (.violation w) := by
  cases x <;> exact nofun

theorem ofViolation_eq_error_iff {α : Type} {x : Except Violation α} {w : Violation} :
    ofViolation x = .error (.violation w) ↔ x = .error w := by
  cases x with
  | ok a => exact ⟨nofun, nofun⟩
  | error e => simp only [ofViolation, Except.error.injEq, violation.injEq]

end CompileError

namespace Manifest

/-! ## Bodies of services

A body is read in one pass that stops at the first fault. It is accepted when every entry is, and
what it is read as is the settings of its entries applied in order. -/

/-- **The name that a key gives to a service**: the text of a text or a number, not blank. -/
inductive Names : Value → String → Prop
  | text {name : String} : ¬ Text.isBlankText name = true → Names (.string name) name
  | number {n : Number} : ¬ Text.isBlankText n.text = true → Names (.number n) n.text

/-- A service is named by a text or a number that is not blank. -/
theorem serviceName_eq_ok_iff {key : Value} {name : String} :
    serviceName key = .ok name ↔ Names key name := by
  cases key with
  | string s =>
    change (if Text.isBlankText s = true then throw SchemaError.blankName else pure s) = _ ↔ _
    rw [Outcome.guard_eq_ok, Outcome.pure_eq_ok]
    constructor
    · rintro ⟨hblank, rfl⟩
      exact .text hblank
    · rintro ⟨hblank⟩
      exact ⟨hblank, rfl⟩
  | number n =>
    change (if Text.isBlankText n.text = true then throw SchemaError.blankName
      else pure n.text) = _ ↔ _
    rw [Outcome.guard_eq_ok, Outcome.pure_eq_ok]
    constructor
    · rintro ⟨hblank, rfl⟩
      exact .number hblank
    · intro h
      cases h with
      | number hblank => exact ⟨hblank, rfl⟩
  | _ => exact ⟨nofun, nofun⟩

/-- The entries of a body; null has none. -/
inductive HasEntries : Value → List (Value × Value) → Prop
  | mapping (es : List (Value × Value)) : HasEntries (.mapping es) es
  | null : HasEntries .null []

/-- A body is a mapping, or nothing is said about the service. -/
theorem bodyEntries_eq_ok_iff {service : String} {body : Value} {es : List (Value × Value)} :
    bodyEntries service body = .ok es ↔ HasEntries body es := by
  cases body with
  | mapping fs =>
    rw [bodyEntries, Outcome.pure_eq_ok]
    constructor
    · rintro rfl
      exact .mapping fs
    · rintro ⟨⟩
      rfl
  | null =>
    rw [bodyEntries, Outcome.pure_eq_ok]
    constructor
    · rintro rfl
      exact .null
    · rintro ⟨⟩
      rfl
  | _ => exact ⟨nofun, nofun⟩

/-- The settings of a body are those of its entries. -/
theorem settings_eq_ok_iff {service : String} {es : List (Value × Value)} {ss : List Setting} :
    settings service es = .ok ss ↔ List.Forall₂ (fun e s => setting service e = .ok s) es ss := by
  induction es generalizing ss with
  | nil =>
    rw [settings, Outcome.pure_eq_ok, List.forall₂_nil_left_iff]
    exact eq_comm
  | cons e es ih =>
    rw [settings, Outcome.bind_eq_ok, List.forall₂_cons_left_iff]
    simp only [Outcome.bind_eq_ok, Outcome.pure_eq_ok, ih]
    constructor
    · rintro ⟨s, hs, rest, hrest, rfl⟩
      exact ⟨s, rest, hs, hrest, rfl⟩
    · rintro ⟨s, rest, hs, hrest, rfl⟩
      exact ⟨s, hs, rest, hrest, rfl⟩

/-- The draft that settings make of a name and an image. -/
def applied (name image : String) (ss : List Setting) : Draft :=
  ss.foldl Draft.apply ({ name, image }, [])

/-- The draft of a service, with the fragment of its label if it asks for none. -/
def drafted (name image : String) (ss : List Setting) : Draft :=
  (withLabelledFragment (applied name image ss).1, (applied name image ss).2)

/-- **A body is read when it has entries, an image and settings.** -/
theorem service_eq_ok_iff {name : String} {body : Value} {draft : Draft} :
    service name body = .ok draft ↔
      ∃ es img ss, HasEntries body es ∧ image name es = .ok img ∧
        List.Forall₂ (fun e s => setting name e = .ok s) es ss ∧ drafted name img ss = draft := by
  simp only [service, Outcome.bind_eq_ok, bodyEntries_eq_ok_iff, settings_eq_ok_iff]
  constructor
  · rintro ⟨es, hes, img, himg, ss, hss, h⟩
    exact ⟨es, img, ss, hes, himg, hss, Outcome.pure_eq_ok.1 h⟩
  · rintro ⟨es, img, ss, hes, himg, hss, rfl⟩
    exact ⟨es, hes, img, himg, ss, hss, rfl⟩

/-- No setting changes the name of a service. -/
theorem name_apply (draft : Draft) (setting : Setting) :
    (draft.apply setting).1.name = draft.1.name := by
  cases setting <;> rfl

theorem name_drafted (name image : String) (ss : List Setting) :
    (drafted name image ss).1.name = name := by
  have hfold : ∀ draft : Draft, (ss.foldl Draft.apply draft).1.name = draft.1.name := by
    induction ss with
    | nil => exact fun _ => rfl
    | cons s ss ih => exact fun draft => (ih (draft.apply s)).trans (name_apply draft s)
  exact hfold ({ name, image }, [])

/-! ## Services -/

/-- Whether an entry under `services` is read as a draft. -/
def Reads (e : Value × Value) (draft : Draft) : Prop :=
  Names e.1 draft.1.name ∧ service draft.1.name e.2 = .ok draft

theorem Reads.intro {e : Value × Value} {draft : Draft} {name : String} (hname : Names e.1 name)
    (hservice : service name e.2 = .ok draft) : Reads e draft := by
  obtain ⟨es, img, ss, -, -, -, rfl⟩ := service_eq_ok_iff.1 hservice
  rw [Reads, name_drafted]
  exact ⟨hname, hservice⟩

/-- A document with drafts added to it. -/
def withDrafts (d : Document) (drafts : List Draft) : Document :=
  { d with
    services := d.services ++ drafts.map fun draft => (draft.1.name, draft.1)
    warnings := d.warnings ++ drafts.flatMap Prod.snd }

/-- A document with one draft added to it. -/
def withDraft (d : Document) (draft : Draft) : Document :=
  { d with
    services := d.services ++ [(draft.1.name, draft.1)]
    warnings := d.warnings ++ draft.2 }

theorem withDrafts_cons (d : Document) (draft : Draft) (drafts : List Draft) :
    withDrafts d (draft :: drafts) = withDrafts (withDraft d draft) drafts := by
  simp [withDrafts, withDraft]

theorem mem_names_withDraft {d : Document} {draft : Draft} {name : String} :
    name ∈ (withDraft d draft).names ↔ name ∈ d.names ∨ name = draft.1.name := by
  simp [Document.names, withDraft]

end Manifest

/-- **A service is added behind the others**, unless its name is taken. -/
theorem Document.add_eq (d : Document) (s : Service) :
    d.add s =
      if s.name ∈ d.names then .error (.duplicateService s.name)
      else .ok { d with services := d.services ++ [(s.name, s)] } :=
  if_congr Entries.has_sameText_iff rfl rfl

/-- A service is added when its name is new. -/
theorem Document.add_eq_ok_iff {d d' : Document} {s : Service} :
    d.add s = .ok d' ↔
      s.name ∉ d.names ∧ { d with services := d.services ++ [(s.name, s)] } = d' := by
  rw [add, Outcome.guard_eq_ok, Outcome.pure_eq_ok, Entries.has_sameText_iff, names]

namespace Manifest

/-- **Services are read when each is and their names are new and pairwise different.** -/
theorem addServices_eq_ok_iff {d d' : Document} {es : List (Value × Value)} :
    addServices d es = .ok d' ↔
      ∃ drafts, List.Forall₂ Reads es drafts ∧
        (∀ draft ∈ drafts, draft.1.name ∉ d.names) ∧
        (drafts.map fun draft => draft.1.name).Nodup ∧ withDrafts d drafts = d' := by
  -- the document is general, since it holds the names that are taken so far
  induction es generalizing d with
  | nil =>
    rw [addServices, Outcome.pure_eq_ok]
    simp only [List.forall₂_nil_left_iff, exists_eq_left]
    simp [withDrafts]
  | cons e es ih =>
    obtain ⟨key, body⟩ := e
    simp only [addServices, Outcome.bind_eq_ok, CompileError.ofSchema_eq_ok_iff,
      CompileError.ofViolation_eq_ok_iff, serviceName_eq_ok_iff, Document.add_eq_ok_iff, ih]
    constructor
    · rintro ⟨name, hname, draft, hdraft, _, ⟨hnew, rfl⟩, drafts, hdrafts, hfree, hnodup, rfl⟩
      change ∀ rest ∈ drafts, rest.1.name ∉ (withDraft d draft).names at hfree
      simp only [mem_names_withDraft, not_or] at hfree
      refine ⟨draft :: drafts, .cons (.intro hname hdraft) hdrafts,
        List.forall_mem_cons.2 ⟨hnew, fun rest hrest => (hfree rest hrest).1⟩, ?_,
        withDrafts_cons d draft drafts⟩
      rw [List.map_cons, List.nodup_cons]
      refine ⟨fun hmem => ?_, hnodup⟩
      obtain ⟨rest, hrest, heq⟩ := List.mem_map.1 hmem
      exact (hfree rest hrest).2 heq
    · rintro ⟨_, hreads, hfree, hnodup, rfl⟩
      obtain ⟨draft, drafts, ⟨hname, hdraft⟩, hdrafts, rfl⟩ := List.forall₂_cons_left_iff.1 hreads
      rw [List.forall_mem_cons] at hfree
      rw [List.map_cons, List.nodup_cons] at hnodup
      refine ⟨_, hname, draft, hdraft, withDraft d draft, ⟨hfree.1, rfl⟩, drafts, hdrafts,
        fun rest hrest => ?_, hnodup.2, (withDrafts_cons d draft drafts).symm⟩
      rw [mem_names_withDraft, not_or]
      exact ⟨hfree.2 rest hrest, fun heq => hnodup.1 (List.mem_map.2 ⟨rest, hrest, heq⟩)⟩

/-! ## What stands beside the services

Entries under other keys are kept, and those under `volumes` declare names. Only these can be
refused. -/

/-- **What may stand under `volumes`**: nothing, or a mapping with scalars as keys. -/
inductive DeclaresVolumes : Value → Prop
  | null : DeclaresVolumes .null
  | mapping {vols : List (Value × Value)} (h : ∀ e ∈ vols, e.1.IsScalar) :
    DeclaresVolumes (.mapping vols)

/-- The volumes that a value declares, by the texts of its keys. -/
def volumeNames : Value → List String
  | .mapping vols => vols.filterMap fun e => e.1.scalarText?
  | _ => []

/-- A document with more volumes. -/
def declaring (d : Document) (names : List String) : Document := names.foldl Document.declare d

/-- Declaring volumes changes nothing else. -/
theorem declaring_eq (d : Document) (names : List String) :
    declaring d names = { d with volumes := names.foldl NameSet.insert d.volumes } := by
  rw [declaring]
  induction names generalizing d with
  | nil => rfl
  | cons name names ih => exact ih (d.declare name)

/-- Volumes are declared by keys that have a text. -/
theorem declareAll_eq_ok_iff {d d' : Document} {vols : List (Value × Value)} :
    declareAll d vols = .ok d' ↔
      (∀ e ∈ vols, e.1.IsScalar) ∧ declaring d (volumeNames (.mapping vols)) = d' := by
  induction vols generalizing d with
  | nil => exact Outcome.pure_eq_ok.trans ⟨fun h => ⟨nofun, h⟩, fun h => h.2⟩
  | cons e vols ih =>
    obtain ⟨key, v⟩ := e
    rw [declareAll, List.forall_mem_cons, ← Value.exists_scalarText?_iff, volumeNames,
      List.filterMap_cons]
    cases key.scalarText? with
    | none => exact ⟨nofun, fun h => nomatch h.1.1⟩
    | some name => exact ih.trans ⟨fun h => ⟨⟨⟨name, rfl⟩, h.1⟩, h.2⟩, fun h => ⟨h.1.2, h.2⟩⟩

/-- Where no volumes are named none is declared. -/
theorem declareVolumes_eq_ok_iff {d d' : Document} {v : Value} :
    declareVolumes d v = .ok d' ↔ DeclaresVolumes v ∧ declaring d (volumeNames v) = d' := by
  cases v with
  | null => exact Outcome.pure_eq_ok.trans ⟨fun h => ⟨.null, h⟩, fun h => h.2⟩
  | mapping vols =>
    refine declareAll_eq_ok_iff.trans (and_congr_left fun _ => ⟨.mapping, fun h => ?_⟩)
    cases h with
    | mapping h => exact h
  | _ => exact ⟨nofun, nofun⟩

/-- A document with what an entry of a manifest adds to its services. -/
def withEntry (d : Document) (e : Value × Value) : Document :=
  match e.1.asString? with
  | some "services" => d
  | some "volumes" => declaring d (volumeNames e.2)
  | _ => { d with extensions := Entries.insert Value.same e.1 e.2 d.extensions }

theorem withEntry_services {d : Document} {e : Value × Value}
    (h : e.1.asString? = some "services") : withEntry d e = d := by
  simp only [withEntry, h]

theorem withEntry_volumes {d : Document} {e : Value × Value}
    (h : e.1.asString? = some "volumes") : withEntry d e = declaring d (volumeNames e.2) := by
  simp only [withEntry, h]

theorem withEntry_extension {d : Document} {e : Value × Value}
    (hservices : e.1.asString? ≠ some "services") (hvolumes : e.1.asString? ≠ some "volumes") :
    withEntry d e = { d with extensions := Entries.insert Value.same e.1 e.2 d.extensions } := by
  rw [withEntry]
  split
  · contradiction
  · contradiction
  · rfl

/-- An entry without a meaning is kept, and reading goes on. -/
theorem addRest_extension {d : Document} {key v : Value} {es : List (Value × Value)}
    (hservices : key.asString? ≠ some "services") (hvolumes : key.asString? ≠ some "volumes") :
    addRest d ((key, v) :: es) = addRest (withEntry d (key, v)) es := by
  rw [addRest, withEntry_extension hservices hvolumes]
  split
  · contradiction
  · contradiction
  · rfl

/-- **What stands beside the services is read where it declares volumes as it must.** -/
theorem addRest_eq_ok_iff {d d' : Document} {es : List (Value × Value)} :
    addRest d es = .ok d' ↔
      (∀ e ∈ es, e.1.asString? = some "volumes" → DeclaresVolumes e.2) ∧
        es.foldl withEntry d = d' := by
  induction es generalizing d with
  | nil => exact Outcome.pure_eq_ok.trans ⟨fun h => ⟨nofun, h⟩, fun h => h.2⟩
  | cons e es ih =>
    obtain ⟨key, v⟩ := e
    rw [List.forall_mem_cons, List.foldl_cons]
    by_cases hservices : key.asString? = some "services"
    · rw [addRest, hservices, withEntry_services hservices]
      exact ih.trans ⟨fun h => ⟨⟨nofun, h.1⟩, h.2⟩, fun h => ⟨h.1.2, h.2⟩⟩
    by_cases hvolumes : key.asString? = some "volumes"
    · rw [addRest, hvolumes, withEntry_volumes hvolumes]
      simp only [Outcome.bind_eq_ok, declareVolumes_eq_ok_iff, ih]
      constructor
      · rintro ⟨_, ⟨hv, rfl⟩, hes, rfl⟩
        exact ⟨⟨fun _ => hv, hes⟩, rfl⟩
      · rintro ⟨⟨hv, hes⟩, rfl⟩
        exact ⟨_, ⟨hv trivial, rfl⟩, hes, rfl⟩
    · rw [addRest_extension hservices hvolumes, ih]
      exact and_congr_left fun _ => ⟨fun h => ⟨fun hv => absurd hv hvolumes, h⟩, fun h => h.2⟩

/-! ## Documents -/

/-- The services stand in a mapping under their key. -/
theorem servicesOf_eq_ok_iff {root services : List (Value × Value)} :
    servicesOf root = .ok services ↔
      Value.lookup "services" root = some (.mapping services) := by
  rw [servicesOf]
  cases Value.lookup "services" root with
  | none => exact ⟨nofun, nofun⟩
  | some v =>
    cases v with
    | mapping es => rw [Outcome.pure_eq_ok, Option.some.injEq, Value.mapping.injEq]
    | _ => exact ⟨nofun, nofun⟩

end Manifest

/-- **A manifest is read when** it is a mapping, it holds services that are read under different
names, and it declares volumes as it must. -/
theorem Document.ofValue_eq_ok_iff {v : Value} {d : Document} :
    ofValue v = .ok d ↔
      ∃ root services drafts, v.untagged = .mapping root ∧
        Value.lookup "services" root = some (.mapping services) ∧
        List.Forall₂ Manifest.Reads services drafts ∧
        (drafts.map fun draft => draft.1.name).Nodup ∧
        (∀ e ∈ root, e.1.asString? = some "volumes" → Manifest.DeclaresVolumes e.2) ∧
        root.foldl Manifest.withEntry (Manifest.withDrafts {} drafts) = d := by
  have hroot {root : List (Value × Value)} :
      v.asMapping?.elim (throw .notMapping) pure = (.ok root : Except SchemaError _) ↔
        v.untagged = .mapping root := by
    rw [← Value.asMapping?_eq_some_iff]
    cases v.asMapping? with
    | none => exact ⟨nofun, nofun⟩
    | some es => exact Outcome.pure_eq_ok.trans ⟨congrArg some, Option.some.inj⟩
  simp only [ofValue, Outcome.bind_eq_ok, CompileError.ofSchema_eq_ok_iff, hroot,
    Manifest.servicesOf_eq_ok_iff, Manifest.addServices_eq_ok_iff, Manifest.addRest_eq_ok_iff]
  constructor
  · rintro ⟨root, hv, services, hservices, _, ⟨drafts, hreads, -, hnodup, rfl⟩, hvolumes, rfl⟩
    exact ⟨root, services, drafts, hv, hservices, hreads, hnodup, hvolumes, rfl⟩
  · rintro ⟨root, services, drafts, hv, hservices, hreads, hnodup, hvolumes, rfl⟩
    exact ⟨root, hv, services, hservices, _, ⟨drafts, hreads, fun _ _ => nofun, hnodup, rfl⟩,
      hvolumes, rfl⟩

/-! ## Violations -/

/-- A service is refused for its name only. -/
theorem Document.exists_of_add_eq_error {d : Document} {s : Service} {w : Violation}
    (h : d.add s = .error w) : ∃ name, w = .duplicateService name := by
  rw [add_eq] at h
  split at h
  · exact ⟨s.name, (Except.error.inj h).symm⟩
  · exact nomatch h

theorem Manifest.exists_of_addServices_violation {d : Document} {es : List (Value × Value)}
    {w : Violation} (h : addServices d es = .error (.violation w)) :
    ∃ name, w = .duplicateService name := by
  induction es generalizing d with
  | nil => exact nomatch h
  | cons e es ih =>
    rcases Outcome.bind_eq_error.1 h with h | ⟨name, -, h⟩
    · exact absurd h (CompileError.ofSchema_ne_violation _ w)
    rcases Outcome.bind_eq_error.1 h with h | ⟨draft, -, h⟩
    · exact absurd h (CompileError.ofSchema_ne_violation _ w)
    rcases Outcome.bind_eq_error.1 h with h | ⟨next, -, h⟩
    · exact Document.exists_of_add_eq_error (CompileError.ofViolation_eq_error_iff.1 h)
    · exact ih h

/-- **The only rule that a manifest breaks** is that services have different names. -/
theorem Document.exists_of_ofValue_violation {v : Value} {w : Violation}
    (h : ofValue v = .error (.violation w)) : ∃ name, w = .duplicateService name := by
  rcases Outcome.bind_eq_error.1 h with h | ⟨root, -, h⟩
  · exact absurd h (CompileError.ofSchema_ne_violation _ w)
  rcases Outcome.bind_eq_error.1 h with h | ⟨services, -, h⟩
  · exact absurd h (CompileError.ofSchema_ne_violation _ w)
  rcases Outcome.bind_eq_error.1 h with h | ⟨d, -, h⟩
  · exact Manifest.exists_of_addServices_violation h
  · exact absurd h (CompileError.ofSchema_ne_violation _ w)

end Deployment
