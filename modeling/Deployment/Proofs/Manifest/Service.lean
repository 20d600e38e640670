import Deployment.Proofs.Manifest.Concealment
import Deployment.Proofs.Manifest.Fields

/-!
# Proofs/Manifest/Service — a body and the service that it is read as

A body is read entry by entry, each replacing what was there.  What comes of it is said here without
the run: the last value under a key decides its field (`latest_eq`), all other keys are kept
(`extra_withEntries`), and every entry has its own warnings (`filter_flatMap_entryWarnings`).
`service_eq_ok_iff_entries`: a body is read exactly when it keeps the rules, and as the service that
its entries decide.
-/

namespace Deployment

namespace Value

/-- Whether a key spells one of some names, under tags or not. -/
def spells (names : List String) (key : Value) : Bool := key.asString?.any names.contains

/-- A key spells a name when it reads as one of them. -/
theorem spells_iff {names : List String} {key : Value} :
    key.spells names = true ↔ ∃ name ∈ names, key.asString? = some name := by
  rw [spells, Option.any_eq_true]
  constructor
  · rintro ⟨name, hkey, hname⟩
    exact ⟨name, List.contains_iff_mem.1 hname, hkey⟩
  · rintro ⟨name, hname, hkey⟩
    exact ⟨name, hkey, List.contains_iff_mem.2 hname⟩

theorem spells_eq_false_iff {names : List String} {key : Value} :
    key.spells names = false ↔ key.Avoids names := by
  rw [← Bool.not_eq_true, spells_iff, Avoids]
  constructor
  · intro hnot name hname heq
    exact hnot ⟨name, hname, heq⟩
  · rintro h ⟨name, hname, heq⟩
    exact h name hname heq

end Value

namespace Manifest

/-! ## Fields

Where a field is accepted, what it is read as can be said without the reader: it is a function of
its value. -/

/-- The variables that a mapping sets, one after the other. -/
def assigned (vars : List (Value × Value)) : List (String × String) := vars.filterMap variableOf?

/-- The variables of a value. -/
def variablesOf : Value → Environment
  | .mapping vars => .ofList (assigned vars)
  | .sequence entries => .ofList (entries.filterMap assignment?)
  | _ => {}

/-- The warnings about the variables of a value. -/
def environmentWarnings (service : String) : Value → List Warning
  | .mapping vars => vars.filterMap (variableWarning? service)
  | _ => []

/-- An accepted environment is that of its variables, with the warnings about the rest. -/
theorem environment_eq_ok {service : String} {v : Value} {result : Environment × List Warning}
    (h : environment service v = .ok result) :
    (variablesOf v, environmentWarnings service v) = result := by
  cases v with
  | null => exact Outcome.pure_eq_ok.1 h
  | mapping vars => exact Outcome.pure_eq_ok.1 h
  | sequence entries => exact Outcome.pure_eq_ok.1 h
  | _ => cases h

/-- The entries of a list; null and what is no list have none. -/
def listed : Value → List Value
  | .sequence items => items
  | _ => []

theorem listed_of_ok {error : SchemaError} {v : Value} {items : List Value}
    (h : listEntries error v = .ok items) : listed v = items := by
  cases v with
  | null => exact Outcome.pure_eq_ok.1 h
  | sequence items => exact Outcome.pure_eq_ok.1 h
  | _ => cases h

/-- The credentials of a mapping. -/
def credentialsOf (v : Value) : Option Registry :=
  v.asMapping?.map fun es => ⟨fieldOf es "url", fieldOf es "username", fieldOf es "password"⟩

theorem credentialsOf_of_ok {service : String} {v : Value} {r : Registry}
    (h : registry service v = .ok r) : credentialsOf v = some r := by
  rw [registry] at h
  rw [credentialsOf]
  cases hv : v.asMapping? with
  | none =>
    rw [hv] at h
    cases h
  | some es =>
    rw [hv] at h
    exact congrArg some (Outcome.pure_eq_ok.1 h)

/-! ## One entry

An entry sets one field of a service, by its key. So a service after an entry is one record with a
case for each field. -/

/-- **What an entry does to a service**: it replaces the field that its key spells, or is kept with
the other keys. -/
def withSetting (s : Service) (e : Value × Value) : Service :=
  { s with
    ports := if e.1.asString? = some "ports" then ports (listed e.2) else s.ports
    environment :=
      if e.1.asString? = some "environment" then variablesOf e.2 else s.environment
    volumes := if e.1.asString? = some "volumes" then volumes (listed e.2) else s.volumes
    subdomain := if e.1.asString? = some "x-subdomain" then e.2.scalarText? else s.subdomain
    registry := if e.1.asString? = some "x-registry" then credentialsOf e.2 else s.registry
    extra :=
      if e.1.spells settingKeys then s.extra else Entries.insert Value.same e.1 e.2 s.extra }

/-- The warnings about an entry. -/
def entryWarnings (service : String) (e : Value × Value) : List Warning :=
  if e.1.asString? = some "ports" then portWarnings service (listed e.2)
  else if e.1.asString? = some "environment" then environmentWarnings service e.2
  else if e.1.asString? = some "volumes" then volumeWarnings service (listed e.2)
  else []

/-- **A setting does what its entry does**, and has the warnings about it. -/
theorem apply_eq {service : String} {e : Value × Value} {s : Setting}
    (h : setting service e = .ok s) (draft : Draft) (hname : draft.1.name = service) :
    draft.apply s = (withSetting draft.1 e, draft.2 ++ entryWarnings service e) := by
  have hspells {key : Value} {name : String} (hkey : key.asString? = some name)
      (hname : name ∈ settingKeys) : key.spells settingKeys = true :=
    Value.spells_iff.2 ⟨name, hname, hkey⟩
  subst hname
  cases sets_of_setting h with
  | image hkey =>
    simp [Draft.apply, withSetting, entryWarnings, hkey, hspells hkey (by decide)]
  | ports hkey hitems =>
    simp [Draft.apply, withSetting, entryWarnings, hkey, hspells hkey (by decide),
      listed_of_ok hitems]
  | environment hkey henv =>
    obtain ⟨rfl, rfl⟩ := Prod.mk.inj (environment_eq_ok henv)
    simp [Draft.apply, withSetting, entryWarnings, hkey, hspells hkey (by decide)]
  | volumes hkey hitems =>
    simp [Draft.apply, withSetting, entryWarnings, hkey, hspells hkey (by decide),
      listed_of_ok hitems]
  | subdomain hkey htext =>
    simp [Draft.apply, withSetting, entryWarnings, hkey, hspells hkey (by decide), htext]
  | registry hkey hr =>
    simp [Draft.apply, withSetting, entryWarnings, hkey, hspells hkey (by decide),
      credentialsOf_of_ok hr]
  | @extra key v havoids =>
    have hnone (name : String) (hname : name ∈ settingKeys) : key.asString? ≠ some name :=
      havoids name hname
    simp [Draft.apply, withSetting, entryWarnings, Value.spells_eq_false_iff.2 havoids,
      hnone "ports" (by decide), hnone "environment" (by decide), hnone "volumes" (by decide),
      hnone "x-subdomain" (by decide), hnone "x-registry" (by decide)]

/-- The warnings of an entry are about the field of its key. -/
theorem allOn_entryWarnings (service : String) {e : Value × Value} {field : String}
    (h : e.1.asString? = some field) : AllOn service field (entryWarnings service e) := by
  rw [entryWarnings, h]
  split_ifs with hports henvironment hvolumes
  · obtain rfl := Option.some.inj hports
    exact allOn_portWarnings service _
  · obtain rfl := Option.some.inj henvironment
    cases e.2 with
    | mapping vars => exact allOn_environment (v := .mapping vars) rfl
    | _ => exact List.forall_mem_nil _
  · obtain rfl := Option.some.inj hvolumes
    exact allOn_volumeWarnings service _
  · exact List.forall_mem_nil _

/-- What stands under a key has the warnings about its field, whatever tags the key has. -/
theorem filter_entryWarnings (service field : String) (e : Value × Value) :
    ((entryWarnings service e).filter fun w => w.field == field) =
      if e.1.asString? = some field then entryWarnings service (.string field, e.2) else [] := by
  cases hkey : e.1.asString? with
  | none => simp [entryWarnings, hkey]
  | some key =>
    have hentry : entryWarnings service e = entryWarnings service (.string key, e.2) := by
      rw [entryWarnings, entryWarnings, hkey]
      rfl
    rw [(allOn_entryWarnings service hkey).filter_field, hentry]
    by_cases hfield : key = field
    · rw [if_pos hfield, if_pos (congrArg some hfield), hfield]
    · rw [if_neg hfield, if_neg (mt Option.some.inj hfield)]

/-! ## All entries

After all entries each field has the value of the last entry that sets it, and the warnings of all
of them stand in their order. -/

section

variable {α : Type} (field : String) (read : Value → α)

/-- What the last value under a key is read as, if there is one. -/
def latest (init : α) (es : List (Value × Value)) : α :=
  (fieldValues field es).foldl (fun _ v => read v) init

variable {field read}

/-- An entry is taken until a later one is. -/
theorem latest_cons (init : α) (e : Value × Value) (es : List (Value × Value)) :
    latest field read init (e :: es) =
      latest field read (if e.1.asString? = some field then read e.2 else init) es := by
  rw [latest, latest, fieldValues, fieldValues, List.filterMap_cons]
  by_cases hkey : e.1.asString? = some field
  · simp only [if_pos hkey, List.foldl_cons]
  · simp only [if_neg hkey]

/-- **The last value decides.** -/
theorem latest_eq {init : α} {es : List (Value × Value)} {earlier : List Value} {v : Value}
    (h : fieldValues field es = earlier ++ [v]) : latest field read init es = read v := by
  rw [latest, h, List.foldl_append]
  rfl

end

/-- **The warnings on a field are those about the values under it**, in their order. -/
theorem filter_flatMap_entryWarnings (service field : String) (es : List (Value × Value)) :
    ((es.flatMap (entryWarnings service)).filter fun w => w.field == field) =
      (fieldValues field es).flatMap fun v => entryWarnings service (.string field, v) := by
  induction es with
  | nil => rfl
  | cons e es ih =>
    rw [List.flatMap_cons, List.filter_append, ih, filter_entryWarnings, fieldValues, fieldValues,
      List.filterMap_cons]
    by_cases hkey : e.1.asString? = some field
    · simp only [if_pos hkey, List.flatMap_cons]
    · simp only [if_neg hkey, List.nil_append]

/-- The entries whose keys are not recognized as names that have a meaning. -/
def others (recognized : Value → Bool) (es : List (Value × Value)) : List (Value × Value) :=
  es.filter fun e => !recognized e.1

/-- Keys that differ do so among the entries that are kept. -/
theorem apart_others {recognized : Value → Bool} {es : List (Value × Value)}
    (h : Entries.Apart Value.same es) : Entries.Apart Value.same (others recognized es) :=
  h.sublist (List.filter_sublist.map Prod.fst)

/-- A service with the fields that entries decide and the other keys that they bring. -/
def withEntries (s : Service) (es : List (Value × Value)) : Service :=
  { s with
    ports := latest "ports" (fun v => ports (listed v)) s.ports es
    environment := latest "environment" variablesOf s.environment es
    volumes := latest "volumes" (fun v => volumes (listed v)) s.volumes es
    subdomain := latest "x-subdomain" Value.scalarText? s.subdomain es
    registry := latest "x-registry" credentialsOf s.registry es
    extra := (others (Value.spells settingKeys) es).foldl
      (fun acc e => Entries.insert Value.same e.1 e.2 acc) s.extra }

theorem withEntries_cons (s : Service) (e : Value × Value) (es : List (Value × Value)) :
    withEntries s (e :: es) = withEntries (withSetting s e) es := by
  have hextra : (others (Value.spells settingKeys) (e :: es)).foldl
      (fun acc e => Entries.insert Value.same e.1 e.2 acc) s.extra =
        (others (Value.spells settingKeys) es).foldl
          (fun acc e => Entries.insert Value.same e.1 e.2 acc) (withSetting s e).extra := by
    rw [others, others, List.filter_cons, withSetting]
    cases e.1.spells settingKeys <;> rfl
  simp only [withEntries, latest_cons, hextra, withSetting]

/-- **The other entries are kept**, in their order. -/
theorem extra_withEntries (s : Service) {es : List (Value × Value)}
    (h : Entries.Apart Value.same es) (hs : s.extra = []) :
    (withEntries s es).extra = others (Value.spells settingKeys) es := by
  rw [withEntries, hs]
  exact Entries.foldl_insert (apart_others h) (List.forall_mem_nil _)

/-- **Settings make what their entries decide.** -/
theorem foldl_apply_eq {service : String} {es : List (Value × Value)} {ss : List Setting}
    (h : List.Forall₂ (fun e s => setting service e = .ok s) es ss) (draft : Draft)
    (hname : draft.1.name = service) :
    ss.foldl Draft.apply draft =
      (withEntries draft.1 es, draft.2 ++ es.flatMap (entryWarnings service)) := by
  induction h generalizing draft with
  | nil => exact Prod.ext rfl (List.append_nil _).symm
  | @cons e s es ss he _ ih =>
    have hrest := ih (withSetting draft.1 e, draft.2 ++ entryWarnings service e) hname
    rw [List.foldl_cons, apply_eq he draft hname, hrest, withEntries_cons, List.flatMap_cons,
      List.append_assoc]

/-- The draft of a body: the service that its entries decide, with its warnings. -/
def draftOf (name image : String) (es : List (Value × Value)) : Draft :=
  (withLabelledFragment (withEntries { name, image } es), es.flatMap (entryWarnings name))

/-- What is drafted from settings is said by the entries that they were read from. -/
theorem drafted_eq {name : String} {es : List (Value × Value)} {ss : List Setting}
    (h : List.Forall₂ (fun e s => setting name e = .ok s) es ss) (image : String) :
    drafted name image ss = draftOf name image es := by
  rw [drafted, applied, foldl_apply_eq h _ rfl]
  rfl

/-- **A body is read exactly when it keeps the rules, and as what its entries decide.** -/
theorem service_eq_ok_iff_entries {name : String} {body : Value} {draft : Draft} :
    service name body = .ok draft ↔
      ∃ es img, HasEntries body es ∧ image name es = .ok img ∧ (∀ e ∈ es, IsSetting e.1 e.2) ∧
        draftOf name img es = draft := by
  rw [service_eq_ok_iff]
  refine exists_congr fun es => exists_congr fun img => ?_
  have hsettings : (∀ e ∈ es, IsSetting e.1 e.2) ↔
      ∃ ss, List.Forall₂ (fun e s => setting name e = .ok s) es ss := by
    rw [Outcome.exists_forall₂_iff]
    exact forall₂_congr fun e _ => (exists_setting_iff name).symm
  rw [hsettings]
  constructor
  · rintro ⟨ss, hes, himg, hss, rfl⟩
    exact ⟨hes, himg, ⟨ss, hss⟩, (drafted_eq hss img).symm⟩
  · rintro ⟨hes, himg, ⟨ss, hss⟩, rfl⟩
    exact ⟨ss, hes, himg, hss, drafted_eq hss img⟩

end Manifest

end Deployment
