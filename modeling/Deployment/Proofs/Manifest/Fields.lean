import Deployment.Proofs.Manifest.Acceptance
import Deployment.Proofs.Manifest.Normal

/-!
# Proofs/Manifest/Fields — where the fields of a service and the warnings about it come from

A field of a service is read from the values of the body whose keys spell it (`fieldValues`).  Every
setting adds its warnings behind those of the settings before (`snd_foldl_apply`), and every
service its own behind those of the services before (`Document.exists_drafts_of_ofValue`).  A
warning names its service (`service_of_mem_snd`), so the warnings about a service are found among
all of a document (`Document.warningsOn_of_mem`).
-/

namespace Deployment

namespace Manifest

/-! ## Settings

Reading a body leaves a service and a list of warnings. The warnings are those of its settings, one
after the other. -/

/-- The warnings that a setting makes. -/
def settingWarnings (service : String) : Setting → List Warning
  | .ports entries => portWarnings service entries
  | .environment _ ws => ws
  | .volumes entries => volumeWarnings service entries
  | _ => []

/-- **A setting adds its warnings to those that are there.** -/
theorem snd_apply (draft : Draft) (s : Setting) :
    (draft.apply s).2 = draft.2 ++ settingWarnings draft.1.name s := by
  cases s with
  | ports entries => rfl
  | environment e ws => rfl
  | volumes entries => rfl
  | image => exact (List.append_nil _).symm
  | subdomain text => exact (List.append_nil _).symm
  | registry r => exact (List.append_nil _).symm
  | extra key v => exact (List.append_nil _).symm

/-- The warnings of settings are put behind those that are there. -/
theorem snd_foldl_apply (ss : List Setting) (draft : Draft) :
    (ss.foldl Draft.apply draft).2 = draft.2 ++ ss.flatMap (settingWarnings draft.1.name) := by
  induction ss generalizing draft with
  | nil => exact (List.append_nil _).symm
  | cons s ss ih =>
    rw [List.foldl_cons, ih, snd_apply, name_apply, List.flatMap_cons, List.append_assoc]

/-- The warnings of a draft are those of its settings, in their order. -/
theorem snd_drafted (name image : String) (ss : List Setting) :
    (drafted name image ss).2 = ss.flatMap (settingWarnings name) :=
  (snd_foldl_apply ss _).trans (List.nil_append _)

/-! ## Fields -/

/-- The values of a body whose keys spell a field. -/
def fieldValues (field : String) (es : List (Value × Value)) : List Value :=
  es.filterMap fun e => if e.1.asString? = some field then some e.2 else none

/-! ## Whom a warning is about

Warnings of all services end in one list. Each names its service, so those about one service are
those of its body. -/

/-- Whether warnings are about one field of one service. -/
def AllOn (service field : String) (ws : List Warning) : Prop :=
  ∀ w ∈ ws, w.service = service ∧ w.field = field

/-- Warnings on one field are all or none of those on a field. -/
theorem AllOn.filter_field {service field : String} {ws : List Warning} (h : AllOn service field ws)
    (other : String) :
    (ws.filter fun w => w.field == other) = if field = other then ws else [] := by
  by_cases hfield : field = other
  · rw [if_pos hfield]
    exact List.filter_eq_self.2 fun w hw => beq_iff_eq.2 ((h w hw).2.trans hfield)
  · rw [if_neg hfield]
    exact List.filter_eq_nil_iff.2 fun w hw heq =>
      hfield ((h w hw).2.symm.trans (beq_iff_eq.1 heq))

/-- Warnings that are made alike are about the same field. -/
theorem allOn_filterMap {α : Type} {service field : String} {f : α → Option Warning}
    (h : ∀ a w, f a = some w → w.service = service ∧ w.field = field) (as : List α) :
    AllOn service field (as.filterMap f) := fun w hw => by
  obtain ⟨a, -, ha⟩ := List.mem_filterMap.1 hw
  exact h a w ha

theorem eq_of_ite_eq_some {p : Prop} [Decidable p] {v w : Warning}
    (h : (if p then none else some v) = some w) : v = w :=
  Option.some.inj (Option.ite_none_left_eq_some.1 h).2

theorem allOn_portWarnings (service : String) (entries : List Value) :
    AllOn service "ports" (portWarnings service entries) :=
  allOn_filterMap (fun _ _ h => eq_of_ite_eq_some h ▸ ⟨rfl, rfl⟩) entries

theorem allOn_volumeWarnings (service : String) (entries : List Value) :
    AllOn service "volumes" (volumeWarnings service entries) :=
  allOn_filterMap (fun _ _ h => eq_of_ite_eq_some h ▸ ⟨rfl, rfl⟩) entries

/-- Whatever form the variables have, what is left out is reported under their field. -/
theorem allOn_environment {service : String} {v : Value} {env : Environment} {ws : List Warning}
    (h : environment service v = .ok (env, ws)) : AllOn service "environment" ws := by
  cases v with
  | null =>
    obtain ⟨-, rfl⟩ := Prod.mk.inj (Outcome.pure_eq_ok.1 h)
    exact List.forall_mem_nil _
  | sequence entries =>
    obtain ⟨-, rfl⟩ := Prod.mk.inj (Outcome.pure_eq_ok.1 h)
    exact List.forall_mem_nil _
  | mapping vars =>
    obtain ⟨-, rfl⟩ := Prod.mk.inj (Outcome.pure_eq_ok.1 h)
    refine allOn_filterMap (fun e w hw => ?_) vars
    obtain ⟨key, -, hw⟩ := Option.bind_eq_some_iff.1 hw
    exact eq_of_ite_eq_some hw ▸ ⟨rfl, rfl⟩
  | _ => cases h

/-- **A warning about a body names the service.** -/
theorem service_of_mem_settingWarnings {service : String} {e : Value × Value} {s : Setting}
    (h : setting service e = .ok s) {w : Warning} (hw : w ∈ settingWarnings service s) :
    w.service = service := by
  cases sets_of_setting h with
  | ports _ _ => exact (allOn_portWarnings service _ w hw).1
  | environment _ henv => exact (allOn_environment henv w hw).1
  | volumes _ _ => exact (allOn_volumeWarnings service _ w hw).1
  | image _ | subdomain _ _ | registry _ _ | extra _ => exact absurd hw List.not_mem_nil

/-- The warnings of a service name it. -/
theorem service_of_mem_snd {e : Value × Value} {draft : Draft} (h : Reads e draft) {w : Warning}
    (hw : w ∈ draft.2) : w.service = draft.1.name := by
  obtain ⟨es, img, ss, -, -, hss, hdraft⟩ := service_eq_ok_iff.1 h.2
  rw [← hdraft, snd_drafted] at hw
  obtain ⟨s, hs, hw⟩ := List.mem_flatMap.1 hw
  obtain ⟨e, -, hsetting⟩ := Outcome.exists_of_forall₂_of_mem hss hs
  exact service_of_mem_settingWarnings hsetting hw

/-! ## Documents -/

/-- What stands beside the services brings no warnings. -/
theorem warnings_withEntry (d : Document) (e : Value × Value) :
    (withEntry d e).warnings = d.warnings := by
  rw [withEntry]
  split
  · rfl
  · rw [declaring_eq]
  · rfl

theorem warnings_foldl_withEntry (d : Document) (es : List (Value × Value)) :
    (es.foldl withEntry d).warnings = d.warnings := by
  induction es generalizing d with
  | nil => rfl
  | cons e es ih => exact (ih (withEntry d e)).trans (warnings_withEntry d e)

end Manifest

namespace Document

/-- **The services and the warnings of a manifest** are those of its drafts, in their order. -/
theorem exists_drafts_of_ofValue {v : Value} {d : Document} (h : ofValue v = .ok d) :
    ∃ root services drafts, v.untagged = .mapping root ∧
      Value.lookup "services" root = some (.mapping services) ∧
      List.Forall₂ Manifest.Reads services drafts ∧
      (drafts.map fun draft => draft.1.name).Nodup ∧
      d.services = drafts.map (fun draft => (draft.1.name, draft.1)) ∧
      d.warnings = drafts.flatMap Prod.snd := by
  obtain ⟨root, services, drafts, hroot, hlookup, hreads, hnodup, -, rfl⟩ := ofValue_eq_ok_iff.1 h
  refine ⟨root, services, drafts, hroot, hlookup, hreads, hnodup, ?_, ?_⟩
  · rw [Manifest.services_foldl_withEntry, Manifest.withDrafts, List.nil_append]
  · rw [Manifest.warnings_foldl_withEntry]
    exact List.nil_append _

/-- The warnings about a field of a service. -/
def warningsOn (d : Document) (service field : String) : List Warning :=
  d.warnings.filter fun w => w.service == service && w.field == field

/-- **The warnings about a service** are among those of its draft: services have different
names. -/
theorem warningsOn_of_mem {d : Document} {services : List (Value × Value)}
    {drafts : List Manifest.Draft} (hreads : List.Forall₂ Manifest.Reads services drafts)
    (hnodup : (drafts.map fun draft => draft.1.name).Nodup)
    (hwarnings : d.warnings = drafts.flatMap Prod.snd) {draft : Manifest.Draft}
    (hdraft : draft ∈ drafts) (field : String) :
    d.warningsOn draft.1.name field = draft.2.filter fun w => w.field == field := by
  have hservice : ∀ other ∈ drafts, ∀ w ∈ other.2, w.service = other.1.name := by
    intro other hother w hw
    obtain ⟨e, -, he⟩ := Outcome.exists_of_forall₂_of_mem hreads hother
    exact Manifest.service_of_mem_snd he hw
  have hsplit : ∀ other ∈ drafts,
      (other.2.filter fun w => w.service == draft.1.name && w.field == field) =
        if other.1.name = draft.1.name then other.2.filter fun w => w.field == field else [] := by
    intro other hother
    split
    · rename_i heq
      refine List.filter_congr fun w hw => ?_
      rw [hservice other hother w hw, heq, beq_self_eq_true, Bool.true_and]
    · rename_i hne
      refine List.filter_eq_nil_iff.2 fun w hw => ?_
      rw [hservice other hother w hw, beq_false_of_ne hne, Bool.false_and]
      exact Bool.false_ne_true
  rw [warningsOn, hwarnings, List.filter_flatMap, List.flatMap_congr hsplit]
  exact Entries.flatMap_ite_of_nodup hnodup hdraft _

end Document

end Deployment
