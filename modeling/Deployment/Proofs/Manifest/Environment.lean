import Deployment.Proofs.Manifest.Kept
import Deployment.Proofs.Template.Unresolved

/-!
# Proofs/Manifest/Environment — the variables of a service and the warnings about them

An entry of a mapping of variables whose key has a text either sets the variable of that name or is
left out with a warning (`length_named`).  Of several that set the same variable, the last one
counts, and nothing is said about the others: `EnvironmentKept` says what becomes of a mapping, and
that no entry is lost if and only if the keys of those that set variables have different texts.
Keys of a mapping are different values, and different values may have one text
(`Document.environment_sameVariable`).
-/

namespace Deployment

namespace Manifest

/-! ## The entries of a mapping -/

/-- The entries of a mapping of variables that name one. -/
def named (vars : List (Value × Value)) : List (Value × Value) :=
  vars.filter fun e => (variableKey? e.1).isSome

/-- **An entry that names a variable sets it or has a warning**, and not both. -/
theorem length_named (service : String) (vars : List (Value × Value)) :
    (named vars).length =
      (assigned vars).length + (environmentWarnings service (.mapping vars)).length := by
  induction vars with
  | nil => rfl
  | cons e vars ih =>
    obtain ⟨k, v⟩ := e
    simp only [named, assigned, environmentWarnings] at ih
    simp only [named, assigned, environmentWarnings, List.filter_cons, List.filterMap_cons,
      variableOf?, variableWarning?]
    cases variableKey? k with
    | none => exact ih
    | some key =>
      cases v.scalarText? with
      | none => exact (congrArg Nat.succ ih).trans (Nat.add_succ _ _).symm
      | some text => exact (congrArg Nat.succ ih).trans (Nat.succ_add _ _).symm

/-- **What becomes of a mapping of variables** in a service, with the warnings about it. -/
structure EnvironmentKept (s : Service) (ws : List Warning) (vars : List (Value × Value)) :
    Prop where
  /-- The service has the variables that are set, each as it is set last. -/
  latest : s.environment.entries.Perm (Entries.lasts (assigned vars))
  /-- Every entry that names a variable and has no text for it has a warning. -/
  warned : ws = vars.filterMap (variableWarning? s.name)
  /-- Where the names differ, every variable is there, in the order of the mapping. -/
  ordered : ((assigned vars).map Prod.fst).Nodup → s.environment.entries = assigned vars
  /-- No entry is lost if and only if the names differ. -/
  whole_iff : s.environment.entries.length + ws.length = (named vars).length ↔
    ((assigned vars).map Prod.fst).Nodup

/-- The variables of a mapping are bound one after the other, and each entry that is no variable is
reported. -/
theorem environmentKept_of_eq {s : Service} {vars : List (Value × Value)}
    (h : s.environment = .ofList (assigned vars)) :
    EnvironmentKept s (environmentWarnings s.name (.mapping vars)) vars where
  latest := h ▸ TextMap.perm_entries_ofList (assigned vars)
  warned := rfl
  ordered hnodup := h ▸ TextMap.entries_ofList_of_nodup hnodup
  whole_iff := by
    rw [length_named s.name, Nat.add_right_cancel_iff, h,
      (TextMap.perm_entries_ofList _).length_eq, Entries.length_lasts_eq_iff]

/-! ## Bodies of services -/

/-- **The last mapping of variables in a body is kept** as far as its names differ. -/
theorem environmentKept_of_reads {e : Value × Value} {draft : Draft} (h : Reads e draft)
    {earlier : List Value} {vars : List (Value × Value)}
    (hvars : fieldValues "environment" (entriesOf e.2) = earlier ++ [.mapping vars]) :
    ∃ ws, (draft.2.filter fun w => w.field == "environment") =
        earlier.flatMap (environmentWarnings draft.1.name) ++ ws ∧
      EnvironmentKept draft.1 ws vars := by
  obtain ⟨es, image, hes, -, -, hdraft⟩ := service_eq_ok_iff_entries.1 h.2
  rw [hes.entriesOf_eq] at hvars
  have hwarnings : draft.2 = es.flatMap (entryWarnings draft.1.name) :=
    (congrArg Prod.snd hdraft).symm
  refine ⟨environmentWarnings draft.1.name (.mapping vars), ?_, environmentKept_of_eq ?_⟩
  · rw [hwarnings, filter_flatMap_entryWarnings, hvars, List.flatMap_append,
      List.flatMap_singleton]
    rfl
  · rw [← congrArg Prod.fst hdraft]
    exact latest_eq hvars

end Manifest

/-! ## Documents -/

namespace Document

/-- **From which manifest a document is read**: from one that is given, or from the skeleton of a
template with its texts filled in. -/
inductive ReadFrom : Value → Document → Prop
  | manifest {v : Value} {d : Document} : ofValue v = .ok d → ReadFrom v d
  | template {t : Template} {supplied r : Bindings} {d : Document} :
    t.resolve supplied = .ok r → t.render supplied = .ok d →
    ReadFrom (Template.filled r t.skeleton) d

/-- A document that is read from a manifest or a template is that of a value. -/
theorem ReadFrom.ofValue_eq {v : Value} {d : Document} (h : ReadFrom v d) : ofValue v = .ok d := by
  cases h with
  | manifest h => exact h
  | template hresolve hrender =>
    rw [Template.render_eq_fillSkeleton hresolve] at hrender
    exact Template.ofValue_of_fillSkeleton hrender

/-- **The variables of a service are those that its mapping sets**, and the warnings about them are
those that it must have: every entry that names a variable is one or the other, except that of
entries with the same name all but the last one are lost without a warning. -/
theorem environment_kept {v : Value} {d : Document} (h : ReadFrom v d) :
    ∃ root services, v.untagged = .mapping root ∧
      Value.lookup "services" root = some (.mapping services) ∧
      List.Forall₂ (fun e s => Manifest.Names e.1 s.1 ∧ ∀ earlier vars,
        Manifest.fieldValues "environment" (Manifest.entriesOf e.2) = earlier ++ [.mapping vars] →
          ∃ ws, d.warningsOn s.1 "environment" =
              earlier.flatMap (Manifest.environmentWarnings s.1) ++ ws ∧
            Manifest.EnvironmentKept s.2 ws vars) services d.services := by
  obtain ⟨root, services, drafts, hroot, hlookup, hreads, hnodup, hservices, hwarnings⟩ :=
    exists_drafts_of_ofValue h.ofValue_eq
  refine ⟨root, services, hroot, hlookup, ?_⟩
  rw [hservices, List.forall₂_map_right_iff]
  have hmem : List.Forall₂ (fun draft e => draft ∈ drafts ∧ Manifest.Reads e draft) drafts
      services := (List.forall₂_and_left _ _).2 ⟨fun _ hdraft => hdraft, hreads.flip⟩
  refine hmem.flip.imp fun e draft ⟨hdraft, he⟩ => ⟨he.1, fun earlier vars hvars => ?_⟩
  obtain ⟨ws, hfilter, hkept⟩ := Manifest.environmentKept_of_reads he hvars
  exact ⟨ws, (warningsOn_of_mem hreads hnodup hwarnings hdraft _).trans hfilter, hkept⟩

/-- The manifest of a service with variables. -/
def withVariables (vars : List (Value × Value)) : Value :=
  .mapping [(.string "services", .mapping [(.string "web", .mapping [
    (.string "image", .string "nginx"), (.string "environment", .mapping vars)])])]

/-- Variables with different names, one of them without a text. -/
def someVariables : List (Value × Value) :=
  [(.string "PORT", .string "80"), (.bool true, .null), (.string "", .string "lost"),
    (.string "HOSTS", .sequence [])]

theorem environment_kept_someVariables :
    ∃ d s, ReadFrom (withVariables someVariables) d ∧ d.services = [("web", s)] ∧
      s.environment.entries = [("PORT", "80"), ("true", "")] ∧
      (d.warningsOn "web" "environment").map Warning.entry = ["HOSTS"] := by
  obtain ⟨d, hd⟩ : ∃ d, ofValue (withVariables someVariables) = .ok d := ⟨_, rfl⟩
  obtain ⟨root, services, hroot, hlookup, hkept⟩ := environment_kept (.manifest hd)
  obtain rfl := Value.mapping.inj hroot
  obtain rfl := Value.mapping.inj (Option.some.inj hlookup)
  obtain ⟨⟨name, s⟩, rest, ⟨hname, hweb⟩, hrest, hservices⟩ := List.forall₂_cons_left_iff.1 hkept
  obtain rfl := List.forall₂_nil_left_iff.1 hrest
  cases hname with
  | text _ =>
  obtain ⟨ws, hwarnings, hvars⟩ := hweb [] someVariables rfl
  refine ⟨d, s, .manifest hd, hservices, hvars.ordered ?_, ?_⟩
  · decide
  · rw [hwarnings, hvars.warned]
    rfl

/-- Two variables under keys that are different values and have the same text. -/
def sameVariable : List (Value × Value) :=
  [(.number (.int 5), .string "a"), (.string "5", .string "b")]

/-- **An entry of a mapping may be lost without a warning.** -/
theorem environment_sameVariable :
    (withVariables sameVariable).KeysApart ∧ Manifest.named sameVariable = sameVariable ∧
      ∃ d s, ReadFrom (withVariables sameVariable) d ∧ d.services = [("web", s)] ∧
        s.environment.entries = [("5", "b")] ∧ d.warnings = [] := by
  refine ⟨?_, rfl, _, _, .manifest rfl, rfl, rfl, rfl⟩
  simp [withVariables, sameVariable, Value.keysApart_mapping_iff, Value.KeysApart.string,
    Value.KeysApart.number, Entries.Apart, Value.same]

end Document

end Deployment
