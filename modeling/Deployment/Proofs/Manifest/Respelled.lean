import Deployment.Proofs.Manifest.Altered
import Deployment.Proofs.Manifest.RoundTrip

/-!
# Proofs/Manifest/Respelled — pairs of texts as a mapping or as a list

Variables and labels are written as a mapping, or as a list of texts `key=text`
(`Value.HoldsPairs`).  Both are read as the same variables (`environment_of_pairs`), and a label has
the same text in both (`Service.Respelled.label?_eq`).  So a manifest that is written in other
spellings is read as the same document but for the spelling of the labels that it keeps, or fails
with the same error (`Document.ofValue_respelled`).
-/

namespace Deployment

/-! ## Pairs of texts

A list of texts with a sign and a mapping of texts hold the same pairs. They are read in two ways,
and each way is compared with the pairs. -/

/-- The mapping of pairs. -/
def Value.pairMapping (ps : List (String × String)) : Value :=
  .mapping (ps.map fun p => (.string p.1, .string p.2))

/-- The list of the texts `key=text` of pairs. -/
def Value.pairList (ps : List (String × String)) : Value :=
  .sequence (ps.map fun p => .string (p.1 ++ "=" ++ p.2))

/-- **The values that hold pairs of texts**: their mapping and their list. -/
inductive Value.HoldsPairs (ps : List (String × String)) : Value → Prop
  | mapping : HoldsPairs ps (pairMapping ps)
  | list : HoldsPairs ps (pairList ps)

/-- **Pairs that may be variables** in both spellings. -/
structure VariablePairs (ps : List (String × String)) : Prop where
  distinct : (ps.map Prod.fst).Nodup
  named : ∀ p ∈ ps, p.1 ≠ ""
  unsigned : ∀ p ∈ ps, '=' ∉ p.1.toList

/-- **Pairs that may be labels** in both spellings. The first of several under the same key counts
in both. -/
structure LabelPairs (ps : List (String × String)) : Prop where
  trimmed : ∀ p ∈ ps, Text.trim p.1 = p.1
  unsigned : ∀ p ∈ ps, '=' ∉ p.1.toList

/-- A text is cut behind its key. -/
theorem Text.cut_pair {key : String} (h : '=' ∉ key.toList) (text : String) :
    cut '=' (key ++ "=" ++ text) = some (key, text) := by
  have hchars : (key ++ "=" ++ text).toList = key.toList ++ '=' :: text.toList := by simp
  rw [cut, hchars, splitFirst_append h, Option.map_some]
  simp only [String.ofList_toList]

namespace Manifest

/-- **Variables are the same in both spellings**, in their order, and without a warning. -/
theorem environment_of_pairs {ps : List (String × String)} (h : VariablePairs ps) {v : Value}
    (hv : v.HoldsPairs ps) (service : String) :
    environment service v = .ok (⟨ps, h.distinct⟩, []) := by
  cases hv with
  | mapping =>
    exact environment_written (e := ⟨ps, h.distinct⟩) (List.forall_mem_map.2 h.named) service
  | list =>
    have hassigned (p : String × String) (hp : p ∈ ps) :
        assignment? (.string (p.1 ++ "=" ++ p.2)) = some p := by
      simp [assignment?, Value.asString?, Text.cut_pair (h.unsigned p hp), h.named p hp]
    have hpairs :
        (ps.map fun p => Value.string (p.1 ++ "=" ++ p.2)).filterMap assignment? = ps := by
      rw [List.filterMap_map]
      exact (List.filterMap_congr hassigned).trans List.filterMap_some
    rw [Value.pairList, environment, hpairs]
    exact congrArg (fun e => Except.ok (e, [])) (TextMap.ofList_entries ⟨ps, h.distinct⟩)

end Manifest

namespace Service

/-- The text of a label in a value of labels. -/
def labelIn? (key : String) : Value → Option String
  | .mapping labels => (Value.lookup key labels).bind labelText?
  | .sequence entries => listedLabel? key entries
  | _ => none

/-- A label is looked for in what stands under `labels`. -/
theorem label?_eq (s : Service) (key : String) :
    s.label? key = (Value.lookup "labels" s.extra).bind (labelIn? key) := by
  rw [label?]
  cases Value.lookup "labels" s.extra with
  | none => rfl
  | some v => cases v <;> rfl

/-- The first pair of a list is the label, or the label stands behind it. -/
theorem listedLabel?_cons_pair {name : String} (htrimmed : Text.trim name = name)
    (hunsigned : '=' ∉ name.toList) (text key : String) (entries : List Value) :
    listedLabel? key (.string (name ++ "=" ++ text) :: entries) =
      if name = key then some text else listedLabel? key entries := by
  have hcut := Text.cut_pair hunsigned text
  rw [listedLabel?, listedLabel?, List.findSome?_cons]
  simp only [Value.asString?, Option.bind_eq_bind, Option.bind_some, hcut, htrimmed]
  by_cases hkey : name = key
  · simp only [if_pos hkey]
  · simp only [if_neg hkey]

/-- **A label has the text of the first pair under its key**, in both spellings. -/
theorem labelIn?_of_pairs {ps : List (String × String)} (h : LabelPairs ps) {v : Value}
    (hv : v.HoldsPairs ps) (key : String) :
    labelIn? key v = Entries.find? Entries.sameText key ps := by
  cases hv with
  | mapping =>
    clear h
    rw [Value.pairMapping, labelIn?]
    induction ps with
    | nil => rfl
    | cons p ps ih =>
      rw [List.map_cons, Value.lookup, Entries.find?, Entries.find?]
      by_cases hkey : p.1 = key
      · rw [if_pos (Value.same_string_iff.2 (congrArg Value.string hkey)),
          if_pos (Entries.sameText_iff.2 hkey)]
        rfl
      · rw [if_neg fun h => hkey (Value.string.inj (Value.same_string_iff.1 h)),
          if_neg (mt Entries.sameText_iff.1 hkey)]
        exact ih
  | list =>
    obtain ⟨htrimmed, hunsigned⟩ := h
    rw [Value.pairList, labelIn?]
    induction ps with
    | nil => rfl
    | cons p ps ih =>
      rw [List.forall_mem_cons] at htrimmed hunsigned
      rw [List.map_cons, listedLabel?_cons_pair htrimmed.1 hunsigned.1,
        ih htrimmed.2 hunsigned.2, Entries.find?]
      simp only [Entries.sameText_iff]

end Service

/-! ## Other spellings -/

namespace Manifest

/-- Whether an entry that a service keeps is another one, or the same labels. -/
inductive RespelledKept : Value × Value → Value × Value → Prop
  | refl (e : Value × Value) : RespelledKept e e
  | labels {ps : List (String × String)} {v w : Value} : LabelPairs ps → v.HoldsPairs ps →
    w.HoldsPairs ps → RespelledKept (.string "labels", v) (.string "labels", w)

/-- **Whether an entry of a body is another one**, or the same labels or variables. -/
inductive RespelledEntry : Value × Value → Value × Value → Prop
  | kept {e f : Value × Value} : RespelledKept e f → RespelledEntry e f
  | environment {ps : List (String × String)} {key v w : Value} :
    key.asString? = some "environment" → VariablePairs ps → v.HoldsPairs ps → w.HoldsPairs ps →
    RespelledEntry (key, v) (key, w)

theorem RespelledKept.key {e f : Value × Value} (h : RespelledKept e f) : e.1 = f.1 := by
  cases h <;> rfl

/-- A key is not spelled in another way. -/
theorem RespelledEntry.key {e f : Value × Value} (h : RespelledEntry e f) : e.1 = f.1 := by
  cases h with
  | kept hkept => exact hkept.key
  | environment => rfl

theorem RespelledEntry.eq_or {e f : Value × Value} (h : RespelledEntry e f) :
    e = f ∨ e.1 = .string "labels" ∨ e.1.asString? = some "environment" := by
  cases h with
  | kept hkept =>
    cases hkept with
    | refl => exact .inl rfl
    | labels => exact .inr (.inl rfl)
  | environment hkey => exact .inr (.inr hkey)

/-- **Under the same keys, related values are found.** -/
theorem lookup_rel {T : Value × Value → Value × Value → Prop} (hT : ∀ {e f}, T e f → e.1 = f.1)
    {es fs : List (Value × Value)} (h : List.Forall₂ T es fs) (key : String) :
    Option.Rel (fun v w => T (.string key, v) (.string key, w)) (Value.lookup key es)
      (Value.lookup key fs) := by
  induction h with
  | nil => exact .none
  | @cons e f es fs hef _ ih =>
    obtain ⟨k, v⟩ := e
    obtain ⟨l, w⟩ := f
    obtain rfl : k = l := hT hef
    rw [Value.lookup, Value.lookup, Entries.find?, Entries.find?]
    by_cases hkey : k = .string key
    · subst hkey
      rw [if_pos (Value.same_string_iff.2 rfl), if_pos (Value.same_string_iff.2 rfl)]
      exact .some hef
    · rw [if_neg (mt Value.same_string_iff.1 hkey), if_neg (mt Value.same_string_iff.1 hkey)]
      exact ih

/-- **Entries stay related when related entries are put among them.** -/
theorem insert_respelled {es fs : List (Value × Value)} (h : List.Forall₂ RespelledKept es fs)
    {key v w : Value} (hvw : RespelledKept (key, v) (key, w)) :
    List.Forall₂ RespelledKept (Entries.insert Value.same key v es)
      (Entries.insert Value.same key w fs) := by
  induction h with
  | nil => exact .cons hvw .nil
  | @cons e f es fs hef hrest ih =>
    rw [Entries.insert, Entries.insert, ← hef.key]
    by_cases hsame : e.1.same key = true
    · rw [if_pos hsame, if_pos hsame]
      refine .cons ?_ hrest
      cases hvw with
      | refl => exact .refl _
      | labels hps hv hw =>
        rw [Value.same_string_iff.1 hsame]
        exact .labels hps hv hw
    · rw [if_neg hsame, if_neg hsame]
      refine .cons ?_ ih
      have heq : (e.1, f.2) = f := Prod.ext hef.key rfl
      rw [heq]
      exact hef

end Manifest

/-- **Whether a service is another one** but for the spelling of the labels that it keeps. -/
def Service.Respelled (s t : Service) : Prop :=
  ∃ extra, List.Forall₂ Manifest.RespelledKept s.extra extra ∧ { s with extra } = t

/-- **A label has the same text in every spelling.** -/
theorem Service.Respelled.label?_eq {s t : Service} (h : s.Respelled t) (key : String) :
    s.label? key = t.label? key := by
  obtain ⟨extra, hextra, rfl⟩ := h
  have hrel := Manifest.lookup_rel Manifest.RespelledKept.key hextra "labels"
  rw [Service.label?_eq, Service.label?_eq]
  generalize Value.lookup "labels" s.extra = v, Value.lookup "labels" extra = w at hrel ⊢
  cases hrel with
  | none => rfl
  | some hvw =>
    cases hvw with
    | refl => rfl
    | labels hps hv hw =>
      exact (labelIn?_of_pairs hps hv key).trans (labelIn?_of_pairs hps hw key).symm

namespace Manifest

open Outcome (Agree agree_self agree_bind_right)

/-! ## Bodies of services

Two bodies are read side by side, one setting after the other. Where one run fails so does the
other, with the same error, and else the drafts agree. -/

/-- Whether a setting is another one but for the spelling of the labels that it keeps. -/
inductive RespelledSetting : Setting → Setting → Prop
  | refl (s : Setting) : RespelledSetting s s
  | extra {key v w : Value} : RespelledKept (key, v) (key, w) →
    RespelledSetting (.extra key v) (.extra key w)

/-- Whether a draft is another one but for the spelling of the labels that it keeps. -/
def RespelledDraft (draft draft' : Draft) : Prop :=
  draft.1.Respelled draft'.1 ∧ draft.2 = draft'.2

/-- Both spellings of variables set the same environment. -/
theorem setting_of_pairs {service : String} {key v : Value} {ps : List (String × String)}
    (hkey : key.asString? = some "environment") (hps : VariablePairs ps) (hv : v.HoldsPairs ps) :
    setting service (key, v) = .ok (.environment ⟨ps, hps.distinct⟩ []) := by
  rw [setting, hkey]
  simp only [environment_of_pairs hps hv]
  rfl

/-- Entries that spell the same are read as settings that agree, or refused alike. -/
theorem setting_agree (service : String) {e f : Value × Value} (h : RespelledEntry e f) :
    Agree RespelledSetting (setting service e) (setting service f) := by
  cases h with
  | kept hkept =>
    cases hkept with
    | refl => exact agree_self .refl _
    | labels hps hv hw => exact .ok (.extra (.labels hps hv hw))
  | environment hkey hps hv hw =>
    rw [setting_of_pairs hkey hps hv, setting_of_pairs hkey hps hw]
    exact .ok (.refl _)

/-- The two lists of entries are refused at the same place. -/
theorem settings_agree (service : String) {es fs : List (Value × Value)}
    (h : List.Forall₂ RespelledEntry es fs) :
    Agree (List.Forall₂ RespelledSetting) (settings service es) (settings service fs) := by
  induction h with
  | nil => exact .ok .nil
  | cons hef _ ih =>
    rw [settings, settings]
    exact (setting_agree service hef).bind fun _ _ hst =>
      ih.bind fun _ _ hrest => .ok (.cons hst hrest)

theorem image_respelled (service : String) {es fs : List (Value × Value)}
    (h : List.Forall₂ RespelledEntry es fs) : image service es = image service fs := by
  have hrel := lookup_rel RespelledEntry.key h "image"
  rw [image, image]
  generalize Value.lookup "image" es = v, Value.lookup "image" fs = w at hrel ⊢
  cases hrel with
  | none => rfl
  | some hvw =>
    rcases hvw.eq_or with heq | hkey | hkey
    · obtain rfl := (Prod.mk.inj heq).2
      rfl
    · exact absurd (Value.string.inj hkey) (by decide)
    · exact absurd (Option.some.inj hkey) (by decide)

/-- Settings that agree are applied to drafts that agree. -/
theorem apply_respelled {draft draft' : Draft} (h : RespelledDraft draft draft') {s t : Setting}
    (hst : RespelledSetting s t) : RespelledDraft (draft.apply s) (draft'.apply t) := by
  obtain ⟨_, ws⟩ := draft
  obtain ⟨_, ws'⟩ := draft'
  obtain ⟨⟨extra, hextra, rfl⟩, rfl⟩ := h
  cases hst with
  | refl =>
    cases s with
    | extra key v => exact ⟨⟨_, insert_respelled hextra (.refl _), rfl⟩, rfl⟩
    | _ => exact ⟨⟨extra, hextra, rfl⟩, rfl⟩
  | extra hvw => exact ⟨⟨_, insert_respelled hextra hvw, rfl⟩, rfl⟩

/-- So are all settings of a body. -/
theorem foldl_apply_respelled {draft draft' : Draft} (h : RespelledDraft draft draft')
    {ss ts : List Setting} (hss : List.Forall₂ RespelledSetting ss ts) :
    RespelledDraft (ss.foldl Draft.apply draft) (ts.foldl Draft.apply draft') := by
  induction hss generalizing draft draft' with
  | nil => exact h
  | cons hst _ ih => exact ih (apply_respelled h hst)

/-- The label that names a fragment is answered alike. -/
theorem withLabelledFragment_respelled {s t : Service} (h : s.Respelled t) :
    (withLabelledFragment s).Respelled (withLabelledFragment t) := by
  have hlabel := h.label?_eq Service.subdomainLabel
  obtain ⟨extra, hextra, rfl⟩ := h
  refine ⟨extra, hextra, ?_⟩
  rw [withLabelledFragment, withLabelledFragment, hlabel]

/-- A body and its other spelling have related entries, or neither is a body. -/
theorem bodyEntries_agree (service : String)
    {R : List (Value × Value) → List (Value × Value) → Prop} (hR : ∀ es, R es es)
    {body other : Value} (h : body.Altered R other) :
    Agree R (bodyEntries service body) (bodyEntries service other) := by
  cases h with
  | refl => exact agree_self hR _
  | mapping hes => exact .ok hes
  | tagged _ => exact .error _

theorem forall₂_respelledEntry_refl (es : List (Value × Value)) :
    List.Forall₂ RespelledEntry es es :=
  List.forall₂_same.2 fun e _ => .kept (.refl e)

/-- **A body in another spelling is read as the same service** with the same warnings, but for the
labels that it keeps, or fails with the same error. -/
theorem service_agree (name : String) {body other : Value}
    (h : body.Altered (List.Forall₂ RespelledEntry) other) :
    Agree RespelledDraft (service name body) (service name other) := by
  rw [service, service]
  refine (bodyEntries_agree name forall₂_respelledEntry_refl h).bind fun es fs hes => ?_
  rw [image_respelled name hes]
  refine agree_bind_right fun image => (settings_agree name hes).bind fun ss ts hss => .ok ?_
  have hstart : RespelledDraft ({ name, image }, []) ({ name, image }, []) := ⟨⟨[], .nil, rfl⟩, rfl⟩
  have hdraft := foldl_apply_respelled hstart hss
  exact ⟨withLabelledFragment_respelled hdraft.1, hdraft.2⟩

end Manifest

/-! ## Documents

Every step of reading a document takes related parts to agreeing results, so the whole does. -/

/-- **Whether a document is another one** but for the spelling of the labels that its services
keep. -/
def Document.Respelled (d d' : Document) : Prop :=
  ∃ services, List.Forall₂ (fun s t => s.1 = t.1 ∧ s.2.Respelled t.2) d.services services ∧
    { d with services } = d'

theorem Document.Respelled.refl (d : Document) : d.Respelled d :=
  ⟨d.services, List.forall₂_same.2 fun s _ =>
    ⟨rfl, s.2.extra, List.forall₂_same.2 fun e _ => .refl e, rfl⟩, rfl⟩

namespace CompileError

open Outcome (Agree)

/-- Runs that agree do so under any name of their errors. -/
theorem ofSchema_agree {α β : Type} {T : α → β → Prop} {x : Except SchemaError α}
    {y : Except SchemaError β} (h : Agree T x y) : Agree T (ofSchema x) (ofSchema y) := by
  cases h with
  | error e => exact .error _
  | ok hab => exact .ok hab

theorem ofViolation_agree {α β : Type} {T : α → β → Prop} {x : Except Violation α}
    {y : Except Violation β} (h : Agree T x y) : Agree T (ofViolation x) (ofViolation y) := by
  cases h with
  | error e => exact .error _
  | ok hab => exact .ok hab

end CompileError

open Outcome (Agree agree_self agree_bind_right)

/-- Both documents have the same names. -/
theorem Document.has_of_respelled {es fs : List (String × Service)}
    (h : List.Forall₂ (fun s t => s.1 = t.1 ∧ s.2.Respelled t.2) es fs) {name : String} :
    Entries.has Entries.sameText name fs = Entries.has Entries.sameText name es := by
  rw [Entries.has, Entries.has]
  induction h with
  | nil => rfl
  | cons hef _ ih => rw [List.any_cons, List.any_cons, ih, hef.1]

/-- A service is refused in both documents or added to both. -/
theorem Document.add_agree {d d' : Document} (h : d.Respelled d') {s t : Service}
    (hst : s.Respelled t) : Agree Document.Respelled (d.add s) (d'.add t) := by
  obtain ⟨services, hservices, rfl⟩ := h
  have hname : t.name = s.name := by
    obtain ⟨extra, -, rfl⟩ := hst
    rfl
  rw [add, add, hname, has_of_respelled hservices]
  by_cases htaken : Entries.has Entries.sameText s.name d.services = true
  · rw [if_pos htaken, if_pos htaken]
    exact .error _
  · rw [if_neg htaken, if_neg htaken]
    exact .ok ⟨services ++ [(s.name, t)], List.rel_append hservices (.cons ⟨rfl, hst⟩ .nil), rfl⟩

namespace Manifest

/-- The documents agree after each service, which is the invariant of the two runs. -/
theorem addServices_agree {d d' : Document} (h : d.Respelled d') {es fs : List (Value × Value)}
    (hes : AlteredServices (List.Forall₂ RespelledEntry) es fs) :
    Agree Document.Respelled (addServices d es) (addServices d' fs) := by
  induction hes generalizing d d' with
  | nil => exact .ok h
  | @cons e f es fs hef _ ih =>
    obtain ⟨key, body⟩ := e
    obtain ⟨other, body'⟩ := f
    obtain ⟨rfl, hbody⟩ : key = other ∧ _ := hef
    rw [addServices, addServices]
    refine agree_bind_right fun name => ?_
    have hservice := CompileError.ofSchema_agree (service_agree name hbody)
    refine hservice.bind fun draft draft' hdraft => ?_
    refine (CompileError.ofViolation_agree (Document.add_agree ?_ hdraft.1)).bind
      fun _ _ hd => ih hd
    obtain ⟨services, hservices, rfl⟩ := h
    exact ⟨services, hservices, by rw [hdraft.2]⟩

/-- Volumes are declared in both documents, or refused in both. -/
theorem declareAll_agree {d d' : Document} (h : d.Respelled d') (vols : List (Value × Value)) :
    Agree Document.Respelled (declareAll d vols) (declareAll d' vols) := by
  induction vols generalizing d d' with
  | nil => exact .ok h
  | cons e vols ih =>
    rw [declareAll, declareAll]
    cases e.1.scalarText? with
    | none => exact .error _
    | some name =>
      obtain ⟨services, hservices, rfl⟩ := h
      exact ih ⟨services, hservices, rfl⟩

theorem declareVolumes_agree {d d' : Document} (h : d.Respelled d') (v : Value) :
    Agree Document.Respelled (declareVolumes d v) (declareVolumes d' v) := by
  cases v with
  | null => exact .ok h
  | mapping vols => exact declareAll_agree h vols
  | _ => exact .error _

/-- What stands beside the services is spelled in one way only. -/
theorem addRest_agree {d d' : Document} (h : d.Respelled d') {root other : List (Value × Value)}
    (hroot : List.Forall₂ (AlteredPart (List.Forall₂ RespelledEntry)) root other) :
    Agree Document.Respelled (addRest d root) (addRest d' other) := by
  induction hroot generalizing d d' with
  | nil => exact .ok h
  | @cons e f es fs hef _ ih =>
    rcases hef.eq_or with rfl | ⟨he, hf⟩
    · by_cases hservices : e.1.asString? = some "services"
      · rw [addRest, addRest, hservices]
        exact ih h
      by_cases hvolumes : e.1.asString? = some "volumes"
      · rw [addRest, addRest, hvolumes]
        exact (declareVolumes_agree h e.2).bind fun _ _ hd => ih hd
      · rw [addRest_extension hservices hvolumes, addRest_extension hservices hvolumes,
          withEntry_extension hservices hvolumes, withEntry_extension hservices hvolumes]
        obtain ⟨services, hrest, rfl⟩ := h
        exact ih ⟨services, hrest, rfl⟩
    · rw [addRest, addRest, he, hf]
      exact ih h

/-- The services of both manifests stand in their order. -/
theorem servicesOf_agree {root other : List (Value × Value)}
    (h : List.Forall₂ (AlteredPart (List.Forall₂ RespelledEntry)) root other) :
    Agree (AlteredServices (List.Forall₂ RespelledEntry)) (servicesOf root)
      (servicesOf other) := by
  have hrel := lookup_rel AlteredPart.key h "services"
  rw [servicesOf, servicesOf]
  generalize Value.lookup "services" root = v, Value.lookup "services" other = w at hrel ⊢
  cases hrel with
  | none => exact .error _
  | some hvw =>
    cases hvw with
    | refl => exact agree_self .refl _
    | services hservices =>
      cases hservices with
      | refl => exact agree_self .refl _
      | mapping hes => exact .ok hes
      | tagged _ => exact .error _

end Manifest

/-- Whether a manifest is another one but for the spelling of variables and labels. -/
def Value.Respelled : Value → Value → Prop :=
  Value.Altered (List.Forall₂ (Manifest.AlteredPart (List.Forall₂ Manifest.RespelledEntry)))

/-- **A manifest in another spelling is read as the same document** but for the labels that it
keeps, or fails with the same error. -/
theorem Document.ofValue_agree {v w : Value} (h : v.Respelled w) :
    Agree Document.Respelled (ofValue v) (ofValue w) := by
  have hroot : Agree (List.Forall₂ (Manifest.AlteredPart (List.Forall₂ Manifest.RespelledEntry)))
      (v.asMapping?.elim (throw .notMapping) pure : Except SchemaError _)
      (w.asMapping?.elim (throw .notMapping) pure) := by
    induction h with
    | refl v => exact agree_self (fun es => List.forall₂_same.2 fun e _ => .refl e) _
    | mapping hes => exact .ok hes
    | tagged _ ih => exact ih
  rw [ofValue, ofValue]
  refine (CompileError.ofSchema_agree hroot).bind fun root other hroot => ?_
  refine (CompileError.ofSchema_agree (Manifest.servicesOf_agree hroot)).bind fun es fs hes => ?_
  refine (Manifest.addServices_agree (.refl {}) hes).bind fun d d' hd => ?_
  exact CompileError.ofSchema_agree (Manifest.addRest_agree hd hroot)

end Deployment
