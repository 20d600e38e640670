import Mathlib.Data.List.Perm.Basic
import Deployment.Proofs.Manifest.Altered
import Deployment.Proofs.Manifest.Service

/-!
# Proofs/Manifest/Order — the order of keys does not matter

In a reordered manifest the entries of the manifest and those in each body stand in another order;
the services, and all that is inside an entry of a body, stay as they are (`Value.Reordered`).  It
is read if and only if the manifest is, and as the same document but for the order of what is kept
and of the warnings about each service (`Document.ofValue_reordered`).  Keys are different, so each
field has one value at most, and it is found wherever it stands (`fieldValues_of_perm`).
-/

namespace Deployment

/-! ## Fields

Where keys differ a look-up does not depend on the order. A field that stands there once, behind a
tag or not, is read alike in any order. -/

namespace Value

/-- **Among different keys, what stands under a text is found**, wherever it stands. -/
theorem lookup_eq_some_iff {es : List (Value × Value)} (h : Entries.Apart same es) {key : String}
    {v : Value} : lookup key es = some v ↔ (string key, v) ∈ es := by
  induction es with
  | nil => simp [lookup, Entries.find?]
  | cons e es ih =>
    rw [Entries.apart_cons_iff] at h
    rw [lookup, Entries.find?, List.mem_cons]
    by_cases hkey : e.1 = string key
    · have hnew : (string key, v) ∉ es := fun hmem => by
        have hapart := h.1 _ hmem
        rw [same_string_iff.2 hkey] at hapart
        cases hapart
      rw [if_pos (same_string_iff.2 hkey), or_iff_left hnew, Option.some.injEq, ← hkey]
      exact ⟨fun hv => hv ▸ rfl, fun hv => (congrArg Prod.snd hv).symm⟩
    · have hne : (string key, v) ≠ e := fun heq => hkey (congrArg Prod.fst heq).symm
      rw [if_neg (mt same_string_iff.1 hkey), or_iff_right hne]
      exact ih h.2

/-- Different keys are found in any order. -/
theorem lookup_of_perm {es fs : List (Value × Value)} (h : es.Perm fs)
    (hes : Entries.Apart same es) (hfs : Entries.Apart same fs) (key : String) :
    lookup key es = lookup key fs :=
  Option.ext fun v => by rw [lookup_eq_some_iff hes, lookup_eq_some_iff hfs, h.mem_iff]

/-- A key that spells a name is the name, unless it spells one under a tag. -/
theorem eq_string_of_spells {names : List String} {key : Value} {name : String}
    (hplain : key.spells names = true → key.isOneOf names = true) (hname : name ∈ names)
    (hkey : key.asString? = some name) : key = string name := by
  obtain ⟨other, -, rfl⟩ := isOneOf_iff.1 (hplain (spells_iff.2 ⟨name, hname, hkey⟩))
  exact congrArg string (Option.some.inj hkey)

/-- A key without a tag that reads as a name is the name. -/
theorem isOneOf_of_spells {names : List String} {key : Value} (hkey : key.untagged = key)
    (h : key.spells names = true) : key.isOneOf names = true := by
  obtain ⟨name, hname, htext⟩ := spells_iff.1 h
  rw [asString?_eq_some_iff, hkey] at htext
  exact isOneOf_iff.2 ⟨name, hname, htext⟩

end Value

namespace Manifest

/-- Keys without tags spell nothing under one. -/
theorem plain_of_untagged {root services : List (Value × Value)}
    (hroot : ∀ e ∈ root, e.1.untagged = e.1)
    (hbodies : ∀ e ∈ services, ∀ f ∈ entriesOf e.2, f.1.untagged = f.1) : Plain root services where
  root e he := Value.isOneOf_of_spells (hroot e he)
  bodies e he f hf := Value.isOneOf_of_spells (hbodies e he f hf)

/-- **A field has one value at most**, if no key under a tag spells it. -/
theorem length_fieldValues_le_one {field : String} {es : List (Value × Value)}
    (h : Entries.Apart Value.same es)
    (hplain : ∀ e ∈ es, e.1.asString? = some field → e.1 = .string field) :
    (fieldValues field es).length ≤ 1 := by
  induction es with
  | nil => exact Nat.zero_le 1
  | cons e es ih =>
    rw [Entries.apart_cons_iff] at h
    rw [List.forall_mem_cons] at hplain
    rw [fieldValues, List.filterMap_cons]
    by_cases hkey : e.1.asString? = some field
    · have hrest : fieldValues field es = [] := List.filterMap_eq_nil_iff.2 fun f hf =>
        if_neg fun hfield => by
          have hapart := h.1 f hf
          rw [hplain.1 hkey, hplain.2 f hf hfield, Value.string_same_iff.2 rfl] at hapart
          cases hapart
      rw [fieldValues] at hrest
      simp only [if_pos hkey, hrest, List.length_singleton, Nat.le_refl]
    · simp only [if_neg hkey]
      exact ih h.2 hplain.2

/-- One element can only be in one order. -/
theorem eq_of_perm_of_length_le_one {α : Type} {as bs : List α} (h : as.Perm bs)
    (has : as.length ≤ 1) : as = bs := by
  match as, has with
  | [], _ => exact h.nil_eq
  | [_], _ => exact h.singleton_eq

/-- A field that stands there once has the same value in any order. -/
theorem fieldValues_of_perm {field : String} {es fs : List (Value × Value)} (h : es.Perm fs)
    (hes : (fieldValues field es).length ≤ 1) : fieldValues field es = fieldValues field fs :=
  eq_of_perm_of_length_le_one (h.filterMap _) hes

/-! ## Reorderings -/

/-- **Whether a manifest has the entries of another one**, in any order, and the entries in each
body in any order as well. -/
def ReorderedRoot (root other : List (Value × Value)) : Prop :=
  ∃ parts, List.Forall₂ (AlteredPart List.Perm) root parts ∧ parts.Perm other

theorem ReorderedRoot.refl (root : List (Value × Value)) : ReorderedRoot root root :=
  ⟨root, List.forall₂_same.2 fun e _ => .refl e, .refl root⟩

theorem ReorderedRoot.symm {root other : List (Value × Value)} (h : ReorderedRoot root other) :
    ReorderedRoot other root := by
  obtain ⟨parts, hparts, hperm⟩ := h
  obtain ⟨others, hothers, hroot⟩ := List.perm_comp_forall₂ hperm.symm
    (hparts.flip.imp fun _ _ hef => hef.symm fun _ _ => List.Perm.symm)
  exact ⟨others, hothers, hroot⟩

end Manifest

/-- Whether a value is a manifest with its entries, and those in each body, in another order. -/
def Value.Reordered : Value → Value → Prop := Value.Altered Manifest.ReorderedRoot

namespace Manifest

/-! ## What stays the same -/

/-- The services are found in both, in the same order and with reordered bodies. -/
theorem ReorderedRoot.lookup_services {root other : List (Value × Value)}
    (h : ReorderedRoot root other) (hroot : Entries.Apart Value.same root)
    (hother : Entries.Apart Value.same other) {services : List (Value × Value)}
    (hlookup : Value.lookup "services" root = some (.mapping services)) :
    ∃ others, Value.lookup "services" other = some (.mapping others) ∧
      AlteredServices List.Perm services others := by
  obtain ⟨parts, hparts, hperm⟩ := h
  obtain ⟨f, hf, hpart⟩ := Outcome.exists_of_forall₂_of_mem hparts.flip
    ((Value.lookup_eq_some_iff hroot).1 hlookup)
  cases hpart with
  | refl =>
    exact ⟨services, (Value.lookup_eq_some_iff hother).2 (hperm.mem_iff.1 hf), .refl services⟩
  | services haltered =>
    obtain ⟨others, rfl, hservices⟩ := haltered.exists_eq_mapping AlteredServices.refl
    exact ⟨others, (Value.lookup_eq_some_iff hother).2 (hperm.mem_iff.1 hf), hservices⟩

/-- **What is taken from the entries beside the services is the same**, in some order. -/
theorem ReorderedRoot.filterMap {root other : List (Value × Value)} (h : ReorderedRoot root other)
    {β : Type} {f : Value × Value → Option β} (hf : ∀ e, e.1 = .string "services" → f e = none) :
    (root.filterMap f).Perm (other.filterMap f) := by
  obtain ⟨parts, hparts, hperm⟩ := h
  have heq : root.filterMap f = parts.filterMap f :=
    Outcome.filterMap_eq_of_forall₂ hparts fun d e hde => by
      rcases hde.eq_or with rfl | ⟨hd, he⟩
      · rfl
      · rw [hf d hd, hf e he]
  rw [heq]
  exact hperm.filterMap f

/-- Entries without a meaning are the same up to their order. -/
theorem ReorderedRoot.others {root other : List (Value × Value)} (h : ReorderedRoot root other) :
    (others (Value.spells rootKeys) root).Perm (Manifest.others (Value.spells rootKeys) other) := by
  have hperm := h.filterMap (f := Option.guard fun e => !e.1.spells rootKeys) fun e he =>
    Option.guard_eq_none_iff.2 (by rw [he]; rfl)
  rwa [List.filterMap_eq_filter] at hperm

/-- Declared volumes are read alike. -/
theorem ReorderedRoot.fieldValues_volumes {root other : List (Value × Value)}
    (h : ReorderedRoot root other) (hle : (fieldValues "volumes" root).length ≤ 1) :
    fieldValues "volumes" root = fieldValues "volumes" other :=
  eq_of_perm_of_length_le_one (h.filterMap fun e he => by rw [he]; rfl) hle

theorem ReorderedRoot.mem {root other : List (Value × Value)} (h : ReorderedRoot root other)
    {f : Value × Value} (hf : f ∈ other) (hkey : f.1 ≠ .string "services") : f ∈ root := by
  obtain ⟨parts, hparts, hperm⟩ := h
  obtain ⟨e, he, hpart⟩ := Outcome.exists_of_forall₂_of_mem hparts (hperm.mem_iff.2 hf)
  rcases hpart.eq_or with rfl | ⟨-, hservices⟩
  · exact he
  · exact absurd hservices hkey

/-! ## Acceptance

A manifest is accepted by its rules, and no rule mentions the order of keys. So reordering is
compared on the rules and not on the run. -/

/-- The keys in each body of a manifest are different. -/
theorem keysApart_body {root services : List (Value × Value)}
    (hroot : (Value.mapping root).KeysApart)
    (hlookup : Value.lookup "services" root = some (.mapping services)) :
    ∀ e ∈ services, e.2.KeysApart := by
  have hparts := Value.keysApart_mapping_iff.1 hroot
  have hservices := (hparts.2 _ ((Value.lookup_eq_some_iff hparts.1).1 hlookup)).2
  exact fun e he => ((Value.keysApart_mapping_iff.1 hservices).2 e he).2

theorem IsBody.reordered {body other : Value} (h : IsBody body)
    (hreordered : body.Altered List.Perm other) (hbody : body.KeysApart)
    (hother : other.KeysApart) : IsBody other := by
  obtain ⟨es, hes, himage, hsettings⟩ := h
  obtain ⟨fs, hfs, hperm⟩ := hasEntries_of_altered hreordered List.Perm.refl hes
  refine ⟨fs, hfs, fun v hv => himage v ?_, fun f hf => hsettings f (hperm.mem_iff.2 hf)⟩
  rwa [Value.lookup_of_perm hperm (hes.apart hbody) (hfs.apart hother)]

/-- The names of services are those of their keys, and these stay. -/
theorem forall₂_names_of_reordered {services others : List (Value × Value)}
    (h : AlteredServices List.Perm services others) {names : List String}
    (hnames : List.Forall₂ (fun e name => Names e.1 name) services names) :
    List.Forall₂ (fun e name => Names e.1 name) others names := by
  induction h generalizing names with
  | nil => exact hnames
  | @cons e f es fs hef _ ih =>
    obtain ⟨name, rest, hname, hrest, rfl⟩ := List.forall₂_cons_left_iff.1 hnames
    exact .cons (hef.1 ▸ hname) (ih hrest)

end Manifest

/-- **A reordered manifest is one.** -/
theorem Value.IsManifest.reordered {v w : Value} (h : v.IsManifest) (hreordered : v.Reordered w)
    (hv : v.KeysApart) (hw : w.KeysApart) : w.IsManifest := by
  obtain ⟨root, services, hroot, hlookup, ⟨names, hnames, hnodup⟩, hbodies, hvolumes⟩ := h
  obtain ⟨other, hother, hentries⟩ := hreordered.untagged Manifest.ReorderedRoot.refl hroot
  have hrootKeys : (Value.mapping root).KeysApart := hroot ▸ hv.untagged
  have hotherKeys : (Value.mapping other).KeysApart := hother ▸ hw.untagged
  obtain ⟨others, hothers, hservices⟩ := hentries.lookup_services
    (keysApart_mapping_iff.1 hrootKeys).1 (keysApart_mapping_iff.1 hotherKeys).1 hlookup
  refine ⟨other, others, hother, hothers,
    ⟨names, Manifest.forall₂_names_of_reordered hservices hnames, hnodup⟩, fun f hf => ?_,
    fun f hf hkey => hvolumes f (hentries.mem hf fun heq => ?_) hkey⟩
  · obtain ⟨e, he, -, hbody⟩ := Outcome.exists_of_forall₂_of_mem hservices hf
    exact (hbodies e he).reordered hbody (Manifest.keysApart_body hrootKeys hlookup e he)
      (Manifest.keysApart_body hotherKeys hothers f hf)
  · rw [heq] at hkey
    exact absurd (Value.string.inj hkey) (by decide)

/-! ## Documents

What was accepted is one closed form of the entries. Each of its parts is the same, or a
permutation, when the entries are reordered. -/

/-- **Whether a service is another one but for the order of its other keys.** -/
def Service.Reordered (s t : Service) : Prop := ∃ extra, s.extra.Perm extra ∧ { s with extra } = t

/-- **Whether a document is another one but for the order** of the extensions, of the other keys of
each service, and of the warnings about each service. -/
structure Document.Reordered (d d' : Document) : Prop where
  services : List.Forall₂ (fun s t => s.1 = t.1 ∧ s.2.Reordered t.2) d.services d'.services
  volumes : d.volumes = d'.volumes
  extensions : d.extensions.Perm d'.extensions
  /-- Warnings stand service by service, as many about each. -/
  warnings : ∃ ws ws' : List (List Warning), d.warnings = ws.flatten ∧ d'.warnings = ws'.flatten ∧
    List.Forall₂ (fun s own => ∀ w ∈ own, w.service = s.1) d.services ws ∧
    List.Forall₂ List.Perm ws ws'

/-- A label is found in any order, so the fragment that it names is the same. -/
theorem Service.Reordered.labelled {s t : Service} (h : s.Reordered t)
    (hs : Entries.Apart Value.same s.extra) (ht : Entries.Apart Value.same t.extra) :
    (Manifest.withLabelledFragment s).Reordered (Manifest.withLabelledFragment t) := by
  obtain ⟨extra, hperm, rfl⟩ := h
  refine ⟨extra, hperm, ?_⟩
  have hlabel : s.label? subdomainLabel = { s with extra }.label? subdomainLabel := by
    rw [label?, label?, Value.lookup_of_perm hperm hs ht]
  rw [Manifest.withLabelledFragment, Manifest.withLabelledFragment, hlabel]

namespace Manifest

/-- The settings of a service are the same, and its other entries are up to their order. -/
theorem withEntries_reordered {s : Service} (hs : s.extra = []) {es fs : List (Value × Value)}
    (h : es.Perm fs) (hes : Entries.Apart Value.same es) (hfs : Entries.Apart Value.same fs)
    (hplain : ∀ e ∈ es, e.1.spells settingKeys = true → e.1.isOneOf settingKeys = true) :
    (withEntries s es).Reordered (withEntries s fs) := by
  have hvalues (field : String) (hfield : field ∈ settingKeys) :
      fieldValues field es = fieldValues field fs :=
    fieldValues_of_perm h (length_fieldValues_le_one hes fun e he =>
      Value.eq_string_of_spells (hplain e he) hfield)
  refine ⟨(withEntries s fs).extra, ?_, ?_⟩
  · rw [extra_withEntries s hes hs, extra_withEntries s hfs hs]
    exact h.filter _
  · simp only [withEntries, latest, hvalues "ports" (by decide), hvalues "environment" (by decide),
      hvalues "volumes" (by decide), hvalues "x-subdomain" (by decide),
      hvalues "x-registry" (by decide)]

theorem names_unique {key : Value} {name other : String} (h : Names key name)
    (hother : Names key other) : name = other :=
  Except.ok.inj ((serviceName_eq_ok_iff.2 h).symm.trans (serviceName_eq_ok_iff.2 hother))

/-- Whether a draft is another one but for the order of what is kept and of the warnings. -/
def ReorderedDraft (draft draft' : Draft) : Prop :=
  draft.1.name = draft'.1.name ∧ draft.1.Reordered draft'.1 ∧ draft.2.Perm draft'.2

/-- **A body is read as the same service**, and the warnings are the same in some order. -/
theorem draft_reordered {e f : Value × Value} {draft draft' : Draft} (h : Reads e draft)
    (h' : Reads f draft') (hkey : e.1 = f.1) (hbody : e.2.Altered List.Perm f.2)
    (he : e.2.KeysApart) (hf : f.2.KeysApart)
    (hplain : ∀ g ∈ entriesOf e.2, g.1.spells settingKeys = true →
      g.1.isOneOf settingKeys = true) :
    ReorderedDraft draft draft' := by
  obtain ⟨es, image, hes, himage, -, hdraft⟩ := service_eq_ok_iff_entries.1 h.2
  obtain ⟨fs, image', hfs, himage', -, hdraft'⟩ := service_eq_ok_iff_entries.1 h'.2
  have hname : draft.1.name = draft'.1.name := names_unique h.1 (hkey ▸ h'.1)
  have hperm : es.Perm fs :=
    hes.entriesOf_eq ▸ hfs.entriesOf_eq ▸ entriesOf_of_altered hbody List.Perm.refl
  have hesApart := hes.apart he
  have hfsApart := hfs.apart hf
  rw [hes.entriesOf_eq] at hplain
  have hsame : image = image' := by
    rw [Manifest.image, Value.lookup_of_perm hperm hesApart hfsApart] at himage
    rw [← hname] at himage'
    exact Except.ok.inj (himage.symm.trans himage')
  rw [← hname, ← hsame] at hdraft'
  refine ⟨hname, ?_, ?_⟩
  · rw [← hdraft, ← hdraft']
    refine (withEntries_reordered rfl hperm hesApart hfsApart hplain).labelled ?_ ?_
    · rw [extra_withEntries _ hesApart rfl]
      exact apart_others hesApart
    · rw [extra_withEntries _ hfsApart rfl]
      exact apart_others hfsApart
  · rw [← hdraft, ← hdraft']
    exact hperm.flatMap_right _

theorem drafts_reordered {services others : List (Value × Value)}
    (h : AlteredServices List.Perm services others) {drafts drafts' : List Draft}
    (hreads : List.Forall₂ Reads services drafts) (hreads' : List.Forall₂ Reads others drafts')
    (hservices : ∀ e ∈ services, e.2.KeysApart) (hothers : ∀ f ∈ others, f.2.KeysApart)
    (hplain : ∀ e ∈ services, ∀ g ∈ entriesOf e.2,
      g.1.spells settingKeys = true → g.1.isOneOf settingKeys = true) :
    List.Forall₂ ReorderedDraft drafts drafts' := by
  induction h generalizing drafts drafts' with
  | nil =>
    rw [List.forall₂_nil_left_iff.1 hreads, List.forall₂_nil_left_iff.1 hreads']
    exact .nil
  | cons hef _ ih =>
    obtain ⟨draft, rest, hdraft, hrest, rfl⟩ := List.forall₂_cons_left_iff.1 hreads
    obtain ⟨draft', rest', hdraft', hrest', rfl⟩ := List.forall₂_cons_left_iff.1 hreads'
    rw [List.forall_mem_cons] at hservices hothers hplain
    exact .cons (draft_reordered hdraft hdraft' hef.1 hef.2 hservices.1 hothers.1 hplain.1)
      (ih hrest hrest' hservices.2 hothers.2 hplain.2)

theorem volumes_withEntry (d : Document) (e : Value × Value) :
    (withEntry d e).volumes =
      if e.1.asString? = some "volumes" then (volumeNames e.2).foldl NameSet.insert d.volumes
      else d.volumes := by
  rw [withEntry]
  split
  case h_1 hkey => rw [hkey]; rfl
  case h_2 hkey => rw [hkey, declaring_eq]; rfl
  case h_3 _ hvolumes => rw [if_neg hvolumes]

/-- **The volumes of a document are declared by the values under their key.** -/
theorem volumes_foldl_withEntry (d : Document) (es : List (Value × Value)) :
    (es.foldl withEntry d).volumes =
      (fieldValues "volumes" es).foldl (fun names v => (volumeNames v).foldl NameSet.insert names)
        d.volumes := by
  induction es generalizing d with
  | nil => rfl
  | cons e es ih =>
    rw [List.foldl_cons, ih, volumes_withEntry, fieldValues, fieldValues, List.filterMap_cons]
    by_cases hkey : e.1.asString? = some "volumes"
    · simp only [if_pos hkey, List.foldl_cons]
    · simp only [if_neg hkey]

/-- The document of drafts and of the entries beside them. -/
def ofDrafts (drafts : List Draft) (root : List (Value × Value)) : Document :=
  root.foldl withEntry (withDrafts {} drafts)

/-- The services of a document are those that were read. -/
theorem services_ofDrafts (drafts : List Draft) (root : List (Value × Value)) :
    (ofDrafts drafts root).services = drafts.map fun draft => (draft.1.name, draft.1) := by
  rw [ofDrafts, services_foldl_withEntry, withDrafts]
  exact List.nil_append _

theorem warnings_ofDrafts (drafts : List Draft) (root : List (Value × Value)) :
    (ofDrafts drafts root).warnings = (drafts.map Prod.snd).flatten := by
  rw [ofDrafts, warnings_foldl_withEntry, ← List.flatMap_def]
  exact List.nil_append _

/-- Different keys stay, each with its value. -/
theorem extensions_ofDrafts {drafts : List Draft} {root : List (Value × Value)}
    (h : Entries.Apart Value.same root) :
    (ofDrafts drafts root).extensions = others (Value.spells rootKeys) root := by
  rw [ofDrafts, extensions_foldl_withEntry]
  exact Entries.foldl_insert (apart_others h) (List.forall_mem_nil _)

theorem volumes_ofDrafts (drafts : List Draft) (root : List (Value × Value)) :
    (ofDrafts drafts root).volumes =
      (fieldValues "volumes" root).foldl
        (fun names v => (volumeNames v).foldl NameSet.insert names) {} :=
  volumes_foldl_withEntry _ root

/-- Two closed forms are compared part by part. -/
theorem ofDrafts_reordered {root other : List (Value × Value)} (h : ReorderedRoot root other)
    (hroot : Entries.Apart Value.same root) (hother : Entries.Apart Value.same other)
    (hplain : ∀ e ∈ root, e.1.spells rootKeys = true → e.1.isOneOf rootKeys = true)
    {drafts drafts' : List Draft} (hdrafts : List.Forall₂ ReorderedDraft drafts drafts')
    (hown : ∀ draft ∈ drafts, ∀ w ∈ draft.2, w.service = draft.1.name) :
    (ofDrafts drafts root).Reordered (ofDrafts drafts' other) := by
  refine ⟨?_, ?_, ?_, drafts.map Prod.snd, drafts'.map Prod.snd, warnings_ofDrafts drafts root,
    warnings_ofDrafts drafts' other, ?_, ?_⟩
  · rw [services_ofDrafts, services_ofDrafts, List.forall₂_map_left_iff, List.forall₂_map_right_iff]
    exact hdrafts.imp fun _ _ hdraft => ⟨hdraft.1, hdraft.2.1⟩
  · rw [volumes_ofDrafts, volumes_ofDrafts, h.fieldValues_volumes]
    exact length_fieldValues_le_one hroot fun e he =>
      Value.eq_string_of_spells (hplain e he) (by decide)
  · rw [extensions_ofDrafts hroot, extensions_ofDrafts hother]
    exact h.others
  · rw [services_ofDrafts, List.forall₂_map_left_iff, List.forall₂_map_right_iff]
    exact List.forall₂_same.2 hown
  · rw [List.forall₂_map_left_iff, List.forall₂_map_right_iff]
    exact hdrafts.imp fun _ _ hdraft => hdraft.2.2

end Manifest

namespace Document

/-- **The order of keys does not matter**: a manifest is read if and only if it is read reordered,
and as the same document but for the order, unless a key under a tag spells a name that has a
meaning. -/
theorem ofValue_reordered {v w : Value} (h : v.Reordered w) (hv : v.KeysApart) (hw : w.KeysApart) :
    ((∃ d, ofValue v = .ok d) ↔ ∃ d, ofValue w = .ok d) ∧
      ∀ root services, v.untagged = .mapping root →
        Value.lookup "services" root = some (.mapping services) → Manifest.Plain root services →
        ∀ d d', ofValue v = .ok d → ofValue w = .ok d' → d.Reordered d' := by
  refine ⟨?_, fun root services hroot hlookup hplain d d' hd hd' => ?_⟩
  · rw [exists_ofValue_iff, exists_ofValue_iff]
    have hback : w.Reordered v := h.symm fun _ _ => Manifest.ReorderedRoot.symm
    exact ⟨fun hread => hread.reordered h hv hw, fun hread => hread.reordered hback hw hv⟩
  obtain ⟨root', services', drafts, hroot', hlookup', hreads, -, -, rfl⟩ := ofValue_eq_ok_iff.1 hd
  obtain rfl := Value.mapping.inj (hroot.symm.trans hroot')
  obtain rfl := Value.mapping.inj (Option.some.inj (hlookup.symm.trans hlookup'))
  obtain ⟨other, others, drafts', hother, hothers, hreads', -, -, rfl⟩ := ofValue_eq_ok_iff.1 hd'
  obtain ⟨other', hother', hentries⟩ := h.untagged Manifest.ReorderedRoot.refl hroot
  obtain rfl := Value.mapping.inj (hother.symm.trans hother')
  have hrootKeys : (Value.mapping root).KeysApart := hroot ▸ hv.untagged
  have hotherKeys : (Value.mapping other).KeysApart := hother ▸ hw.untagged
  have hrootApart := (Value.keysApart_mapping_iff.1 hrootKeys).1
  have hotherApart := (Value.keysApart_mapping_iff.1 hotherKeys).1
  obtain ⟨others', hothers', hservices⟩ :=
    hentries.lookup_services hrootApart hotherApart hlookup
  obtain rfl := Value.mapping.inj (Option.some.inj (hothers.symm.trans hothers'))
  -- both manifests are open now, and their services are compared body by body
  have hdrafts := Manifest.drafts_reordered hservices hreads hreads'
    (Manifest.keysApart_body hrootKeys hlookup) (Manifest.keysApart_body hotherKeys hothers)
    hplain.bodies
  refine Manifest.ofDrafts_reordered hentries hrootApart hotherApart hplain.root hdrafts
    fun draft hdraft w hw => ?_
  obtain ⟨e, -, he⟩ := Outcome.exists_of_forall₂_of_mem hreads hdraft
  exact Manifest.service_of_mem_snd he hw

/-- The entries in the body of a service, its label behind what has warnings. -/
def labelledBody : List (Value × Value) := [
  (.string "ports", .sequence [.string "none", .number (.int 80)]),
  (.string "volumes", .sequence [.number (.int 5)]),
  (.string "labels", .mapping [(.string "spinforge.subdomain", .string "blog")])]

/-- The manifest of a service with a body, and of a volume. -/
def withBody (body : List (Value × Value)) : List (Value × Value) := [
  (.string "services", .mapping [(.string "web", .mapping body)]),
  (.string "volumes", .mapping [(.string "data", .null)])]

theorem ofValue_reordered_labelledBody :
    ∃ d d', ofValue (.mapping (withBody labelledBody)) = .ok d ∧
      ofValue (.mapping (withBody labelledBody.reverse).reverse) = .ok d' ∧ d.Reordered d' ∧
      d.warnings.map Warning.field = ["ports", "volumes"] ∧
      d'.warnings.map Warning.field = ["volumes", "ports"] := by
  have hreordered : (Value.mapping (withBody labelledBody)).Reordered
      (.mapping (withBody labelledBody.reverse).reverse) :=
    .mapping ⟨withBody labelledBody.reverse,
      .cons (.services (.mapping (.cons ⟨rfl, .mapping (List.reverse_perm _).symm⟩ .nil)))
        (.cons (.refl _) .nil), (List.reverse_perm _).symm⟩
  have hapart : (Value.mapping (withBody labelledBody)).KeysApart ∧
      (Value.mapping (withBody labelledBody.reverse).reverse).KeysApart := by
    simp [withBody, labelledBody, Value.keysApart_mapping_iff, Value.keysApart_sequence_iff,
      Value.KeysApart.string, Value.KeysApart.number, Value.KeysApart.null, Entries.Apart,
      Value.same]
  have hplain : Manifest.Plain (withBody labelledBody) [(.string "web", .mapping labelledBody)] :=
    Manifest.plain_of_untagged (by simp [withBody, Value.untagged])
      (by simp [labelledBody, Manifest.entriesOf, Value.untagged, -Prod.forall])
  have hsame := (ofValue_reordered hreordered hapart.1 hapart.2).2 _ _ rfl rfl hplain
  exact ⟨_, _, rfl, rfl, hsame _ _ rfl rfl, rfl, rfl⟩

end Document

end Deployment
