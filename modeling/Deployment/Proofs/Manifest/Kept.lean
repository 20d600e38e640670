import Deployment.Proofs.Manifest.Acceptance
import Deployment.Proofs.Manifest.RoundTrip
import Deployment.Proofs.Manifest.Service
import Deployment.Proofs.Value.Shape

/-!
# Proofs/Manifest/Kept — the entries of a manifest that are kept as they are

A document keeps the entries under all keys that say nothing it has a meaning for, as they were and
in their order (`Document.keeps_of_ofValue`).  What a key says is read through tags, though, and a
meaning is given to an untagged key only, so an entry is lost where a tagged key says a name that
has a meaning (`Document.loses_tagged`); nowhere else is one.
-/

namespace Deployment

namespace Value

/-- Whether a key is one of some names. -/
def isOneOf (names : List String) (key : Value) : Bool :=
  names.any fun name => key.same (.string name)

/-- A key is exactly a known name. -/
theorem isOneOf_iff {names : List String} {key : Value} :
    key.isOneOf names = true ↔ ∃ name ∈ names, key = .string name := by
  simp only [isOneOf, List.any_eq_true, same_string_iff]

/-- **A key that is a name spells it.** -/
theorem spells_of_isOneOf {names : List String} {key : Value} (h : key.isOneOf names = true) :
    key.spells names = true := by
  obtain ⟨name, hname, rfl⟩ := isOneOf_iff.1 h
  exact List.contains_iff_mem.2 hname

end Value

namespace Manifest

/-- **Recognizing fewer keys leaves the same entries only if it makes no difference to any.** -/
theorem others_eq_others_iff {p q : Value → Bool} (hpq : ∀ key, q key = true → p key = true)
    {es : List (Value × Value)} :
    others p es = others q es ↔ ∀ e ∈ es, p e.1 = true → q e.1 = true := by
  constructor
  · intro heq e he hp
    by_contra hq
    have hmem : e ∈ others p es := by
      rw [heq]
      exact List.mem_filter.2 ⟨he, by simpa using hq⟩
    have hnot : p e.1 = false := by simpa using (List.mem_filter.1 hmem).2
    exact absurd hp (by simp [hnot])
  · intro h
    refine List.filter_congr fun e he => ?_
    rw [Bool.eq_iff_iff.2 ⟨h e he, hpq e.1⟩]

/-! ## Bodies of services

Entries without a meaning are kept in their order. An entry has one if its key reads as a known
name, and a tag in front of the key does not matter for that. -/

/-- The entries of a body; null has none. -/
def entriesOf : Value → List (Value × Value)
  | .mapping es => es
  | _ => []

/-- A body has one list of entries. -/
theorem HasEntries.entriesOf_eq {body : Value} {es : List (Value × Value)}
    (h : HasEntries body es) : entriesOf body = es := by
  cases h <;> rfl

theorem HasEntries.apart {body : Value} {es : List (Value × Value)} (h : HasEntries body es)
    (hbody : body.KeysApart) : Entries.Apart Value.same es := by
  cases h with
  | mapping es => exact (Value.keysApart_mapping_iff.1 hbody).1
  | null => exact .nil

/-- **A service keeps the entries of its body** under keys that spell no name with a meaning. -/
theorem extra_of_service {name : String} {body : Value} {draft : Draft}
    (h : service name body = .ok draft) (hbody : body.KeysApart) :
    draft.1.extra = others (Value.spells settingKeys) (entriesOf body) := by
  obtain ⟨es, image, hes, -, -, rfl⟩ := service_eq_ok_iff_entries.1 h
  rw [hes.entriesOf_eq]
  exact extra_withEntries { name, image } (hes.apart hbody) rfl

/-! ## Manifests -/

/-- **What an entry of a manifest adds to the extensions.** -/
theorem extensions_withEntry (d : Document) (e : Value × Value) :
    (withEntry d e).extensions =
      if e.1.spells rootKeys then d.extensions
      else Entries.insert Value.same e.1 e.2 d.extensions := by
  by_cases hservices : e.1.asString? = some "services"
  · have hkey : e.1.spells rootKeys = true :=
      Value.spells_iff.2 ⟨_, List.mem_cons_self, hservices⟩
    rw [withEntry_services hservices, if_pos hkey]
  by_cases hvolumes : e.1.asString? = some "volumes"
  · have hkey : e.1.spells rootKeys = true :=
      Value.spells_iff.2 ⟨_, List.mem_cons_of_mem _ List.mem_cons_self, hvolumes⟩
    rw [withEntry_volumes hvolumes, declaring_eq, if_pos hkey]
  have hkey : e.1.spells rootKeys = false := by
    rw [Value.spells_eq_false_iff]
    simp only [Value.Avoids, rootKeys, List.forall_mem_cons]
    exact ⟨hservices, hvolumes, List.forall_mem_nil _⟩
  rw [withEntry_extension hservices hvolumes, hkey]
  rfl

/-- The entries of a root without a meaning are put in one after the other. -/
theorem extensions_foldl_withEntry (d : Document) (es : List (Value × Value)) :
    (es.foldl withEntry d).extensions =
      (others (Value.spells rootKeys) es).foldl
        (fun acc e => Entries.insert Value.same e.1 e.2 acc) d.extensions := by
  induction es generalizing d with
  | nil => rfl
  | cons e es ih =>
    rw [List.foldl_cons, ih, extensions_withEntry, others, others, List.filter_cons]
    cases e.1.spells rootKeys <;> rfl

end Manifest

/-! ## Documents

The look-up of a known key is exact, but the test whether a key is known looks through tags. What is
kept and what is lost lies between the two. -/

/-- **Whether a document keeps all other entries of a manifest** than those whose keys are
recognized as names that have a meaning, unchanged and in their order. -/
structure Document.Keeps (d : Document) (recognized : List String → Value → Bool)
    (root services : List (Value × Value)) : Prop where
  extensions : d.extensions = Manifest.others (recognized Manifest.rootKeys) root
  names : List.Forall₂ (fun e s => Manifest.Names e.1 s.1) services d.services
  extra : d.services.map (fun s => s.2.extra) = services.map fun e =>
    Manifest.others (recognized Manifest.settingKeys) (Manifest.entriesOf e.2)

/-- Whether no key under a tag spells a name that has a meaning. -/
structure Manifest.Plain (root services : List (Value × Value)) : Prop where
  root : ∀ e ∈ root, e.1.spells rootKeys = true → e.1.isOneOf rootKeys = true
  bodies : ∀ e ∈ services, ∀ f ∈ entriesOf e.2,
    f.1.spells settingKeys = true → f.1.isOneOf settingKeys = true

/-- **Every entry is kept whose key is no name with a meaning, if and only if no key under a tag
spells one.** -/
theorem Document.Keeps.all_iff {d : Document} {root services : List (Value × Value)}
    (h : d.Keeps Value.spells root services) :
    d.Keeps Value.isOneOf root services ↔ Manifest.Plain root services := by
  have hspells (names : List String) (key : Value) :
      key.isOneOf names = true → key.spells names = true := Value.spells_of_isOneOf
  constructor
  · intro hall
    refine ⟨?_, fun e he => ?_⟩
    · rw [← Manifest.others_eq_others_iff (hspells _), ← h.extensions, ← hall.extensions]
    · have hextra := h.extra.symm.trans hall.extra
      exact (Manifest.others_eq_others_iff (hspells _)).1 (List.map_inj_left.1 hextra e he)
  · intro hplain
    refine ⟨?_, h.names, ?_⟩
    · rw [h.extensions, Manifest.others_eq_others_iff (hspells _)]
      exact hplain.root
    · rw [h.extra]
      refine List.map_congr_left fun e he => ?_
      rw [Manifest.others_eq_others_iff (hspells _)]
      exact hplain.bodies e he

/-- **The document of a manifest keeps the entries under all keys that spell no name with a
meaning.** -/
theorem Document.keeps_of_ofValue {v : Value} {d : Document} (h : ofValue v = .ok d)
    (hv : v.KeysApart) :
    ∃ root services, v.untagged = .mapping root ∧
      Value.lookup "services" root = some (.mapping services) ∧
      d.Keeps Value.spells root services ∧
      (d.Keeps Value.isOneOf root services ↔ Manifest.Plain root services) := by
  obtain ⟨root, services, drafts, hroot, hlookup, hreads, -, -, rfl⟩ := ofValue_eq_ok_iff.1 h
  have hrootApart := Value.keysApart_mapping_iff.1 (hroot ▸ hv.untagged)
  have hservicesApart : ∀ e ∈ services, e.2.KeysApart := by
    obtain ⟨key, hmem⟩ := Entries.exists_mem_of_find?_eq_some hlookup
    have hservices := (hrootApart.2 _ hmem).2
    exact fun e he => ((Value.keysApart_mapping_iff.1 hservices).2 e he).2
  have hdrafts : (root.foldl Manifest.withEntry (Manifest.withDrafts {} drafts)).services =
      drafts.map fun draft => (draft.1.name, draft.1) := by
    rw [Manifest.services_foldl_withEntry, Manifest.withDrafts, List.nil_append]
  have hkeeps : (root.foldl Manifest.withEntry (Manifest.withDrafts {} drafts)).Keeps
      Value.spells root services :=
    { extensions := by
        rw [Manifest.extensions_foldl_withEntry]
        exact Entries.foldl_insert (Manifest.apart_others hrootApart.1) (List.forall_mem_nil _)
      names := by
        rw [hdrafts, List.forall₂_map_right_iff]
        exact hreads.imp fun e draft hdraft => hdraft.1
      extra := by
        rw [hdrafts, List.map_map]
        -- the induction is on the services as they are read, and only their bodies are needed
        clear hlookup hdrafts h hrootApart
        induction hreads with
        | nil => rfl
        | cons hdraft _ ih =>
          rw [List.forall_mem_cons] at hservicesApart
          rw [List.map_cons, List.map_cons, ih hservicesApart.2]
          exact congrArg (· :: _) (Manifest.extra_of_service hdraft.2 hservicesApart.1) }
  exact ⟨root, services, hroot, hlookup, hkeeps, hkeeps.all_iff⟩

/-- A manifest with keys that have no meaning. -/
def Value.otherKeys : Value :=
  .mapping [
    (.string "version", .string "3.8"),
    (.string "services", .mapping [
      (.string "web", .mapping [
        (.string "command", .string "serve"),
        (.string "image", .string "nginx")])])]

theorem Document.keeps_otherKeys :
    ∃ d root services, ofValue .otherKeys = .ok d ∧ Value.otherKeys.KeysApart ∧
      d.Keeps Value.spells root services := by
  have hread : ∃ d, ofValue .otherKeys = .ok d := ⟨_, rfl⟩
  have hapart : Value.otherKeys.KeysApart := by
    simp [Value.otherKeys, Value.keysApart_mapping_iff, Value.KeysApart.string, Entries.Apart,
      Value.same]
  obtain ⟨d, hd⟩ := hread
  obtain ⟨root, services, -, -, hkeeps, -⟩ := keeps_of_ofValue hd hapart
  exact ⟨d, root, services, hd, hapart, hkeeps⟩

/-- The body of a service with a name under a tag among its keys. -/
def Value.taggedBody : List (Value × Value) := [
  (.string "image", .string "nginx:1"),
  (.tagged "x" (.string "image"), .string "nginx:2")]

/-- The entries of a manifest with such a service and another name under a tag. -/
def Value.taggedRoot : List (Value × Value) := [
  (.string "services", .mapping [(.string "web", .mapping taggedBody)]),
  (.tagged "x" (.string "services"), .string "kept")]

/-- **An entry whose key is no name with a meaning may be lost**, beside the services and in the
body of one. -/
theorem Document.loses_tagged :
    (Value.mapping Value.taggedRoot).KeysApart ∧
      ∃ d s, ofValue (.mapping Value.taggedRoot) = .ok d ∧ d.services = [("web", s)] ∧
        (∃ e ∈ Value.taggedRoot, e.1.isOneOf Manifest.rootKeys = false ∧ e ∉ d.extensions) ∧
        ∃ e ∈ Value.taggedBody, e.1.isOneOf Manifest.settingKeys = false ∧ e ∉ s.extra := by
  refine ⟨?_, _, _, rfl, rfl, ?_, ?_⟩
  · simp [Value.taggedRoot, Value.taggedBody, Value.keysApart_mapping_iff,
      Value.keysApart_tagged_iff, Value.KeysApart.string, Entries.Apart, Value.same]
  · exact ⟨_, List.mem_cons_of_mem _ List.mem_cons_self, rfl, List.not_mem_nil⟩
  · exact ⟨_, List.mem_cons_of_mem _ List.mem_cons_self, rfl, List.not_mem_nil⟩

end Deployment
