import Deployment.Proofs.Entries
import Deployment.Proofs.Value

/-!
# Proofs/Value/Shape — values as trees

What holds of a value is shown part by part (`Value.induct`).  `Value.mapText` replaces the texts of
a value and leaves its shape alone, `Value.texts` lists them in their order, `Value.keys` lists the
keys of all mappings in it, and `Value.KeysApart` says that no mapping, however deep, has the same
key twice.
-/

namespace Deployment.Value

/-! ## Induction

The recursor of a nested type asks for one motive for each level of nesting. Here it is stated with
membership in the list of items or entries instead. -/

/-- **What holds of a value when it holds of its parts**: the items of a sequence, the keys and the
values of a mapping, and what stands under a tag. -/
@[elab_as_elim]
theorem induct {motive : Value → Prop} (null : motive null) (bool : ∀ b, motive (bool b))
    (number : ∀ n, motive (number n)) (string : ∀ s, motive (string s))
    (sequence : ∀ items, (∀ v ∈ items, motive v) → motive (sequence items))
    (mapping : ∀ es, (∀ e ∈ es, motive e.1 ∧ motive e.2) → motive (mapping es))
    (tagged : ∀ tag v, motive v → motive (tagged tag v)) (v : Value) : motive v :=
  Value.rec (motive_1 := motive) (motive_2 := fun items => ∀ v ∈ items, motive v)
    (motive_3 := fun es => ∀ e ∈ es, motive e.1 ∧ motive e.2)
    (motive_4 := fun e => motive e.1 ∧ motive e.2)
    null bool number string sequence mapping tagged
    nofun (fun _ _ hv hvs => List.forall_mem_cons.2 ⟨hv, hvs⟩)
    nofun (fun _ _ he hes => List.forall_mem_cons.2 ⟨he, hes⟩)
    (fun _ _ hk hv => ⟨hk, hv⟩) v

/-! ## Texts replaced

The definitions recurse through lists of their own, so that they are structural. These lemmas put
`List.map` in their place. -/

section

variable (f : String → String)

mutual

/-- **A value with other texts**, its shape kept: every text, a key or not, is replaced, and all
else stays. -/
def mapText : Value → Value
  | string s => string (f s)
  | sequence items => sequence (mapTextItems items)
  | mapping es => mapping (mapTextEntries es)
  | tagged tag v => tagged tag v.mapText
  | v => v

/-- Items with other texts. -/
def mapTextItems : List Value → List Value
  | [] => []
  | v :: vs => v.mapText :: mapTextItems vs

/-- Entries with other texts. -/
def mapTextEntries : List (Value × Value) → List (Value × Value)
  | [] => []
  | (k, v) :: es => (k.mapText, v.mapText) :: mapTextEntries es

end

/-- Items are replaced one by one. -/
theorem mapTextItems_eq_map (items : List Value) :
    mapTextItems f items = items.map (mapText f) := by
  induction items with
  | nil => rfl
  | cons v vs ih => rw [mapTextItems, ih, List.map_cons]

theorem mapTextEntries_eq_map (es : List (Value × Value)) :
    mapTextEntries f es = es.map fun e => (e.1.mapText f, e.2.mapText f) := by
  induction es with
  | nil => rfl
  | cons e es ih => rw [mapTextEntries, ih, List.map_cons]

/-- **A sequence keeps its items**, one by one. -/
theorem mapText_sequence (items : List Value) :
    (sequence items).mapText f = sequence (items.map (mapText f)) := by
  rw [mapText, mapTextItems_eq_map]

/-- **A mapping keeps its entries**, one by one. -/
theorem mapText_mapping (es : List (Value × Value)) :
    (mapping es).mapText f = mapping (es.map fun e => (e.1.mapText f, e.2.mapText f)) := by
  rw [mapText, mapTextEntries_eq_map]

end

/-! ## Texts

All the texts of a value, from left to right. -/

mutual

/-- **The texts of a value**, keys and values at any depth, in the order in which they stand: those
of a key before those of its value. -/
def texts : Value → List String
  | string s => [s]
  | sequence items => textsOfItems items
  | mapping es => textsOfEntries es
  | tagged _ v => v.texts
  | _ => []

/-- The texts of items. -/
def textsOfItems : List Value → List String
  | [] => []
  | v :: vs => v.texts ++ textsOfItems vs

/-- The texts of entries. -/
def textsOfEntries : List (Value × Value) → List String
  | [] => []
  | (k, v) :: es => k.texts ++ v.texts ++ textsOfEntries es

end

theorem texts_sequence (items : List Value) : (sequence items).texts = items.flatMap texts := by
  rw [texts]
  induction items with
  | nil => rfl
  | cons v vs ih => rw [textsOfItems, ih, List.flatMap_cons]

theorem texts_mapping (es : List (Value × Value)) :
    (mapping es).texts = es.flatMap fun e => e.1.texts ++ e.2.texts := by
  rw [texts]
  induction es with
  | nil => rfl
  | cons e es ih => rw [textsOfEntries, ih, List.flatMap_cons]

/-- **A value whose texts are replaced by themselves stays as it is.** -/
theorem mapText_eq_self {f : String → String} {v : Value} (h : ∀ s ∈ v.texts, f s = s) :
    v.mapText f = v := by
  induction v using Value.induct with
  | null => rfl
  | bool b => rfl
  | number n => rfl
  | string s => rw [mapText, h s List.mem_cons_self]
  | sequence items ih =>
    rw [texts_sequence, List.forall_mem_flatMap] at h
    have hitems : items.map (mapText f) = items.map id :=
      List.map_congr_left fun v hv => ih v hv (h v hv)
    rw [mapText_sequence, hitems, List.map_id]
  | mapping es ih =>
    rw [texts_mapping, List.forall_mem_flatMap] at h
    have hes : es.map (fun e => (e.1.mapText f, e.2.mapText f)) = es.map id :=
      List.map_congr_left fun e he => by
        obtain ⟨hkey, hvalue⟩ := List.forall_mem_append.1 (h e he)
        rw [(ih e he).1 hkey, (ih e he).2 hvalue]
        rfl
    rw [mapText_mapping, hes, List.map_id]
  | tagged tag v ih =>
    rw [mapText, ih h]

/-! ## Keys

The keys of a value are those of its mappings at any depth, and no mapping has two that are the
same. -/

mutual

/-- **The keys of a value**, those of all mappings in it, those in a key included. -/
def keys : Value → List Value
  | sequence items => keysOfItems items
  | mapping es => keysOfEntries es
  | tagged _ v => v.keys
  | _ => []

/-- The keys of items. -/
def keysOfItems : List Value → List Value
  | [] => []
  | v :: vs => v.keys ++ keysOfItems vs

/-- The keys of entries. -/
def keysOfEntries : List (Value × Value) → List Value
  | [] => []
  | (k, v) :: es => k.keys ++ v.keys ++ k :: keysOfEntries es

end

theorem keys_sequence (items : List Value) : (sequence items).keys = items.flatMap keys := by
  rw [keys]
  induction items with
  | nil => rfl
  | cons v vs ih => rw [keysOfItems, ih, List.flatMap_cons]

/-- The keys of a mapping are those within an entry and then its own. -/
theorem keys_mapping (es : List (Value × Value)) :
    (mapping es).keys = es.flatMap fun e => e.1.keys ++ e.2.keys ++ [e.1] := by
  rw [keys]
  induction es with
  | nil => rfl
  | cons e es ih =>
    rw [keysOfEntries, ih, List.flatMap_cons, List.append_assoc _ [e.1], List.singleton_append]

/-- **No mapping of a value has the same key twice**, neither the value itself nor one inside it,
keys included. -/
inductive KeysApart : Value → Prop
  | null : KeysApart null
  | bool (b : Bool) : KeysApart (bool b)
  | number (n : Number) : KeysApart (number n)
  | string (s : String) : KeysApart (string s)
  | sequence {items : List Value} : (∀ v ∈ items, KeysApart v) → KeysApart (sequence items)
  | mapping {es : List (Value × Value)} : Entries.Apart same es → (∀ e ∈ es, KeysApart e.1) →
    (∀ e ∈ es, KeysApart e.2) → KeysApart (mapping es)
  | tagged {tag : String} {v : Value} : KeysApart v → KeysApart (tagged tag v)

theorem keysApart_sequence_iff {items : List Value} :
    KeysApart (.sequence items) ↔ ∀ v ∈ items, KeysApart v := by
  constructor
  · rintro ⟨⟩
    assumption
  · exact .sequence

/-- A mapping has its own keys apart, and its entries do. -/
theorem keysApart_mapping_iff {es : List (Value × Value)} :
    KeysApart (.mapping es) ↔ Entries.Apart same es ∧ ∀ e ∈ es, KeysApart e.1 ∧ KeysApart e.2 := by
  constructor
  · rintro ⟨⟩
    rename_i hes hkeys hvalues
    exact ⟨hes, fun e he => ⟨hkeys e he, hvalues e he⟩⟩
  · rintro ⟨hes, hparts⟩
    exact .mapping hes (fun e he => (hparts e he).1) fun e he => (hparts e he).2

theorem keysApart_tagged_iff {tag : String} {v : Value} :
    KeysApart (.tagged tag v) ↔ KeysApart v := by
  constructor
  · rintro ⟨⟩
    assumption
  · exact .tagged

theorem KeysApart.untagged : ∀ {v : Value}, v.KeysApart → v.untagged.KeysApart
  | .tagged _ _, h => (keysApart_tagged_iff.1 h).untagged
  | .null, h | .bool _, h | .number _, h | .string _, h | .sequence _, h | .mapping _, h => h

end Deployment.Value
