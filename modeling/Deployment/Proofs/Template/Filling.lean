import Deployment.Proofs.Check
import Deployment.Proofs.Manifest.Reading
import Deployment.Proofs.Value.Shape
import Deployment.Template.Rendering

/-!
# Proofs/Template/Filling — texts do not change the structure of a skeleton

Filling a skeleton replaces its texts and nothing else (`isFilled`): the result has the shape of the
skeleton, or there is none because two keys of a mapping became the same.  The keys of a skeleton
are listed in the order in which they are looked at (`keysOf`), each with the place of its mapping;
the first one that is taken already is reported (`reports`).
-/

namespace Deployment.Template

open Check (Follows ComesFirst)

/-! ## What a skeleton is filled to

Filling replaces texts and moves nothing. So it is `Value.mapText`, unless two keys of one mapping
become equal on the way. -/

/-- A value with its texts filled in. -/
abbrev filled (values : Bindings) (v : Value) : Value := v.mapText (fill values)

/-- An entry with its texts filled in. -/
abbrev filledEntry (values : Bindings) (e : Value × Value) : Value × Value :=
  (filled values e.1, filled values e.2)

/-- Whether a value is filled exactly when its keys stay apart, and to what it then becomes. -/
def IsFilled (values : Bindings) (v : Value) : Prop :=
  ∀ level w, fillValue values level v = .ok w ↔ (filled values v).KeysApart ∧ filled values v = w

section

variable {values : Bindings} {level : Level}

/-- A sequence is filled when all of its items are. -/
theorem fillItems_eq_ok_iff {items ws : List Value} (h : ∀ v ∈ items, IsFilled values v) :
    fillItems values items = .ok ws ↔
      (∀ v ∈ items.map (filled values), v.KeysApart) ∧ items.map (filled values) = ws := by
  induction items generalizing ws with
  | nil => exact Outcome.pure_eq_ok.trans ⟨fun h => ⟨nofun, h⟩, fun h => h.2⟩
  | cons v vs ih =>
    rw [List.forall_mem_cons] at h
    have hv := h.1 .nested
    simp only [fillItems, Outcome.bind_eq_ok, Outcome.pure_eq_ok, hv, ih h.2, List.map_cons,
      List.forall_mem_cons]
    constructor
    · rintro ⟨_, ⟨hv, rfl⟩, _, ⟨hvs, rfl⟩, rfl⟩
      exact ⟨⟨hv, hvs⟩, rfl⟩
    · rintro ⟨⟨hv, hvs⟩, rfl⟩
      exact ⟨_, ⟨hv, rfl⟩, _, ⟨hvs, rfl⟩, rfl⟩

/-- **Entries are filled when their keys stay apart**, from each other and from earlier ones. -/
theorem fillEntries_eq_ok_iff {earlier : List Value} {es fs : List (Value × Value)}
    (h : ∀ e ∈ es, IsFilled values e.1 ∧ IsFilled values e.2) :
    fillEntries values level earlier es = .ok fs ↔
      ((∀ e ∈ es.map (filledEntry values), ∀ a ∈ earlier, Value.same a e.1 = false) ∧
        Entries.Apart Value.same (es.map (filledEntry values)) ∧
        ∀ e ∈ es.map (filledEntry values), e.1.KeysApart ∧ e.2.KeysApart) ∧
      es.map (filledEntry values) = fs := by
  induction es generalizing earlier fs with
  | nil =>
    exact Outcome.pure_eq_ok.trans ⟨fun h => ⟨⟨nofun, .nil, nofun⟩, h⟩, fun h => h.2⟩
  | cons e es ih =>
    obtain ⟨k, v⟩ := e
    rw [List.forall_mem_cons] at h
    obtain ⟨⟨hk, hv⟩, hes⟩ := h
    have hk := hk .nested
    have hv (key : Value) := hv (level.under key)
    have hnew (key : Value) : ¬ (earlier.any fun a => a.same key) = true ↔
        ∀ a ∈ earlier, a.same key = false := by simp
    simp only [fillEntries, Outcome.throw_bind, Outcome.bind_eq_ok, Outcome.guard_eq_ok,
      Outcome.pure_eq_ok, hk, hv, hnew, ih hes, List.map_cons, List.forall_mem_cons,
      Entries.apart_cons_iff]
    constructor
    · rintro ⟨_, ⟨hk, rfl⟩, _, ⟨hv, rfl⟩, hfirst, _, ⟨⟨hrest, hapart, hparts⟩, rfl⟩, rfl⟩
      exact ⟨⟨⟨hfirst, fun e he => (hrest e he).2⟩, ⟨fun e he => (hrest e he).1, hapart⟩,
        ⟨hk, hv⟩, hparts⟩, rfl⟩
    · rintro ⟨⟨⟨hfirst, hrest⟩, ⟨hkey, hapart⟩, ⟨hk, hv⟩, hparts⟩, rfl⟩
      exact ⟨_, ⟨hk, rfl⟩, _, ⟨hv, rfl⟩, hfirst, _,
        ⟨⟨fun e he => ⟨hkey e he, hrest e he⟩, hapart, hparts⟩, rfl⟩, rfl⟩

/-- **A value is filled exactly when its keys stay apart**, and only its texts are then replaced. -/
theorem isFilled (values : Bindings) (v : Value) : IsFilled values v := by
  induction v using Value.induct with
  | null => exact fun _ _ => Outcome.pure_eq_ok.trans (and_iff_right .null).symm
  | bool b => exact fun _ _ => Outcome.pure_eq_ok.trans (and_iff_right (.bool b)).symm
  | number n => exact fun _ _ => Outcome.pure_eq_ok.trans (and_iff_right (.number n)).symm
  | string s => exact fun _ _ => Outcome.pure_eq_ok.trans (and_iff_right (.string _)).symm
  | sequence items ih =>
    intro level w
    rw [fillValue, filled, Value.mapText_sequence, Value.keysApart_sequence_iff]
    exact Outcome.map_eq_ok_iff_of fun _ => fillItems_eq_ok_iff ih
  | mapping es ih =>
    intro level w
    rw [fillValue, filled, Value.mapText_mapping, Value.keysApart_mapping_iff]
    refine Outcome.map_eq_ok_iff_of fun _ => (fillEntries_eq_ok_iff ih).trans ?_
    exact and_congr_left fun _ => and_iff_right fun _ _ => nofun
  | tagged tag v ih =>
    intro level w
    rw [fillValue, filled, Value.mapText, Value.keysApart_tagged_iff]
    exact Outcome.map_eq_ok_iff_of (ih level)

end

/-! ## The keys of a skeleton -/

/-- A step from a value to a part of it. A tag is none. -/
inductive Step where
  | item
  | key
  /-- To the value under a key, with its texts filled in. -/
  | under (key : Value)

/-- Where a value stands in a skeleton: the steps to it, the last one first. -/
abbrev Place := List Step

namespace Place

/-- Whether a place is that of the services: under a key of the root that reads so. -/
def isServices : Place → Bool
  | [.under key] => key.asString? == some "services"
  | _ => false

/-- The level of a place. -/
def level (place : Place) : Level :=
  if place.isEmpty then .root else if place.isServices then .services else .nested

/-- Only the skeleton itself stands at the root. -/
theorem level_cons_ne_root (step : Step) (place : Place) : level (step :: place) ≠ .root := by
  rw [level, if_neg (by simp)]
  split <;> exact nofun

/-- The level of a value is the one that the place of its mapping and its key give it. -/
theorem level_under (place : Place) (key : Value) :
    level (.under key :: place) = place.level.under key := by
  cases place with
  | nil => simp [level, isServices, Level.under]
  | cons step place =>
    rw [Level.under, if_neg fun h => level_cons_ne_root step place h.1]
    rfl

end Place

/-- **A key of a skeleton** in its mapping. -/
structure KeySite where
  /-- The place of the mapping. -/
  place : Place
  /-- The keys before it in the mapping, with their texts filled in. -/
  earlier : List Value
  key : Value
  /-- The key with its texts filled in. -/
  filled : Value

namespace KeySite

/-- Whether the key becomes the same as an earlier one. -/
def isTaken (s : KeySite) : Bool := s.earlier.any fun k => k.same s.filled

/-- The name of a service that the key becomes, if it is one of a service. -/
def serviceName? (s : KeySite) : Option String :=
  if s.place.isServices then s.filled.asString? else none

/-- What is reported where the key is taken: the name of a service, and else the key as the skeleton
has it. -/
def violation (s : KeySite) : Violation :=
  match s.serviceName? with
  | some name => .duplicateService name
  | none => .duplicateKey (keyText s.key)

/-- The check that the key is not taken. -/
def check (s : KeySite) : Check := ⟨!s.isTaken, s.violation⟩

end KeySite

mutual

/-- **The keys of a value at a place**, in the order in which they are looked at: those in a key and
in its value come before the key. -/
def keysOf (values : Bindings) (place : Place) : Value → List KeySite
  | .sequence items => keysOfItems values (.item :: place) items
  | .mapping es => keysOfEntries values place [] es
  | .tagged _ v => keysOf values place v
  | _ => []

/-- The keys of items at a place. -/
def keysOfItems (values : Bindings) (place : Place) : List Value → List KeySite
  | [] => []
  | v :: vs => keysOf values place v ++ keysOfItems values place vs

/-- The keys of entries of a mapping at a place, after entries with the given keys. -/
def keysOfEntries (values : Bindings) (place : Place) (earlier : List Value) :
    List (Value × Value) → List KeySite
  | [] => []
  | (k, v) :: es =>
    let key := filled values k
    keysOf values (.key :: place) k ++ (keysOf values (.under key :: place) v ++
      ⟨place, earlier, k, key⟩ :: keysOfEntries values place (key :: earlier) es)

end

/-! ## The first key that is taken

A skeleton is walked depth first, the key of an entry before its value, and each key is compared
with the filled ones before it. The keys are listed in this order (`keysOf`), so an error is the one
of the first key that is taken. -/

/-- What the level of a mapping says about a key is what its place says. -/
theorem collision_eq (place : Place) (earlier : List Value) (k key : Value) :
    collision place.level k key = (KeySite.mk place earlier k key).violation := by
  have hservices : place.level = .services ↔ place.isServices = true := by
    cases place with
    | nil => simp [Place.level, Place.isServices]
    | cons step place => simp [Place.level]
  unfold collision
  rw [KeySite.violation, KeySite.serviceName?]
  by_cases h : place.isServices = true
  · rw [if_pos h, hservices.2 h]
    cases key.asString? <;> rfl
  · rw [if_neg h]
    split
    · exact absurd (hservices.1 ‹_›) h
    · rfl

/-- Whether filling a value, wherever it stands, reports the first key in it that is taken. -/
def Reports (values : Bindings) (v : Value) : Prop :=
  ∀ place : Place,
    Follows (fillValue values place.level v) ((keysOf values place v).map KeySite.check)

section

variable {values : Bindings} {place : Place}

/-- The items of a sequence report their keys one after the other. -/
theorem follows_fillItems {items : List Value} (h : ∀ v ∈ items, Reports values v)
    (hplace : place.level = .nested) :
    Follows (fillItems values items) ((keysOfItems values place items).map KeySite.check) := by
  induction items with
  | nil => exact Follows.ok _
  | cons v vs ih =>
    rw [List.forall_mem_cons] at h
    rw [fillItems, keysOfItems, List.map_append, ← hplace]
    exact (h.1 place).bind fun _ _ => (ih h.2).map

/-- An entry reports the keys within its key, those within its value, and then its own. -/
theorem follows_fillEntries {earlier : List Value} {es : List (Value × Value)}
    (h : ∀ e ∈ es, Reports values e.1 ∧ Reports values e.2) :
    Follows (fillEntries values place.level earlier es)
      ((keysOfEntries values place earlier es).map KeySite.check) := by
  induction es generalizing earlier with
  | nil => exact Follows.ok _
  | cons e es ih =>
    obtain ⟨k, v⟩ := e
    rw [List.forall_mem_cons] at h
    obtain ⟨⟨hk, hv⟩, hes⟩ := h
    rw [fillEntries, keysOfEntries, List.map_append, List.map_append, List.map_cons]
    refine (hk (.key :: place)).bind fun key hkey => ?_
    obtain ⟨-, rfl⟩ := (isFilled values k _ key).1 hkey
    refine Follows.bind (Place.level_under place _ ▸ hv (.under _ :: place)) fun w _ => ?_
    simp only [Outcome.throw_bind, collision_eq place earlier]
    refine Follows.guard ?_ fun _ => (ih hes).map
    simp [KeySite.isTaken]

/-- **Filling a value reports the first key in it that is taken.** -/
theorem reports (values : Bindings) (v : Value) : Reports values v := by
  induction v using Value.induct with
  | null => exact fun _ => Follows.ok _
  | bool b => exact fun _ => Follows.ok _
  | number n => exact fun _ => Follows.ok _
  | string s => exact fun _ => Follows.ok _
  | sequence items ih =>
    intro place
    rw [fillValue, keysOf]
    exact (follows_fillItems ih rfl).map
  | mapping es ih =>
    intro place
    rw [fillValue, keysOf]
    exact (follows_fillEntries ih).map
  | tagged tag v ih =>
    intro place
    rw [fillValue, keysOf]
    exact (ih place).map

end

/-! ## Skeletons -/

/-- The document of a skeleton is the one of what it is filled to. -/
theorem ofValue_of_fillSkeleton {skeleton : Value} {values : Bindings} {d : Document}
    (h : fillSkeleton skeleton values = .ok d) :
    Document.ofValue (filled values skeleton) = .ok d := by
  rw [fillSkeleton] at h
  split at h
  · cases h
  · obtain ⟨v, hv, h⟩ := Outcome.bind_eq_ok.1 h
    rw [CompileError.ofViolation_eq_ok_iff, isFilled] at hv
    exact hv.2 ▸ h

/-- **Texts do not change the structure of a skeleton.**  It is filled exactly when, in what it is
filled to, no mapping has the same key twice; the result is then the skeleton with its texts filled
in; and otherwise the first key that is taken is reported. -/
theorem fillValue_keeps_structure (values : Bindings) (skeleton : Value) :
    ((∃ w, fillValue values .root skeleton = .ok w) ↔ (filled values skeleton).KeysApart) ∧
      (∀ w, fillValue values .root skeleton = .ok w → w = filled values skeleton) ∧
      ∀ v, fillValue values .root skeleton = .error v ↔
        ComesFirst ((keysOf values [] skeleton).map KeySite.check) v := by
  have hok := isFilled values skeleton .root
  refine ⟨⟨?_, fun h => ⟨_, (hok _).2 ⟨h, rfl⟩⟩⟩, fun w hw => ((hok w).1 hw).2.symm, fun v => ?_⟩
  · rintro ⟨w, hw⟩
    exact ((hok w).1 hw).1
  · exact (reports values skeleton []).eq_error_iff

end Deployment.Template
