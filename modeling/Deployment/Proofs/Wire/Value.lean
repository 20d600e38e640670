import Deployment.Proofs.Json.Decode
import Deployment.Wire.Value

/-!
# Proofs/Wire/Value — the values that JSON can hold

A JSON value gives a value (`Json.toValue`) that is written as it was (`Value.toJson_toValue`), and
is read if no object in it has a name twice (`Value.readJson_eq_ok_iff`).  So what comes of reading
is what JSON can hold (`Value.isJson_iff`): texts for keys and no tags, however deep.
-/

namespace Deployment

/-! ## JSON values as trees

A JSON value is a tree of the same form, with texts for keys and without tags. -/

namespace Json

/-- **What holds of a JSON value when it holds of its parts**: the items of an array and the values
in an object. -/
@[elab_as_elim]
theorem induct {motive : Json → Prop} (null : motive null) (bool : ∀ b, motive (bool b))
    (number : ∀ n, motive (number n)) (string : ∀ s, motive (string s))
    (array : ∀ js, (∀ j ∈ js, motive j) → motive (array js))
    (object : ∀ ms, (∀ m ∈ ms, motive m.2) → motive (object ms)) (j : Json) : motive j :=
  Json.rec (motive_1 := motive) (motive_2 := fun js => ∀ j ∈ js, motive j)
    (motive_3 := fun ms => ∀ m ∈ ms, motive m.2) (motive_4 := fun m => motive m.2)
    null bool number string array object
    nofun (fun _ _ hj hjs => List.forall_mem_cons.2 ⟨hj, hjs⟩)
    nofun (fun _ _ hm hms => List.forall_mem_cons.2 ⟨hm, hms⟩)
    (fun _ _ hj => hj) j

mutual

/-- The value that a JSON value stands for. -/
def toValue : Json → Value
  | null => .null
  | bool b => .bool b
  | number n => .number n
  | string s => .string s
  | array js => .sequence (toValues js)
  | object ms => .mapping (toEntries ms)

/-- The values that items stand for. -/
def toValues : List Json → List Value
  | [] => []
  | j :: js => toValue j :: toValues js

/-- The entries that members stand for. -/
def toEntries : List (String × Json) → List (Value × Value)
  | [] => []
  | (name, j) :: ms => (.string name, toValue j) :: toEntries ms

end

/-- Elements become items one by one. -/
theorem toValues_eq_map (js : List Json) : toValues js = js.map toValue := by
  induction js with
  | nil => rfl
  | cons j js ih => rw [toValues, ih, List.map_cons]

theorem toEntries_eq_map (ms : List (String × Json)) :
    toEntries ms = ms.map fun m => (.string m.1, toValue m.2) := by
  induction ms with
  | nil => rfl
  | cons m ms ih => rw [toEntries, ih, List.map_cons]

/-- **No object of a JSON value has a name twice**, neither the value itself nor one inside it. -/
inductive NamesApart : Json → Prop
  | null : NamesApart null
  | bool (b : Bool) : NamesApart (bool b)
  | number (n : Number) : NamesApart (number n)
  | string (s : String) : NamesApart (string s)
  | array {js : List Json} : (∀ j ∈ js, NamesApart j) → NamesApart (array js)
  | object {ms : List (String × Json)} : (ms.map Prod.fst).Nodup → (∀ m ∈ ms, NamesApart m.2) →
    NamesApart (object ms)

attribute [simp] NamesApart.null NamesApart.bool NamesApart.number NamesApart.string

@[simp] theorem namesApart_array_iff {js : List Json} :
    NamesApart (.array js) ↔ ∀ j ∈ js, NamesApart j := by
  constructor
  · rintro ⟨⟩
    assumption
  · exact .array

/-- The names of an object differ, and so they do within its members. -/
@[simp] theorem namesApart_object_iff {ms : List (String × Json)} :
    NamesApart (.object ms) ↔ (ms.map Prod.fst).Nodup ∧ ∀ m ∈ ms, NamesApart m.2 := by
  constructor
  · rintro ⟨⟩
    rename_i hnames hms
    exact ⟨hnames, hms⟩
  · exact fun h => .object h.1 h.2

end Json

namespace Value

open Json (toValue toEntries NamesApart)

/-! ## Writing

A value that has a JSON form is the tree of it. -/

/-- **What a JSON value stands for is written as that JSON value.** -/
theorem toJson_toValue (j : Json) : toJson (toValue j) = .ok j := by
  induction j using Json.induct with
  | null | bool _ | number _ | string _ => rfl
  | array js ih =>
    have hitems : itemsToJson (Json.toValues js) = .ok js := by
      induction js with
      | nil => rfl
      | cons j js ihs =>
        rw [List.forall_mem_cons] at ih
        rw [Json.toValues, itemsToJson, ih.1, ihs ih.2]
        rfl
    rw [toValue, toJson, hitems]
    rfl
  | object ms ih =>
    have hentries : entriesToJson (toEntries ms) = .ok ms := by
      induction ms with
      | nil => rfl
      | cons m ms ihs =>
        rw [List.forall_mem_cons] at ih
        rw [toEntries, entriesToJson, ih.1, ihs ih.2]
        rfl
    rw [toValue, toJson, hentries]
    rfl

/-! ## Reading

Members are read in their order, and one that is repeated is refused. So what is read back has its
names apart. -/

/-- Elements are read when each of them is. -/
theorem readItems_eq_ok_iff {i : Nat} {js : List Json} {vs : List Value}
    (h : ∀ j ∈ js, ∀ v, readJson j = .ok v ↔ NamesApart j ∧ toValue j = v) :
    readItems i js = .ok vs ↔ (∀ j ∈ js, NamesApart j) ∧ js.map toValue = vs := by
  induction js generalizing i vs with
  | nil => simp [readItems]
  | cons j js ih =>
    rw [List.forall_mem_cons] at h
    simp only [readItems, Outcome.bind_eq_ok, Outcome.pure_eq_ok, Json.inside_eq_ok_iff, h.1,
      ih h.2, List.forall_mem_cons, List.map_cons]
    constructor
    · rintro ⟨_, ⟨hj, rfl⟩, _, ⟨hjs, rfl⟩, rfl⟩
      exact ⟨⟨hj, hjs⟩, rfl⟩
    · rintro ⟨⟨hj, hjs⟩, rfl⟩
      exact ⟨_, ⟨hj, rfl⟩, _, ⟨hjs, rfl⟩, rfl⟩

/-- Members are read when their names differ from one another and from those before them. -/
theorem readMembers_eq_ok_iff {i : Nat} {earlier : List String} {ms : List (String × Json)}
    {es : List (Value × Value)}
    (h : ∀ m ∈ ms, ∀ v, readJson m.2 = .ok v ↔ NamesApart m.2 ∧ toValue m.2 = v) :
    readMembers i earlier ms = .ok es ↔
      ((ms.map Prod.fst).Nodup ∧ ∀ m ∈ ms, m.1 ∉ earlier) ∧ (∀ m ∈ ms, NamesApart m.2) ∧
        toEntries ms = es := by
  induction ms generalizing i earlier es with
  | nil => simp [readMembers, toEntries]
  | cons m ms ih =>
    obtain ⟨name, j⟩ := m
    rw [List.forall_mem_cons] at h
    simp only [readMembers, Outcome.throw_bind, Outcome.guard_eq_ok, Outcome.bind_eq_ok,
      Outcome.pure_eq_ok, Json.inside_eq_ok_iff, h.1, ih h.2, List.forall_mem_cons, toEntries,
      List.map_cons, List.nodup_cons, List.contains_iff_mem]
    constructor
    · rintro ⟨hname, _, ⟨hj, rfl⟩, _, ⟨⟨hnodup, hearlier⟩, hms, rfl⟩, rfl⟩
      simp only [List.mem_cons, not_or] at hearlier
      refine ⟨⟨⟨fun hmem => ?_, hnodup⟩, hname, fun m hm => (hearlier m hm).2⟩, ⟨hj, hms⟩, rfl⟩
      obtain ⟨m, hm, heq⟩ := List.mem_map.1 hmem
      exact (hearlier m hm).1 heq
    · rintro ⟨⟨⟨hnew, hnodup⟩, hname, hearlier⟩, ⟨hj, hms⟩, rfl⟩
      have hdiffer : ∀ m ∈ ms, m.1 ∉ name :: earlier := fun m hm hmem =>
        (List.mem_cons.1 hmem).elim (fun heq => hnew (heq ▸ List.mem_map_of_mem hm))
          (hearlier m hm)
      exact ⟨hname, _, ⟨hj, rfl⟩, _, ⟨⟨hnodup, hdiffer⟩, hms, rfl⟩, rfl⟩

/-- **A JSON value is read as what it stands for**, unless an object in it has a name twice. -/
theorem readJson_eq_ok_iff {j : Json} {v : Value} :
    readJson j = .ok v ↔ NamesApart j ∧ toValue j = v := by
  induction j using Json.induct generalizing v with
  | null => exact Outcome.pure_eq_ok.trans (and_iff_right .null).symm
  | bool b => exact Outcome.pure_eq_ok.trans (and_iff_right (.bool b)).symm
  | number n => exact Outcome.pure_eq_ok.trans (and_iff_right (.number n)).symm
  | string s => exact Outcome.pure_eq_ok.trans (and_iff_right (.string s)).symm
  | array js ih =>
    rw [readJson, Outcome.map_eq_ok, Json.namesApart_array_iff, toValue, Json.toValues_eq_map]
    simp only [readItems_eq_ok_iff fun j hj v => ih j hj]
    exact ⟨fun ⟨_, ⟨h, hvs⟩, hv⟩ => ⟨h, hvs ▸ hv⟩, fun ⟨h, hv⟩ => ⟨_, ⟨h, rfl⟩, hv⟩⟩
  | object ms ih =>
    rw [readJson, Outcome.map_eq_ok, Json.namesApart_object_iff, toValue]
    simp only [readMembers_eq_ok_iff fun m hm v => ih m hm]
    constructor
    · rintro ⟨_, ⟨⟨hnames, -⟩, hms, rfl⟩, rfl⟩
      exact ⟨⟨hnames, hms⟩, rfl⟩
    · rintro ⟨⟨hnames, hms⟩, rfl⟩
      exact ⟨_, ⟨⟨hnames, fun _ _ => List.not_mem_nil⟩, hms, rfl⟩, rfl⟩

/-! ## What JSON can hold

A value can be written when each of its parts can, and it is then read back. -/

/-- **A value that JSON can hold**: no tag in it, and every key of its mappings a text that stands
there once, however deep.  Floats are held whatever they are; only finite ones have a text. -/
inductive IsJson : Value → Prop
  | null : IsJson null
  | bool (b : Bool) : IsJson (bool b)
  | number (n : Number) : IsJson (number n)
  | string (s : String) : IsJson (string s)
  | sequence {items : List Value} : (∀ v ∈ items, IsJson v) → IsJson (sequence items)
  | mapping {members : List (String × Value)} : (members.map Prod.fst).Nodup →
    (∀ m ∈ members, IsJson m.2) →
    IsJson (mapping (members.map fun m => (Value.string m.1, m.2)))

/-- **What JSON can hold is what is read of it.** -/
theorem isJson_iff {v : Value} : IsJson v ↔ ∃ j, NamesApart j ∧ toValue j = v := by
  constructor
  · intro h
    induction h with
    | null => exact ⟨_, .null, rfl⟩
    | bool b => exact ⟨_, .bool b, rfl⟩
    | number n => exact ⟨_, .number n, rfl⟩
    | string s => exact ⟨_, .string s, rfl⟩
    | sequence _ ih =>
      obtain ⟨js, hjs, rfl⟩ := Outcome.exists_map_eq_iff.2 ih
      exact ⟨.array js, .array hjs, by rw [toValue, Json.toValues_eq_map]⟩
    -- each member is found with its name, so that the names stay different
    | @mapping members hnames _ ih =>
      have hmembers : ∀ m ∈ members, ∃ n : String × Json,
          NamesApart n.2 ∧ (n.1, toValue n.2) = m := fun m hm =>
        let ⟨j, hj, hv⟩ := ih m hm
        ⟨(m.1, j), hj, Prod.ext rfl hv⟩
      obtain ⟨ms, hms, rfl⟩ := Outcome.exists_map_eq_iff.2 hmembers
      rw [List.map_map] at hnames
      refine ⟨.object ms, .object hnames hms, ?_⟩
      rw [toValue, Json.toEntries_eq_map, List.map_map]
      rfl
  · rintro ⟨j, hj, rfl⟩
    induction hj with
    | null => exact .null
    | bool b => exact .bool b
    | number n => exact .number n
    | string s => exact .string s
    | array _ ih =>
      rw [toValue, Json.toValues_eq_map]
      exact .sequence (List.forall_mem_map.2 ih)
    | @object ms hnames _ ih =>
      have hentries : toEntries ms =
          (ms.map fun m => (m.1, toValue m.2)).map fun m => (Value.string m.1, m.2) := by
        rw [Json.toEntries_eq_map, List.map_map]
        rfl
      rw [toValue, hentries]
      refine .mapping ?_ (List.forall_mem_map.2 ih)
      rwa [List.map_map]

theorem isJson_mapping_nil : (mapping []).IsJson :=
  isJson_iff.2 ⟨.object [], by simp, rfl⟩

/-! ## Entries -/

theorem entriesOfJson_eq_ok_iff {j : Json} {es : List (Value × Value)} :
    entriesOfJson j = .ok es ↔ readJson j = .ok (mapping es) := by
  cases j with
  | object ms =>
    rw [readJson, Outcome.map_eq_ok]
    refine ⟨fun h => ⟨es, h, rfl⟩, ?_⟩
    rintro ⟨_, h, ⟨⟩⟩
    exact h
  | array js =>
    rw [readJson, Outcome.map_eq_ok]
    exact ⟨nofun, nofun⟩
  | _ => exact ⟨nofun, nofun⟩

/-- **The entries that JSON can hold are those that are read of it.** -/
theorem exists_entriesOfJson_iff {es : List (Value × Value)} :
    (∃ j, entriesOfJson j = .ok es) ↔ (mapping es).IsJson := by
  simp only [entriesOfJson_eq_ok_iff, readJson_eq_ok_iff, isJson_iff]

/-- **Entries that JSON can hold are written as members that are read as these entries.** -/
theorem exists_entriesToJson {es : List (Value × Value)} (h : (mapping es).IsJson) :
    ∃ ms, entriesToJson es = .ok ms ∧ entriesOfJson (.object ms) = .ok es ∧
      (ms = [] → [] = es) := by
  obtain ⟨j, hj, hes⟩ := isJson_iff.1 h
  cases j with
  | object ms =>
    have hwrite : toJson (mapping es) = .ok (.object ms) := hes ▸ toJson_toValue (.object ms)
    rw [toJson, Outcome.bind_eq_ok] at hwrite
    obtain ⟨_, hwrite, ⟨⟩⟩ := hwrite
    refine ⟨ms, hwrite, entriesOfJson_eq_ok_iff.2 (readJson_eq_ok_iff.2 ⟨hj, hes⟩), fun hnone => ?_⟩
    rw [hnone] at hes
    exact mapping.inj hes
  | _ => exact nomatch hes

end Value

end Deployment
