import Deployment.Json.Decode
import Deployment.Proofs.Outcome

/-!
# Proofs/Json/Decode — what decoders accept

One lemma for each decoder says which values it takes and what it makes of them, such as
`Decode.list_eq_ok_iff`.  Fields look at the members under their names and at nothing else
(`named`), so what a record takes is said field by field (`Fields.reads_seq_iff`), wherever the
members stand.
-/

namespace Deployment.Json

variable {α β : Type}

/-- Saying where an error lies changes no success. -/
theorem inside_eq_ok_iff {i : Nat} {x : Except Flaw α} {a : α} :
    inside i x = .ok a ↔ x = .ok a := by
  cases x with
  | error f => exact ⟨nofun, nofun⟩
  | ok b => exact Iff.rfl

/-! ## Values

One statement for each decoder says exactly what it accepts, and with which value. Decoders that are
put together have theirs put together. -/

namespace Decode

theorem map_eq_ok_iff {d : Decode α} {f : α → β} {j : Json} {b : β} :
    (f <$> d).run j = .ok b ↔ ∃ a, d j = .ok a ∧ f a = b := Outcome.map_eq_ok

theorem refine_eq_ok_iff {d : Decode α} {step : α → Except FlawKind β} {j : Json} {b : β} :
    d.refine step j = .ok b ↔ ∃ a, d j = .ok a ∧ step a = .ok b := by
  refine Outcome.bind_eq_ok.trans (exists_congr fun a => and_congr_right fun _ => ?_)
  cases step a with
  | error kind => exact ⟨nofun, nofun⟩
  | ok c => exact ⟨fun h => congrArg _ (Except.ok.inj h), fun h => congrArg _ (Except.ok.inj h)⟩

/-- Where a text is expected nothing else is read. -/
theorem textFor_eq_ok_iff {expected s : String} {j : Json} :
    textFor expected j = .ok s ↔ j = .string s := by
  cases j with
  | string t => exact Outcome.pure_eq_ok.trans (string.injEq t s).symm.to_iff
  | _ => exact ⟨nofun, nofun⟩

theorem text_eq_ok_iff {s : String} {j : Json} : text j = .ok s ↔ j = .string s :=
  textFor_eq_ok_iff

/-- **A port is a natural number of 16 bits.** -/
theorem port_eq_ok_iff {n : Nat} {j : Json} : port j = .ok n ↔ n < 65536 ∧ j = .nat n := by
  have hbound : Nat.pow 2 16 = 65536 := rfl
  cases j with
  | number m =>
    cases m with
    | int i =>
      change (if 0 ≤ i ∧ i < Nat.pow 2 16 then pure i.toNat else flaw _) = _ ↔ _
      rw [hbound, nat, int, number.injEq, Number.int.injEq]
      split
      · rw [Outcome.pure_eq_ok]
        omega
      · refine ⟨nofun, fun h => ?_⟩
        omega
    | float x => exact ⟨nofun, nofun⟩
  | _ => exact ⟨nofun, nofun⟩

theorem items_eq_ok_iff {d : Decode α} {i : Nat} {js : List Json} {as : List α} :
    items d i js = .ok as ↔ List.Forall₂ (fun j a => d j = .ok a) js as := by
  induction js generalizing i as with
  | nil => rw [items, Outcome.pure_eq_ok, List.forall₂_nil_left_iff, eq_comm]
  | cons j js ih =>
    simp only [items, Outcome.bind_eq_ok, inside_eq_ok_iff, Outcome.pure_eq_ok, ih,
      List.forall₂_cons_left_iff]
    constructor
    · rintro ⟨a, ha, as, has, rfl⟩
      exact ⟨a, as, ha, has, rfl⟩
    · rintro ⟨a, as, ha, has, rfl⟩
      exact ⟨a, ha, as, has, rfl⟩

/-- **A list is an array of what its items are.** -/
theorem list_eq_ok_iff {d : Decode α} {j : Json} {as : List α} :
    list d j = .ok as ↔ ∃ js, j = .array js ∧ List.Forall₂ (fun j a => d j = .ok a) js as := by
  cases j with
  | array js =>
    refine items_eq_ok_iff.trans ⟨fun h => ⟨js, rfl, h⟩, ?_⟩
    rintro ⟨_, ⟨⟩, h⟩
    exact h
  | _ => exact ⟨nofun, nofun⟩

/-- A list that was written item by item is read so. -/
theorem list_map {d : Decode α} {f : α → Json} {as : List α} (h : ∀ a ∈ as, d (f a) = .ok a) :
    list d (.array (as.map f)) = .ok as :=
  list_eq_ok_iff.2 ⟨_, rfl, List.forall₂_map_left_iff.2 (List.forall₂_same.2 h)⟩

/-- **What holds of all that its items are read as holds of the items of a list.** -/
theorem forall_mem_of_list {d : Decode α} {p : α → Prop} (hp : ∀ j a, d j = .ok a → p a) {j : Json}
    {as : List α} (h : list d j = .ok as) : ∀ a ∈ as, p a := by
  obtain ⟨js, -, has⟩ := list_eq_ok_iff.1 h
  intro a ha
  obtain ⟨i, -, hi⟩ := Outcome.exists_of_forall₂_of_mem has ha
  exact hp i a hi

/-- The members of an object are read one by one, and keep their names. -/
theorem members_eq_ok_iff {d : Decode α} {i : Nat} {ms : List (String × Json)}
    {as : List (String × α)} :
    members d i ms = .ok as ↔ List.Forall₂ (fun m a => m.1 = a.1 ∧ d m.2 = .ok a.2) ms as := by
  induction ms generalizing i as with
  | nil => rw [members, Outcome.pure_eq_ok, List.forall₂_nil_left_iff, eq_comm]
  | cons m ms ih =>
    simp only [members, Outcome.bind_eq_ok, inside_eq_ok_iff, Outcome.pure_eq_ok, ih,
      List.forall₂_cons_left_iff]
    constructor
    · rintro ⟨a, ha, as, has, rfl⟩
      exact ⟨(m.1, a), as, ⟨rfl, ha⟩, has, rfl⟩
    · rintro ⟨⟨name, a⟩, as, ⟨rfl, ha⟩, has, rfl⟩
      exact ⟨a, ha, as, has, rfl⟩

/-- **Pairs are the members of an object**, in their order. -/
theorem pairs_eq_ok_iff {d : Decode α} {j : Json} {as : List (String × α)} :
    pairs d j = .ok as ↔
      ∃ ms, j = .object ms ∧ List.Forall₂ (fun m a => m.1 = a.1 ∧ d m.2 = .ok a.2) ms as := by
  cases j with
  | object ms =>
    refine members_eq_ok_iff.trans ⟨fun h => ⟨ms, rfl, h⟩, ?_⟩
    rintro ⟨_, ⟨⟩, h⟩
    exact h
  | _ => exact ⟨nofun, nofun⟩

/-- A value that may be missing is read if it is there. -/
theorem optional_eq_ok_some_iff {d : Decode α} {j : Json} {a : α} :
    Decode.optional d j = .ok (some a) ↔ j ≠ .null ∧ d j = .ok a := by
  cases j with
  | null => exact ⟨nofun, fun h => absurd rfl h.1⟩
  | _ =>
    refine Outcome.map_eq_ok.trans ⟨?_, fun h => ⟨a, h.2, rfl⟩⟩
    rintro ⟨_, h, ⟨⟩⟩
    exact ⟨nofun, h⟩

/-- Only `null` is read as missing. -/
theorem optional_eq_ok_none_iff {d : Decode α} {j : Json} :
    Decode.optional d j = .ok none ↔ j = .null := by
  cases j with
  | null => exact ⟨fun _ => rfl, fun _ => rfl⟩
  | _ =>
    refine ⟨fun h => ?_, nofun⟩
    obtain ⟨_, -, hsome⟩ := Outcome.map_eq_ok.1 h
    exact nomatch hsome

end Decode

/-! ## Fields

A member with none of the names is passed over, and a second member of one name is an error. So a
field is read by the list of the values under its names. -/

/-- The values of the members with one of the names, in their order. -/
def named (names : List String) (ms : List (String × Json)) : List Json :=
  (ms.filter fun m => names.contains m.1).map Prod.snd

@[simp] theorem named_nil (names : List String) : named names [] = [] := rfl

@[simp] theorem named_cons (names : List String) (name : String) (j : Json)
    (ms : List (String × Json)) :
    named names ((name, j) :: ms) =
      if name ∈ names then j :: named names ms else named names ms := by
  by_cases h : name ∈ names <;> simp [named, h]

@[simp] theorem named_append (names : List String) (ms ns : List (String × Json)) :
    named names (ms ++ ns) = named names ms ++ named names ns := by
  simp [named]

@[simp] theorem named_toList_map {α : Type} (names : List String) (name : String) (f : α → Json)
    (o : Option α) :
    named names (o.map fun a => (name, f a)).toList =
      if name ∈ names then (o.map f).toList else [] := by
  cases o <;> simp

@[simp] theorem named_unless {p : Prop} [Decidable p] (names : List String) (name : String)
    (j : Json) :
    named names (if p then [] else [(name, j)]) =
      if name ∈ names then (if p then [] else [j]) else [] := by
  split <;> simp

/-- The occurrences of a field are the values under its names. -/
theorem map_snd_occurrences (names : List String) (i : Nat) (ms : List (String × Json)) :
    (Fields.occurrences names i ms).map Prod.snd = named names ms := by
  induction ms generalizing i with
  | nil => rfl
  | cons m ms ih =>
    obtain ⟨name, j⟩ := m
    rw [Fields.occurrences, named_cons]
    by_cases h : name ∈ names
    · rw [if_pos (List.contains_iff_mem.2 h), if_pos h, List.map_cons, ih]
    · rw [if_neg (by simpa using h), if_neg h, ih]

namespace Fields

variable {ms : List (String × Json)} {name : String} {a : α}

/-- Whether fields read a result from the members of an object. -/
def Reads (fields : Fields α) (ms : List (String × Json)) (a : α) : Prop := fields.run ms = .ok a

theorem reads_pure (a : α) (ms : List (String × Json)) : (pure a : Fields α).Reads ms a := rfl

/-- **Fields next to each other read what each of them reads.** -/
theorem reads_seq_iff {f : Fields (α → β)} {x : Fields α} {b : β} :
    (f <*> x).Reads ms b ↔ ∃ g a, f.Reads ms g ∧ x.Reads ms a ∧ g a = b := by
  unfold Reads
  cases hf : f.run ms <;> cases hx : x.run ms <;> simp [Seq.seq, hf, hx]

/-- A field that is changed afterwards is read as it was. -/
theorem reads_map_iff {f : α → β} {x : Fields α} {b : β} :
    (f <$> x).Reads ms b ↔ ∃ a, x.Reads ms a ∧ f a = b := by
  refine (reads_seq_iff (f := pure f)).trans ⟨?_, fun ⟨a, ha, h⟩ => ⟨f, a, reads_pure f ms, ha, h⟩⟩
  rintro ⟨_, a, ⟨⟩, ha, h⟩
  exact ⟨a, ha, h⟩

/-- **A field reads the one member under its names**, or has a value of its own. -/
theorem reads_field_iff {aliases : List String} {missing : Except FlawKind α} {d : Decode α} :
    (field name aliases missing d).Reads ms a ↔
      (named (name :: aliases) ms = [] ∧ missing = .ok a) ∨
        ∃ j, named (name :: aliases) ms = [j] ∧ d j = .ok a := by
  unfold Reads
  rw [field, ← map_snd_occurrences _ 0]
  dsimp only
  rcases occurrences (name :: aliases) 0 ms with _ | ⟨⟨i, j⟩, more⟩
  · rw [Outcome.mapError_eq_ok]
    simp
  · cases hd : d j with
    | error f => cases more <;> simp [inside, hd]
    | ok b =>
      cases more with
      | nil => simp [inside, hd]
      | cons m more => simp [inside, hd]

/-- A field that is required stands there once. -/
theorem reads_required_iff {d : Decode α} :
    (required name d).Reads ms a ↔ ∃ j, named [name] ms = [j] ∧ d j = .ok a :=
  reads_field_iff.trans (or_iff_right nofun)

/-- A field with a default stands there once or not at all. -/
theorem reads_defaulted_iff {a₀ : α} {d : Decode α} :
    (defaulted name a₀ d).Reads ms a ↔
      (named [name] ms = [] ∧ a₀ = a) ∨ ∃ j, named [name] ms = [j] ∧ d j = .ok a := by
  refine reads_field_iff.trans (or_congr_left (and_congr_right fun _ => ?_))
  exact ⟨Except.ok.inj, congrArg _⟩

theorem Reads.map {f : α → β} {x : Fields α} (h : x.Reads ms a) : (f <$> x).Reads ms (f a) :=
  reads_map_iff.2 ⟨a, h, rfl⟩

/-- Fields are read side by side, each from all members. -/
theorem Reads.seq {f : Fields (α → β)} {x : Fields α} {g : α → β} (hf : f.Reads ms g)
    (hx : x.Reads ms a) : (f <*> x).Reads ms (g a) :=
  reads_seq_iff.2 ⟨g, a, hf, hx, rfl⟩

/-- A member that stands there once is read. -/
theorem Reads.required {d : Decode α} (j : Json) (hname : named [name] ms = [j])
    (h : d j = .ok a) : (Fields.required name d).Reads ms a :=
  reads_required_iff.2 ⟨j, hname, h⟩

/-- **A member may be left out where its value is that of a missing member.** -/
theorem Reads.defaulted (p : Prop) [Decidable p] {d : Decode α} {a₀ : α} (j : Json)
    (hname : named [name] ms = if p then [] else [j]) (hp : p → a₀ = a) (h : d j = .ok a) :
    (Fields.defaulted name a₀ d).Reads ms a := by
  refine reads_defaulted_iff.2 ?_
  by_cases hleft : p
  · exact Or.inl ⟨hname.trans (if_pos hleft), hp hleft⟩
  · exact Or.inr ⟨j, hname.trans (if_neg hleft), h⟩

/-- **A member may be left out where there is no value**, for none is written as null. -/
theorem Reads.optional {d : Decode α} (f : α → Json) {o : Option α}
    (hname : named [name] ms = (o.map f).toList) (h : ∀ a ∈ o, f a ≠ .null ∧ d (f a) = .ok a) :
    (Fields.optional name d).Reads ms o := by
  refine reads_defaulted_iff.2 ?_
  cases o with
  | none => exact Or.inl ⟨hname, rfl⟩
  | some a => exact Or.inr ⟨f a, hname, Decode.optional_eq_ok_some_iff.2 (h a rfl)⟩

/-- A text that is written where there is one is read where there is one. -/
theorem Reads.optionalText {text? : Option String}
    (hname : named [name] ms = (text?.map Json.string).toList) :
    (Fields.optional name Decode.text).Reads ms text? :=
  .optional Json.string hname fun _ _ => ⟨nofun, rfl⟩

end Fields

/-! ## Records -/

/-- The members of an object, or the items of an array under names in their order. -/
def membersFor (names : List String) : Json → List (String × Json)
  | object ms => ms
  | array js => names.zip js
  | _ => []

namespace Decode

/-- A record is read when its fields are. -/
theorem record_object_iff {name : String} {fields : Fields α} {ms : List (String × Json)} {a : α} :
    record name fields (.object ms) = .ok a ↔ fields.Reads ms a := Outcome.mapError_eq_ok

/-- **A record is made by its fields**, from the members of an object or the items of an array. -/
theorem reads_of_record {name : String} {fields : Fields α} {j : Json} {a : α}
    (h : record name fields j = .ok a) : fields.Reads (j.membersFor fields.names) a := by
  cases j with
  | object ms => exact record_object_iff.1 h
  | array js =>
    simp only [record] at h
    split at h
    · rename_i b hb
      split at h
      · exact nomatch h
      · rw [← Except.ok.inj h]
        exact hb
    · split at h <;> exact nomatch h
  | _ => exact nomatch h

/-- **A variant is told by its member**, and its fields read the others. -/
theorem tagged_object {tag name : String} {variants : List (String × Fields α)}
    {fields : Fields α} {ms : List (String × Json)} {a : α} (hnew : named [tag] ms = [])
    (hlookup : variants.lookup name = some fields) (h : fields.Reads ms a) :
    tagged tag variants (.object ((tag, .string name) :: ms)) = .ok a := by
  have hmem : ∀ m ∈ ms, m.1 ≠ tag := by simpa [named] using hnew
  have hocc : Fields.occurrences [tag] 1 ms = [] := by
    rwa [← List.map_eq_nil_iff (f := Prod.snd), map_snd_occurrences]
  have hwithout : withoutMember tag ((tag, .string name) :: ms) = ms := by
    simpa [withoutMember] using hmem
  simp only [tagged, Fields.occurrences, hocc, List.contains_cons, BEq.rfl, Bool.true_or, if_true,
    hwithout, hlookup]
  exact record_object_iff.2 h

end Decode

/-! ## Texts -/

/-- Whether a text is read as a JSON value, as far as a shape looks. -/
structure ReadsAs (shape : Shape) (text : String) (j : Json) : Prop where
  value : (Document.ofText shape text).value = j
  whole : (Document.ofText shape text).fault? = none

/-- **A text gives what its JSON value gives.** -/
theorem decodeText_of_readsAs {d : Decode α} {text : String} {j : Json} {a : α}
    (h : ReadsAs d.shape text j) (hd : d j = .ok a) : decodeText d text = .ok a := by
  simp only [decodeText, h.value, h.whole, hd]

end Deployment.Json
