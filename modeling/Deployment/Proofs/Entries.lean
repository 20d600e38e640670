import Mathlib.Data.List.Nodup
import Mathlib.Data.List.Pairwise
import Deployment.Bindings
import Deployment.TextMap

/-!
# Proofs/Entries — associations and sets that are built again

What an association holds is put back by inserting its entries one after the other
(`Entries.foldl_insert`), and so are texts under texts (`TextMap.ofList_entries`) and sets of names
(`NameSet.foldl_insert_names`).  Of entries with the same key, the last one counts
(`TextMap.perm_entries_ofList`).  Where keys differ, what is found under a key does not depend on
the order (`Entries.find?_eq_some_iff_of_nodup`), so names are bound alike in any order
(`Bindings.ofList_of_perm`).  Names that are left out of bindings leave the others alone
(`Bindings.get?_without`).
-/

namespace Deployment

namespace Entries

/-- **Among elements with different keys, the one with a given key is found**, wherever it
stands. -/
theorem find?_eq_some_iff_of_nodup {α κ : Type} [BEq κ] [LawfulBEq κ] {key : α → κ} {as : List α}
    (h : (as.map key).Nodup) {k : κ} {a : α} :
    as.find? (fun a => key a == k) = some a ↔ a ∈ as ∧ key a = k := by
  constructor
  · intro hfind
    exact ⟨List.mem_of_find?_eq_some hfind, by simpa using List.find?_some hfind⟩
  · rintro ⟨ha, hk⟩
    cases hfind : as.find? fun a => key a == k with
    | none => exact absurd hk (by simpa using List.find?_eq_none.1 hfind a ha)
    | some b =>
      have hb : key b = k := by simpa using List.find?_some hfind
      rw [List.inj_on_of_nodup_map h (List.mem_of_find?_eq_some hfind) ha (hb.trans hk.symm)]

/-- **Among elements with different keys, what comes from those with a given key** comes from
one. -/
theorem flatMap_ite_of_nodup {α κ β : Type} [DecidableEq κ] {key : α → κ} {as : List α}
    (h : (as.map key).Nodup) {a : α} (ha : a ∈ as) (f : α → List β) :
    (as.flatMap fun b => if key b = key a then f b else []) = f a := by
  have hnil (bs : List α) (hbs : key a ∉ bs.map key) :
      (bs.flatMap fun b => if key b = key a then f b else []) = [] :=
    List.flatMap_eq_nil_iff.2 fun b hb => if_neg fun heq => hbs (List.mem_map.2 ⟨b, hb, heq⟩)
  obtain ⟨ahead, behind, rfl⟩ := List.append_of_mem ha
  rw [List.map_append, List.map_cons, List.nodup_middle, List.nodup_cons, List.mem_append,
    not_or] at h
  rw [List.flatMap_append, List.flatMap_cons, if_pos rfl, hnil ahead h.1.1, hnil behind h.1.2,
    List.append_nil, List.nil_append]

variable {κ α : Type} {same : κ → κ → Bool}

/-- Keys of which no earlier one is the same as a later one. -/
def Apart (same : κ → κ → Bool) (es : List (κ × α)) : Prop :=
  (es.map Prod.fst).Pairwise fun x y => same x y = false

theorem apart_cons_iff {e : κ × α} {es : List (κ × α)} :
    Apart same (e :: es) ↔ (∀ f ∈ es, same e.1 f.1 = false) ∧ Apart same es := by
  rw [Apart, List.map_cons, List.pairwise_cons, List.forall_mem_map, ← Apart]

/-- An insertion replaces a value or brings a new key, so keys stay apart. -/
theorem apart_insert {k : κ} {a : α} {es : List (κ × α)} (h : Apart same es) :
    Apart same (insert same k a es) := pairwise_insert h

/-- What holds of all keys holds after an insertion if it holds of the key inserted. -/
theorem forall_key_insert {p : κ → Prop} {k : κ} {a : α} {es : List (κ × α)}
    (hes : ∀ e ∈ es, p e.1) (hk : p k) : ∀ e ∈ insert same k a es, p e.1 := by
  intro e he
  rcases mem_keys_insert (List.mem_map_of_mem he) with hmem | heq
  · obtain ⟨f, hf, heq⟩ := List.mem_map.1 hmem
    rw [← heq]
    exact hes f hf
  · rwa [heq]

/-- A key is missing when it is none of the keys there. -/
theorem has_eq_false_iff {k : κ} {es : List (κ × α)} :
    has same k es = false ↔ ∀ e ∈ es, same e.1 k = false := by
  simp [has]

/-- What is found stands among the entries, under one of its keys. -/
theorem exists_mem_of_find?_eq_some {k : κ} {a : α} {es : List (κ × α)}
    (h : find? same k es = some a) : ∃ k', (k', a) ∈ es := by
  induction es with
  | nil => exact absurd h nofun
  | cons e es ih =>
    rw [find?] at h
    split at h
    · obtain rfl := Option.some.inj h
      exact ⟨e.1, List.mem_cons_self⟩
    · obtain ⟨k', hk'⟩ := ih h
      exact ⟨k', List.mem_cons_of_mem _ hk'⟩

/-- What is found in front is found, and else what is found behind. -/
theorem find?_append (k : κ) (es fs : List (κ × α)) :
    find? same k (es ++ fs) = (find? same k es).or (find? same k fs) := by
  induction es with
  | nil => exact Option.none_or.symm
  | cons e es ih =>
    rw [List.cons_append, find?, find?, ih]
    split <;> rfl

theorem find?_append_of_has_eq_false {k : κ} {es fs : List (κ × α)} (h : has same k es = false) :
    find? same k (es ++ fs) = find? same k fs := by
  rw [find?_append, find?_eq_none_iff.2 h, Option.none_or]

theorem sameText_iff {x y : String} : sameText x y = true ↔ x = y := beq_iff_eq

/-- Texts are the same when they are equal, so looking for a key is membership. -/
theorem has_sameText_iff {α : Type} {es : List (String × α)} {k : String} :
    has sameText k es = true ↔ k ∈ es.map Prod.fst := by
  simp [has, sameText]

theorem find?_sameText_eq_none_iff {α : Type} {es : List (String × α)} {k : String} :
    find? sameText k es = none ↔ k ∉ es.map Prod.fst := by
  rw [find?_eq_none_iff, ← has_sameText_iff, Bool.not_eq_true]

/-- **Among different texts, what stands under one is found.** -/
theorem find?_sameText_eq_some_iff {α : Type} {es : List (String × α)}
    (h : (es.map Prod.fst).Nodup) {k : String} {a : α} :
    find? sameText k es = some a ↔ (k, a) ∈ es := by
  induction es with
  | nil => simp [find?]
  | cons e es ih =>
    rw [List.map_cons, List.nodup_cons] at h
    rw [find?, List.mem_cons]
    by_cases hk : e.1 = k
    · have hnew : (k, a) ∉ es := fun ha => h.1 (List.mem_map.2 ⟨_, ha, hk.symm⟩)
      rw [if_pos (by simpa [sameText] using hk), or_iff_left hnew, Option.some.injEq, ← hk]
      exact ⟨fun ha => ha ▸ rfl, fun ha => (congrArg Prod.snd ha).symm⟩
    · have hne : (k, a) ≠ e := fun heq => hk (congrArg Prod.fst heq).symm
      rw [if_neg (by simpa [sameText] using hk), ih h.2, or_iff_right hne]

/-- **After an insertion the key has the value inserted**, and all others what they had. -/
theorem find?_insert_sameText {α : Type} {es : List (String × α)} {k x : String} {a : α} :
    find? sameText x (insert sameText k a es) = if k = x then some a else find? sameText x es := by
  induction es with
  | nil => simp only [insert, find?, sameText_iff]
  | cons e es ih =>
    by_cases hk : e.1 = k
    · simp only [insert, find?, sameText_iff, hk, if_true]
      split <;> rfl
    · simp only [insert, find?, sameText_iff, if_neg hk, ih]
      by_cases hx : e.1 = x
      · rw [if_pos hx, if_pos hx, if_neg fun h => hk (hx.trans h.symm)]
      · rw [if_neg hx, if_neg hx]

/-- The entries of which none behind has the same key. -/
def lasts {α : Type} (es : List (String × α)) : List (String × α) :=
  es.pwFilter fun e f => e.1 ≠ f.1

/-- No two of the last entries have the same key. -/
theorem nodup_keys_lasts {α : Type} (es : List (String × α)) :
    ((lasts es).map Prod.fst).Nodup :=
  List.pairwise_map.2 (List.pairwise_pwFilter es)

/-- Every entry is the last one under its key when keys are different. -/
theorem lasts_eq_self_iff {α : Type} {es : List (String × α)} :
    lasts es = es ↔ (es.map Prod.fst).Nodup :=
  List.pwFilter_eq_self.trans List.pairwise_map.symm

/-- **As many entries stand last as there are when their keys are different.** -/
theorem length_lasts_eq_iff {α : Type} {es : List (String × α)} :
    (lasts es).length = es.length ↔ (es.map Prod.fst).Nodup := by
  rw [← lasts_eq_self_iff]
  exact ⟨(List.pwFilter_sublist es).eq_of_length, congrArg List.length⟩

/-- What stands behind wins over the first entry, under the same key. -/
theorem find?_lasts_cons {α : Type} {e : String × α} {es : List (String × α)} {x : String} :
    find? sameText x (lasts (e :: es)) =
      (find? sameText x (lasts es)).or (if e.1 = x then some e.2 else none) := by
  by_cases h : ∀ f ∈ lasts es, e.1 ≠ f.1
  · rw [lasts, List.pwFilter_cons_of_pos h, ← lasts, find?]
    by_cases hx : e.1 = x
    · have hnone : find? sameText x (lasts es) = none :=
        find?_sameText_eq_none_iff.2 fun hmem => by
          obtain ⟨f, hf, hkey⟩ := List.mem_map.1 hmem
          exact h f hf (hx.trans hkey.symm)
      rw [hnone, Option.none_or, if_pos hx, if_pos (sameText_iff.2 hx)]
    · rw [if_neg hx, Option.or_none, if_neg (mt sameText_iff.1 hx)]
  · rw [lasts, List.pwFilter_cons_of_neg h, ← lasts]
    by_cases hx : e.1 = x
    · simp only [not_forall, not_not] at h
      obtain ⟨f, hf, hkey⟩ := h
      have hsome : find? sameText x (lasts es) = some f.2 :=
        (find?_sameText_eq_some_iff (nodup_keys_lasts es)).2 (by rwa [← hx, hkey])
      rw [hsome, Option.some_or]
    · rw [if_neg hx, Option.or_none]

/-- **New keys are put behind what is there, in their order.** -/
theorem foldl_insert {acc es : List (κ × α)} (hes : Apart same es)
    (hacc : ∀ a ∈ acc, ∀ e ∈ es, same a.1 e.1 = false) :
    es.foldl (fun acc e => insert same e.1 e.2 acc) acc = acc ++ es := by
  induction es generalizing acc with
  | nil => exact (List.append_nil acc).symm
  | cons e es ih =>
    rw [apart_cons_iff] at hes
    have hnew : has same e.1 acc = false :=
      has_eq_false_iff.2 fun a ha => hacc a ha e List.mem_cons_self
    rw [List.foldl_cons, insert_of_has_eq_false hnew, ih hes.2, List.append_assoc]
    · rfl
    · intro a ha f hf
      rcases List.mem_append.1 ha with ha | ha
      · exact hacc a ha f (List.mem_cons_of_mem e hf)
      · rw [List.mem_singleton.1 ha]
        exact hes.1 f hf

end Entries

namespace TextMap

open Entries (sameText)

theorem entries_ofList_of_nodup {es : List (String × String)} (h : (es.map Prod.fst).Nodup) :
    (ofList es).entries = es := by
  rw [entries_ofList]
  exact Entries.foldl_insert (Entries.nodup_iff_pairwise_sameText.1 h) fun _ => nofun

/-- Texts that are put under keys one after the other: the last one under a key is found. -/
theorem get?_foldl_insert (es : List (String × String)) (m : TextMap) (x : String) :
    (es.foldl (fun m e => m.insert e.1 e.2) m).get? x =
      (Entries.find? sameText x (Entries.lasts es)).or (m.get? x) := by
  induction es generalizing m with
  | nil => rfl
  | cons e es ih =>
    have hinsert : (m.insert e.1 e.2).get? x = if e.1 = x then some e.2 else m.get? x :=
      Entries.find?_insert_sameText
    rw [List.foldl_cons, ih, hinsert, Entries.find?_lasts_cons, Option.or_assoc]
    split <;> rfl

/-- **A map holds the last entry under each key.** -/
theorem perm_entries_ofList (es : List (String × String)) :
    (ofList es).entries.Perm (Entries.lasts es) := by
  have hlasts := Entries.nodup_keys_lasts es
  refine (List.perm_ext_iff_of_nodup (.of_map _ (ofList es).distinct) (.of_map _ hlasts)).2
    fun ⟨k, text⟩ => ?_
  rw [← Entries.find?_sameText_eq_some_iff (ofList es).distinct,
    ← Entries.find?_sameText_eq_some_iff hlasts]
  exact Eq.congr_left ((get?_foldl_insert es {} k).trans Option.or_none)

theorem ofList_entries (m : TextMap) : ofList m.entries = m :=
  ext_entries (entries_ofList_of_nodup m.distinct)

/-- A map has no other keys than those it is made of. -/
theorem mem_keys_ofList {es : List (String × String)} {key : String}
    (h : key ∈ (ofList es).keys) : key ∈ es.map Prod.fst := by
  have hfold : ∀ m : TextMap, key ∈ (es.foldl (fun m e => m.insert e.1 e.2) m).keys →
      key ∈ m.keys ∨ key ∈ es.map Prod.fst := by
    clear h
    induction es with
    | nil => exact fun m h => Or.inl h
    | cons e es ih =>
      intro m h
      rw [List.map_cons, List.mem_cons]
      rcases ih (m.insert e.1 e.2) h with h | h
      · rcases Entries.mem_keys_insert h with h | h
        · exact Or.inl h
        · exact Or.inr (Or.inl h)
      · exact Or.inr (Or.inr h)
  exact (hfold {} h).resolve_left nofun

/-- Among different keys each has the text that it was given with. -/
theorem get?_ofList_eq_some_iff {es : List (String × String)} (h : (es.map Prod.fst).Nodup)
    {key text : String} : (ofList es).get? key = some text ↔ (key, text) ∈ es := by
  rw [get?, entries_ofList_of_nodup h, Entries.find?_sameText_eq_some_iff h]

theorem get?_ofList_eq_none {es : List (String × String)} {key : String}
    (h : key ∉ es.map Prod.fst) : (ofList es).get? key = none := by
  rw [get?, Entries.find?_sameText_eq_none_iff]
  exact fun hmem => h (mem_keys_ofList hmem)

end TextMap

/-- A name after all others goes to the end. -/
theorem insertName_of_forall_lt {s : String} {ts : List String} (h : ∀ t ∈ ts, t < s) :
    insertName s ts = ts ++ [s] := by
  induction ts with
  | nil => rfl
  | cons t ts ih =>
    have ht : t < s := h t List.mem_cons_self
    have hne : s ≠ t := fun heq => String.lt_irrefl t (heq ▸ ht)
    rw [insertName, if_neg (String.lt_asymm ht), if_neg hne,
      ih fun u hu => h u (List.mem_cons_of_mem t hu), List.cons_append]

namespace NameSet

/-- **A set of names in a list has these names.** -/
theorem mem_ofList {names : List String} {x : String} : x ∈ ofList names ↔ x ∈ names := by
  have hfold : ∀ s : NameSet, x ∈ names.foldl insert s ↔ x ∈ s ∨ x ∈ names := by
    induction names with
    | nil => exact fun s => (or_iff_left List.not_mem_nil).symm
    | cons name names ih =>
      intro s
      rw [List.foldl_cons, ih, mem_insert, List.mem_cons]
      exact or_assoc.trans or_left_comm
  exact (hfold {}).trans (or_iff_right List.not_mem_nil)

theorem ext_names {s t : NameSet} (h : s.names = t.names) : s = t := by
  cases s
  cases t
  simpa using h

/-- Names that come in their order are put behind one another. -/
theorem foldl_insert_names {names : List String} {s : NameSet}
    (h : (s.names ++ names).Pairwise (· < ·)) :
    (names.foldl insert s).names = s.names ++ names := by
  induction names generalizing s with
  | nil => exact (List.append_nil s.names).symm
  | cons name names ih =>
    have hlast : (s.insert name).names = s.names ++ [name] :=
      insertName_of_forall_lt fun t ht =>
        (List.pairwise_append.1 h).2.2 t ht name List.mem_cons_self
    rw [List.foldl_cons, ih, hlast, List.append_assoc, List.singleton_append]
    rwa [hlast, List.append_assoc, List.singleton_append]

/-- **The names of a set make the set again.** -/
theorem ofList_names (s : NameSet) : ofList s.names = s :=
  ext_names (foldl_insert_names s.ascending)

end NameSet

namespace Bindings

open Entries (sameText)

/-- Names that are bound one after the other are bound to their texts, and all others as before. -/
theorem get?_foldl_insert {es : List (String × String)} (h : (es.map Prod.fst).Nodup) (b : Bindings)
    (x : String) :
    (es.foldl (fun b e => b.insert e.1 e.2) b).get? x =
      (Entries.find? sameText x es).or (b.get? x) := by
  induction es generalizing b with
  | nil => rfl
  | cons e es ih =>
    rw [List.map_cons, List.nodup_cons] at h
    rw [List.foldl_cons, ih h.2, get?_insert, Entries.find?]
    by_cases hx : x = e.1
    · subst hx
      simp [Entries.find?_sameText_eq_none_iff.2 h.1, sameText]
    · simp [hx, Ne.symm hx, sameText]

/-- **Names are bound alike in any order.** -/
theorem ofList_of_perm {es : List (String × String)} {b : Bindings} (h : es.Perm b.entries) :
    ofList es = b := by
  have hb : (b.entries.map Prod.fst).Nodup := b.ascending.imp String.ne_of_lt
  have hes : (es.map Prod.fst).Nodup := (h.map Prod.fst).nodup_iff.2 hb
  refine ext_get? fun x => ?_
  rw [ofList, get?_foldl_insert hes]
  refine (Option.or_none).trans (Option.ext fun text => ?_)
  rw [get?, Entries.find?_sameText_eq_some_iff hes, Entries.find?_sameText_eq_some_iff hb,
    h.mem_iff]

/-- Leaving names out keeps the others in their order. -/
theorem pairwise_without (b : Bindings) (names : List String) :
    ((b.entries.filter fun e => e.1 ∉ names).map Prod.fst).Pairwise (· < ·) :=
  b.ascending.sublist (List.filter_sublist.map Prod.fst)

/-- Bindings but for those of some names. -/
def without (b : Bindings) (names : List String) : Bindings :=
  ⟨b.entries.filter fun e => e.1 ∉ names, b.pairwise_without names⟩

/-- **Names that were left out are not bound, and all others are as they were.** -/
theorem get?_without {b : Bindings} {names : List String} {x : String} :
    (b.without names).get? x = if x ∈ names then none else b.get? x := by
  have hfind (es : List (String × String)) :
      Entries.find? Entries.sameText x (es.filter fun e => e.1 ∉ names) =
        if x ∈ names then none else Entries.find? Entries.sameText x es := by
    induction es with
    | nil => exact (ite_self none).symm
    | cons e es ih =>
      by_cases hmem : e.1 ∈ names
      · rw [List.filter_cons_of_neg (by simpa using hmem), ih, Entries.find?]
        by_cases hx : e.1 = x
        · rw [if_pos (hx ▸ hmem), if_pos (hx ▸ hmem)]
        · rw [if_neg (mt Entries.sameText_iff.1 hx)]
      · rw [List.filter_cons_of_pos (by simpa using hmem), Entries.find?, Entries.find?, ih]
        by_cases hx : e.1 = x
        · have hsame := Entries.sameText_iff.2 hx
          rw [if_pos hsame, if_pos hsame, if_neg (hx ▸ hmem)]
        · rw [if_neg (mt Entries.sameText_iff.1 hx), if_neg (mt Entries.sameText_iff.1 hx)]
  exact hfind b.entries

/-- A name that is put in is no longer one that is left out. -/
theorem insert_without (b : Bindings) (names : List String) (x text : String) :
    (b.without names).insert x text =
      (b.insert x text).without (names.filter (· ≠ x)) := by
  refine ext_get? fun y => ?_
  simp only [get?_insert, get?_without, List.mem_filter, decide_eq_true_eq]
  by_cases hy : y = x <;> simp [hy]

theorem without_nil (b : Bindings) : b.without [] = b :=
  ext_get? fun _ => get?_without.trans (if_neg List.not_mem_nil)

end Bindings

end Deployment
