/-!
# Value/Entries — associations in order of insertion

An association is a list of keys with values. Looking a key up finds its first entry, and
inserting under a key that is present replaces the value and keeps the entry's place and key. A
list built by insertion alone holds every key once (`pairwise_insert`). What counts as the same
key is a parameter, since the keys of a document have an equality of their own.
-/

namespace Deployment.Entries

variable {κ α : Type}

/-- Texts as keys: two are the same key if they are the same text. -/
def sameText (a b : String) : Bool := a == b

/-- Texts that are pairwise not the same key are distinct. -/
theorem nodup_iff_pairwise_sameText {keys : List String} :
    keys.Nodup ↔ keys.Pairwise fun x y => sameText x y = false := by
  simp [List.Nodup, sameText]

/-- The value of the first entry under a key. -/
def find? (same : κ → κ → Bool) (k : κ) : List (κ × α) → Option α
  | [] => none
  | (k', a) :: es => if same k' k then some a else find? same k es

/-- Whether an entry stands under a key. -/
def has (same : κ → κ → Bool) (k : κ) (es : List (κ × α)) : Bool := es.any fun e => same e.1 k

/-- Put a value under a key: in the place of its entry, or as the last entry. -/
def insert (same : κ → κ → Bool) (k : κ) (a : α) : List (κ × α) → List (κ × α)
  | [] => [(k, a)]
  | (k', a') :: es => if same k' k then (k', a) :: es else (k', a') :: insert same k a es

/-- The entries inserted one after the other. -/
def ofList (same : κ → κ → Bool) (es : List (κ × α)) : List (κ × α) :=
  es.foldl (fun acc e => insert same e.1 e.2 acc) []

theorem find?_eq_none_iff {same : κ → κ → Bool} {k : κ} {es : List (κ × α)} :
    find? same k es = none ↔ has same k es = false := by
  induction es with
  | nil => simp [find?, has]
  | cons e es ih =>
    by_cases h : same e.1 k = true
    · simp [find?, has, h]
    · simpa [find?, has, h] using ih

/-- **A key that is absent goes to the end**, and the entries before it stay as they are. -/
theorem insert_of_has_eq_false {same : κ → κ → Bool} {k : κ} {a : α} {es : List (κ × α)}
    (h : has same k es = false) : insert same k a es = es ++ [(k, a)] := by
  induction es with
  | nil => rfl
  | cons e es ih =>
    simp only [has, List.any_cons, Bool.or_eq_false_iff] at h
    simp only [insert, h.1, Bool.false_eq_true, if_false, List.cons_append]
    rw [ih h.2]

/-- A key that is present keeps every entry's key in its place. -/
theorem keys_insert_of_has {same : κ → κ → Bool} {k : κ} {a : α} {es : List (κ × α)}
    (h : has same k es = true) : (insert same k a es).map Prod.fst = es.map Prod.fst := by
  induction es with
  | nil => simp [has] at h
  | cons e es ih =>
    by_cases he : same e.1 k = true
    · simp [insert, he]
    · have : has same k es = true := by simpa [has, he] using h
      simp only [insert, he, if_false, List.map_cons, Bool.false_eq_true]
      rw [ih this]

/-- The entry just inserted is found. -/
theorem find?_insert_self {same : κ → κ → Bool} {k : κ} {a : α} {es : List (κ × α)}
    (hk : same k k = true) : find? same k (insert same k a es) = some a := by
  induction es with
  | nil => simp [insert, find?, hk]
  | cons e es ih =>
    by_cases he : same e.1 k = true
    · simp [insert, find?, he]
    · simp [insert, find?, he, ih]

theorem mem_keys_insert {same : κ → κ → Bool} {k x : κ} {a : α} {es : List (κ × α)}
    (h : x ∈ (insert same k a es).map Prod.fst) : x ∈ es.map Prod.fst ∨ x = k := by
  by_cases hk : has same k es = true
  · rw [keys_insert_of_has hk] at h
    exact Or.inl h
  · rw [insert_of_has_eq_false (by simpa using hk)] at h
    simpa using h

/-- **Insertion keeps the keys distinct.** -/
theorem pairwise_insert {same : κ → κ → Bool} {k : κ} {a : α} {es : List (κ × α)}
    (h : (es.map Prod.fst).Pairwise fun x y => same x y = false) :
    ((insert same k a es).map Prod.fst).Pairwise fun x y => same x y = false := by
  by_cases hk : has same k es = true
  · rwa [keys_insert_of_has hk]
  · have hk : has same k es = false := by simpa using hk
    rw [insert_of_has_eq_false hk, List.map_append, List.pairwise_append]
    refine ⟨h, by simp, fun x hx y hy => ?_⟩
    obtain ⟨e, he, rfl⟩ := List.mem_map.1 hx
    obtain rfl : y = k := by simpa using hy
    simp only [has, List.any_eq_false] at hk
    simpa using hk e he

end Deployment.Entries
