import Mathlib.Data.List.Find
import Deployment.Compilation
import Deployment.Proofs.Document
import Deployment.Proofs.Template.Unresolved

/-!
# Proofs/Template/Mentioned — names that a skeleton mentions

Rendering looks up the names in the tokens of the skeleton and no others: bindings that agree on
these give the same document or the same error (`fillSkeleton_congr`).  A skeleton without a token
is filled to itself, so it is read as any other manifest is (`fillSkeleton_of_tokensIn_eq_nil`).
`render_of_mentioned` says both of templates.
-/

namespace Deployment.Template

/-! ## Bindings that agree

What is not mentioned cannot matter: each step of filling looks up tokens of the skeleton only. -/

/-- **Whether names are bound alike** where tokens mention them. -/
def AgreeOn (ts : List Token) (a b : Bindings) : Prop :=
  ∀ tok ∈ ts, a.get? tok.name = b.get? tok.name

section

variable {a b : Bindings}

theorem unboundIn?_congr {v : Value} (h : AgreeOn (tokensIn v) a b) :
    unboundIn? a v = unboundIn? b v := by
  rw [unboundIn?_eq_find?, unboundIn?_eq_find?]
  exact List.find?_congr fun tok htok => by rw [h tok htok]

/-- Whether filling a value is the same with either bindings, wherever it stands. -/
def FillsSame (a b : Bindings) (v : Value) : Prop :=
  ∀ level, fillValue a level v = fillValue b level v

theorem fillItems_congr {items : List Value} (h : ∀ v ∈ items, FillsSame a b v) :
    fillItems a items = fillItems b items := by
  induction items with
  | nil => rfl
  | cons v vs ih =>
    rw [List.forall_mem_cons] at h
    rw [fillItems, fillItems, h.1 .nested, ih h.2]

theorem fillEntries_congr {level : Level} {earlier : List Value} {es : List (Value × Value)}
    (h : ∀ e ∈ es, FillsSame a b e.1 ∧ FillsSame a b e.2) :
    fillEntries a level earlier es = fillEntries b level earlier es := by
  induction es generalizing earlier with
  | nil => rfl
  | cons e es ih =>
    obtain ⟨k, v⟩ := e
    rw [List.forall_mem_cons] at h
    obtain ⟨⟨hk, hv⟩, hes⟩ := h
    -- the level of the value hangs on the key as it is filled, which is the same on both sides
    simp only [fillEntries, hk .nested, hv _, ih hes]

/-- **A value is filled alike with bindings that agree on its tokens**, or refused for the same
key. -/
theorem fillValue_congr {v : Value} (h : AgreeOn (tokensIn v) a b) : FillsSame a b v := by
  induction v using Value.induct with
  | null => exact fun _ => rfl
  | bool b => exact fun _ => rfl
  | number n => exact fun _ => rfl
  | string s =>
    intro level
    rw [fillValue, fillValue, fill_congr fun tok htok => h tok ?_]
    rwa [tokensIn, Value.texts, List.flatMap_singleton]
  | sequence items ih =>
    intro level
    rw [AgreeOn, tokensIn_sequence, List.forall_mem_flatMap] at h
    rw [fillValue, fillValue, fillItems_congr fun v hv => ih v hv (h v hv)]
  | mapping es ih =>
    intro level
    rw [AgreeOn, tokensIn_mapping, List.forall_mem_flatMap] at h
    rw [fillValue, fillValue, fillEntries_congr fun e he => ?_]
    obtain ⟨hkey, hvalue⟩ := List.forall_mem_append.1 (h e he)
    exact ⟨(ih e he).1 hkey, (ih e he).2 hvalue⟩
  | tagged tag v ih =>
    intro level
    rw [fillValue, fillValue, ih h level]

/-- **Bindings that agree on the tokens of a skeleton make the same document of it**, or the same
error. -/
theorem fillSkeleton_congr {skeleton : Value} (h : AgreeOn (tokensIn skeleton) a b) :
    fillSkeleton skeleton a = fillSkeleton skeleton b := by
  rw [fillSkeleton, fillSkeleton, unboundIn?_congr h, fillValue_congr h]

end

/-! ## Skeletons without a token

A text without a token is filled to itself, so such a skeleton is read as a manifest is. -/

/-- A text without tokens is filled to itself. -/
theorem fill_of_tokens_eq_nil {values : Bindings} {s : String} (h : tokens s = []) :
    fill values s = s := by
  have hpieces : ∀ p ∈ pieces s.toList, p.fill values = p.chars := fun p hp => by
    cases p with
    | char c => rfl
    | token t =>
      have ht : t ∈ tokens s := List.mem_filterMap.2 ⟨_, hp, rfl⟩
      exact absurd ht (h ▸ List.not_mem_nil)
  rw [fill, List.flatMap_congr hpieces, flatMap_chars_pieces, String.ofList_toList]

/-- A value without a token stays as it is. -/
theorem filled_of_tokensIn_eq_nil {values : Bindings} {v : Value} (h : tokensIn v = []) :
    filled values v = v :=
  Value.mapText_eq_self fun s hs =>
    fill_of_tokens_eq_nil (List.flatMap_eq_nil_iff.1 h s hs)

/-- **A skeleton without a token is read as the manifest that it is.** -/
theorem fillSkeleton_of_tokensIn_eq_nil {skeleton : Value} (h : tokensIn skeleton = [])
    (hapart : skeleton.KeysApart) (values : Bindings) :
    fillSkeleton skeleton values = Document.ofValue skeleton := by
  have hunbound : unboundIn? values skeleton = none := by
    rw [unboundIn?_eq_find?, h, List.find?_nil]
  have hfilled : fillValue values .root skeleton = .ok skeleton := by
    rw [isFilled values skeleton .root, filled_of_tokensIn_eq_nil h]
    exact ⟨hapart, rfl⟩
  rw [fillSkeleton, hunbound, hfilled]
  rfl

/-! ## Rendering -/

/-- **What a template renders to depends on its skeleton and on what the names that this mentions
are bound to**, and where it mentions none, the template is a manifest.  As in any document that was
read, no mapping of the skeleton has the same key twice. -/
theorem render_of_mentioned {t : Template} {supplied r : Bindings}
    (h : t.resolve supplied = .ok r) :
    (∀ (u : Template) (given q : Bindings), u.skeleton = t.skeleton → u.resolve given = .ok q →
        AgreeOn (tokensIn t.skeleton) q r → u.render given = t.render supplied) ∧
      (tokensIn t.skeleton = [] → t.skeleton.KeysApart →
        t.render supplied = Document.ofValue t.skeleton ∧
          ∀ text m settings, Yaml.read text = .ok t.skeleton →
            Descriptor.ofTemplate t supplied m settings =
              Descriptor.ofManifest text m settings) := by
  refine ⟨fun u given q hskeleton hu hagree => ?_, fun htokens hapart => ?_⟩
  · rw [render_eq_fillSkeleton h, render_eq_fillSkeleton hu, hskeleton, fillSkeleton_congr hagree]
  · have hrender : t.render supplied = Document.ofValue t.skeleton :=
      (render_eq_fillSkeleton h).trans (fillSkeleton_of_tokensIn_eq_nil htokens hapart r)
    refine ⟨hrender, fun text m settings htext => ?_⟩
    simp only [Descriptor.ofTemplate, Descriptor.ofManifest, hrender, Document.ofText_of_read htext]

/-- A template with a service under a name that has a token or none, and with given variables. -/
def stall (service : String) (declared : List Variable) : Template where
  id := "stall"
  name := "Stall"
  category := .static
  skeleton := .mapping [(.string "services", .mapping [(.string service, .null)])]
  declared

/-- A default and a supplied text lead to the same manifest, and a variable that is not mentioned
does not matter. -/
theorem render_stall :
    (stall "\x7b\x7bgoods\x7d\x7d" [{ name := "goods", fallback := some "tea" }]).render {} =
        (stall "\x7b\x7bgoods\x7d\x7d" [{ name := "pin", type := .password }]).render
          (.ofList [("goods", "tea"), ("pin", "1234")]) ∧
      (stall "web" []).render {} = Document.ofValue (stall "web" []).skeleton := by
  have ht : (stall "\x7b\x7bgoods\x7d\x7d" [{ name := "pin", type := .password }]).resolve
      (.ofList [("goods", "tea"), ("pin", "1234")]) =
      .ok (.ofList [("goods", "tea"), ("pin", "1234")]) := by decide +kernel
  have hu : (stall "\x7b\x7bgoods\x7d\x7d" [{ name := "goods", fallback := some "tea" }]).resolve
      {} = .ok (.ofList [("goods", "tea")]) := by decide +kernel
  have hplain : (stall "web" []).resolve {} = .ok {} := rfl
  refine ⟨(render_of_mentioned ht).1 _ _ _ rfl hu ?_, ((render_of_mentioned hplain).2 ?_ ?_).1⟩
  · rw [AgreeOn]
    decide +kernel
  · decide +kernel
  · simp [stall, Value.keysApart_mapping_iff, Value.KeysApart.string, Value.KeysApart.null,
      Entries.Apart]

end Deployment.Template
