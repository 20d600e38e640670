import Deployment.Proofs.Manifest.Kept

/-!
# Proofs/Manifest/Lists — the entries of lists of ports and of volumes

Each entry of a list is read, or is left out with a warning (`Sifted`), so ports and warnings
together are as many as the entries.  A body may hold several lists of ports, though, under keys
that spell the same name: the last one counts, and what was read of the others is lost without a
warning (`ListKept`).  `Document.lists_kept`: of every service, an entry of a list is lost if and
only if it is read and another list comes after it, and the warnings of a document are those of its
services in their order.
-/

namespace Deployment

namespace Manifest

/-! ## One list

Each item of a list is read, or it is reported in its place. -/

section

variable {α : Type} (read : Value → Option α) (warning : Value → Warning)

/-- The warnings about the entries of a list that are not read. -/
def rejected (items : List Value) : List Warning :=
  items.filterMap fun v => if (read v).isSome then none else some (warning v)

/-- **What becomes of the entries of a list**: in their order, each is kept as what it is read as,
or left out with its warning. -/
inductive Sifted : List Value → List α → List Warning → Prop
  | nil : Sifted [] [] []
  | keep {v : Value} {a : α} {items : List Value} {kept : List α} {ws : List Warning} :
    read v = some a → Sifted items kept ws → Sifted (v :: items) (a :: kept) ws
  | leaveOut {v : Value} {items : List Value} {kept : List α} {ws : List Warning} :
    read v = none → Sifted items kept ws → Sifted (v :: items) kept (warning v :: ws)

variable {read warning}

/-- **No entry is lost and none is counted twice.** -/
theorem Sifted.length_eq {items : List Value} {kept : List α} {ws : List Warning}
    (h : Sifted read warning items kept ws) : kept.length + ws.length = items.length := by
  induction h with
  | nil => rfl
  | keep _ _ ih =>
    rw [List.length_cons, List.length_cons, ← ih]
    omega
  | leaveOut _ _ ih =>
    rw [List.length_cons, List.length_cons, ← ih]
    omega

variable (read warning) in
/-- Reading what can be read and reporting the rest sifts a list. -/
theorem sifted_filterMap (items : List Value) :
    Sifted read warning items (items.filterMap read) (rejected read warning items) := by
  induction items with
  | nil => exact .nil
  | cons v items ih =>
    rw [rejected, List.filterMap_cons, List.filterMap_cons]
    cases hv : read v with
    | none => exact .leaveOut hv ih
    | some a => exact .keep hv ih

/-! ## Several lists

A key may stand there once plain and again behind a tag. The last list is the one that is read, and
the warnings of all of them are kept. -/

variable (read warning)

/-- **What becomes of lists of which the last one counts.** -/
structure ListKept (lists : List Value) (kept : List α) (ws : List Warning) : Prop where
  /-- Without a list there is nothing. -/
  unless_listed : lists = [] → kept = [] ∧ ws = []
  /-- The entries of the last list are kept or have a warning, after the warnings about those of the
  lists before it. -/
  last : ∀ earlier v, lists = earlier ++ [v] →
    ∃ rest, ws = (earlier.flatMap fun u => rejected read warning (listed u)) ++ rest ∧
      Sifted read warning (listed v) kept rest
  /-- No entry is lost if and only if no list before the last one has an entry that is read. -/
  whole_iff : kept.length + ws.length = (lists.flatMap listed).length ↔
    ∀ u ∈ lists.dropLast, ∀ item ∈ listed u, read item = none

variable {read warning}

variable (read warning) in
/-- Entries of several lists are read or have a warning. -/
theorem length_flatMap_listed (lists : List Value) :
    (lists.flatMap fun u => (listed u).filterMap read).length +
        (lists.flatMap fun u => rejected read warning (listed u)).length =
      (lists.flatMap listed).length := by
  induction lists with
  | nil => rfl
  | cons u lists ih =>
    have hu := (sifted_filterMap read warning (listed u)).length_eq
    simp only [List.flatMap_cons, List.length_append]
    omega

/-- Of several lists the last is read, and each is reported. -/
theorem listKept_of_eq {lists : List Value} {kept : List α} {ws : List Warning}
    (hkept : kept = lists.foldl (fun _ v => (listed v).filterMap read) [])
    (hws : ws = lists.flatMap fun u => rejected read warning (listed u)) :
    ListKept read warning lists kept ws := by
  subst hkept hws
  rcases List.eq_nil_or_concat' lists with rfl | ⟨before, v, rfl⟩
  · exact ⟨fun _ => ⟨rfl, rfl⟩, fun earlier v h => absurd h (by simp), by simp⟩
  have hlast : (before ++ [v]).foldl (fun _ u => (listed u).filterMap read) [] =
      (listed v).filterMap read := by
    rw [List.foldl_append]
    rfl
  rw [hlast, List.flatMap_append, List.flatMap_singleton]
  refine ⟨fun h => absurd h (by simp), fun earlier u h => ?_, ?_⟩
  · obtain ⟨rfl, hu⟩ := List.append_inj' h rfl
    obtain rfl := List.singleton_inj.1 hu
    exact ⟨_, rfl, sifted_filterMap read warning _⟩
  · have hbefore := length_flatMap_listed read warning before
    have hv := (sifted_filterMap read warning (listed v)).length_eq
    have hnone : (before.flatMap fun u => (listed u).filterMap read).length = 0 ↔
        ∀ u ∈ before, ∀ item ∈ listed u, read item = none := by
      simp only [List.length_eq_zero_iff, List.flatMap_eq_nil_iff, List.filterMap_eq_nil_iff]
    rw [List.dropLast_concat, ← hnone, List.length_append, List.flatMap_append,
      List.flatMap_singleton, List.length_append]
    omega

end

/-! ## Ports and volumes -/

/-- The warning about an entry of `ports`. -/
def portWarning (service : String) (v : Value) : Warning :=
  ⟨service, "ports", entryText v, "container port is not a number in 1-65535"⟩

/-- The warning about an entry of `volumes`. -/
def volumeWarning (service : String) (v : Value) : Warning :=
  ⟨service, "volumes", entryText v, "only short-syntax volume strings are supported"⟩

/-- **What becomes of the lists in a body**, in its service and in the warnings about it. -/
structure ListsKept (es : List (Value × Value)) (s : Service) (ws : List Warning) : Prop where
  /-- All warnings name the service. -/
  own : ∀ w ∈ ws, w.service = s.name
  ports : ListKept entryPort? (portWarning s.name) (fieldValues "ports" es) s.ports
    (ws.filter fun w => w.field == "ports")
  ports_range : ∀ p ∈ s.ports, 1 ≤ p ∧ p ≤ 65535
  volumes : ListKept volumeText? (volumeWarning s.name) (fieldValues "volumes" es) s.volumes
    (ws.filter fun w => w.field == "volumes")

/-- The lists of a body are those of its service. -/
theorem listsKept_of_reads {e : Value × Value} {draft : Draft} (h : Reads e draft) :
    ListsKept (entriesOf e.2) draft.1 draft.2 := by
  obtain ⟨es, img, hes, -, -, hdraft⟩ := service_eq_ok_iff_entries.1 h.2
  have hws : draft.2 = es.flatMap (entryWarnings draft.1.name) :=
    (congrArg Prod.snd hdraft).symm
  have hports := congrArg (fun d : Draft => d.1.ports) hdraft
  have hvolumes := congrArg (fun d : Draft => d.1.volumes) hdraft
  rw [hes.entriesOf_eq]
  refine
    { own := fun w hw => service_of_mem_snd h hw
      ports := listKept_of_eq hports.symm ?_
      ports_range := fun p hp => ?_
      volumes := listKept_of_eq hvolumes.symm ?_ }
  · rw [hws, filter_flatMap_entryWarnings]
    rfl
  · have hrange := (normal_of_service h.2).ports p hp
    omega
  · rw [hws, filter_flatMap_entryWarnings]
    rfl

end Manifest

/-! ## Documents -/

namespace Document

/-- **Every entry of a list of ports or of volumes is kept or has a warning**, unless another list
of the same service comes after it; and the warnings of a document are those of its services, in
their order. -/
theorem lists_kept {v : Value} {d : Document} (h : ofValue v = .ok d) :
    ∃ (root services : List (Value × Value)) (drafts : List Manifest.Draft),
      v.untagged = .mapping root ∧
      Value.lookup "services" root = some (.mapping services) ∧
      d.services = drafts.map (fun draft => (draft.1.name, draft.1)) ∧
      d.warnings = drafts.flatMap Prod.snd ∧
      List.Forall₂ (fun e draft => Manifest.Names e.1 draft.1.name ∧
        Manifest.ListsKept (Manifest.entriesOf e.2) draft.1 draft.2) services drafts := by
  obtain ⟨root, services, drafts, hroot, hlookup, hreads, -, hservices, hwarnings⟩ :=
    exists_drafts_of_ofValue h
  exact ⟨root, services, drafts, hroot, hlookup, hservices, hwarnings,
    hreads.imp fun e draft he => ⟨he.1, Manifest.listsKept_of_reads he⟩⟩

/-- A manifest of two services with entries of lists that are read and others that are not. -/
def mixedLists : Value :=
  .mapping [(.string "services", .mapping [
    (.string "web", .mapping [
      (.string "volumes", .sequence [.string "data:/var", .number (.int 5)]),
      (.string "ports", .sequence [
        .string "8080:80/tcp", .string "none",
        .mapping [(.string "target", .number (.int 443))]])]),
    (.string "api", .mapping [
      (.string "ports", .sequence [.number (.int 0), .string "65535"])])])]

theorem lists_kept_mixedLists :
    ∃ (d : Document) (web api : Manifest.Draft), ofValue mixedLists = .ok d ∧
      d.services = [("web", web.1), ("api", api.1)] ∧ d.warnings = web.2 ++ api.2 ∧
      web.1.ports.length + (web.2.filter fun w => w.field == "ports").length = 3 ∧
      web.1.volumes.length + (web.2.filter fun w => w.field == "volumes").length = 2 ∧
      api.1.ports.length + (api.2.filter fun w => w.field == "ports").length = 2 := by
  obtain ⟨d, hd⟩ : ∃ d, ofValue mixedLists = .ok d := ⟨_, rfl⟩
  obtain ⟨root, services, drafts, hroot, hlookup, hservices, hwarnings, hkept⟩ := lists_kept hd
  obtain rfl := Value.mapping.inj hroot
  obtain rfl := Value.mapping.inj (Option.some.inj hlookup)
  obtain ⟨web, _, ⟨hweb, kweb⟩, hrest, rfl⟩ := List.forall₂_cons_left_iff.1 hkept
  obtain ⟨api, _, ⟨hapi, kapi⟩, hnil, rfl⟩ := List.forall₂_cons_left_iff.1 hrest
  obtain rfl := List.forall₂_nil_left_iff.1 hnil
  have hname {key name : String} (h : Manifest.Names (.string key) name) : key = name := by
    cases h
    rfl
  refine ⟨d, web, api, hd, ?_, ?_, kweb.ports.whole_iff.2 (List.forall_mem_nil _),
    kweb.volumes.whole_iff.2 (List.forall_mem_nil _),
    kapi.ports.whole_iff.2 (List.forall_mem_nil _)⟩
  · rw [hservices, hname hweb, hname hapi]
    rfl
  · rw [hwarnings, List.flatMap_cons, List.flatMap_singleton]

/-- The body of a service with two lists of ports, one under a key that is tagged. -/
def twoLists : List (Value × Value) := [
  (.string "image", .string "nginx"),
  (.string "ports", .sequence [.string "80"]),
  (.tagged "x" (.string "ports"), .sequence [.string "81"])]

/-- The manifest of this service. -/
def withTwoLists : Value :=
  .mapping [(.string "services", .mapping [(.string "web", .mapping twoLists)])]

/-- **An entry of `ports` may be lost without a warning.** -/
theorem lists_twoLists :
    withTwoLists.KeysApart ∧ Value.lookup "ports" twoLists = some (.sequence [.string "80"]) ∧
      Manifest.entryPort? (.string "80") = some 80 ∧
      ∃ d s, ofValue withTwoLists = .ok d ∧ d.services = [("web", s)] ∧ s.ports = [81] ∧
        d.warnings = [] := by
  refine ⟨?_, ?_, rfl, _, _, rfl, rfl, rfl, rfl⟩
  · simp [withTwoLists, twoLists, Value.keysApart_mapping_iff, Value.keysApart_tagged_iff,
      Value.keysApart_sequence_iff, Value.KeysApart.string, Entries.Apart, Value.same]
  · simp [twoLists, Value.lookup, Entries.find?, Value.same]

end Document

end Deployment
