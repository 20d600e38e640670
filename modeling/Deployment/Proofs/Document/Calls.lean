import Deployment.Proofs.Assembly.Endpoints
import Deployment.Proofs.Route.Stable

/-!
# Proofs/Document/Calls — documents that are built call by call

A document is built in its place: a call adds a service or declares a volume, and a service whose
name is taken is refused before anything is written.  So adding has one of two outcomes
(`run_add_eq`), and by induction over the calls the services are the first ones that were added
under their names, in this order (`leftBy_after`).  Services stand under their names however their
document came to be: call by call, or read, rendered or compiled, and when it is routed
(`keyed_everywhere`).
-/

namespace Deployment

open Entries (sameText)

namespace Document

/-! ## Calls -/

/-- A step on the document at hand, which may be refused.  The document is there after a failure
too, so it can be said what a refused step leaves. -/
abbrev Step := ExceptT Violation (StateM Document) Unit

/-- Add a service to the document at hand, unless its name is taken. -/
def addInPlace (s : Service) : Step := do
  if Entries.has sameText s.name (← get).services then throw (.duplicateService s.name)
  modify fun d => { d with services := Entries.insert sameText s.name s d.services }

/-- Declare a volume of the document at hand. -/
def declareInPlace (name : String) : Step := modify fun d => d.declare name

/-- What is asked of a document. -/
inductive Call where
  | add (s : Service)
  | declare (name : String)

/-- The step of a call. -/
def Call.step : Call → Step
  | add s => addInPlace s
  | declare name => declareInPlace name

/-- The outcome of a call on a document, and the document that it leaves. -/
def Call.run (c : Call) (d : Document) : Except Violation Unit × Document :=
  StateT.run (m := Id) (ExceptT.run c.step) d

/-- The service that a call asks to add. -/
def Call.service? : Call → Option Service
  | add s => some s
  | declare _ => none

/-- The service that a call adds to a document, when it is not refused. -/
def Call.gained (c : Call) (d : Document) : List Service :=
  match c, (c.run d).1 with
  | .add s, .ok () => [s]
  | _, _ => []

/-- The document that a call leaves. -/
def leave (d : Document) (c : Call) : Document := (c.run d).2

/-- The document that calls leave, one after the other, of an empty one. -/
def after (calls : List Call) : Document := calls.foldl leave {}

/-- The services that calls add, from a document on, in the order in which they are added. -/
def added : Document → List Call → List Service
  | _, [] => []
  | d, c :: calls => c.gained d ++ added (d.leave c) calls

/-! ## One call

A call either adds one service behind the others or changes no service at all. Everything about a
run is read off this one step. -/

/-- **Adding in place is adding**, and a failure leaves the document as it is. -/
theorem run_add (d : Document) (s : Service) :
    (Call.add s).run d = match d.add s with
      | .ok d' => (.ok (), d')
      | .error v => (.error v, d) := by
  have hrun : (Call.add s).run d =
      StateT.run (m := Id) (ExceptT.run (if Entries.has sameText s.name d.services = true then
        throw (.duplicateService s.name)
      else modify fun d => { d with services := Entries.insert sameText s.name s d.services })) d :=
    rfl
  rw [hrun, add]
  split
  · rfl
  · rename_i hnew
    rw [← Entries.insert_of_has_eq_false (by simpa using hnew)]
    rfl

/-- Declaring a volume cannot fail. -/
theorem run_declare (d : Document) (name : String) :
    (Call.declare name).run d = (.ok (), d.declare name) := rfl

/-- A name that is taken stands for a service. -/
theorem exists_service?_of_mem_names {d : Document} {name : String} (h : name ∈ d.names) :
    ∃ s, d.service? name = some s :=
  Option.ne_none_iff_exists'.1 (mt Entries.find?_sameText_eq_none_iff.1 (not_not.2 h))

/-- **A service is refused when its name is taken, and only then.** -/
theorem run_add_eq (d : Document) (s : Service) :
    (Call.add s).run d =
      if s.name ∈ d.names then (.error (.duplicateService s.name), d)
      else (.ok (), { d with services := d.services ++ [(s.name, s)] }) := by
  rw [run_add, add_eq]
  by_cases h : s.name ∈ d.names
  · rw [if_pos h, if_pos h]
  · rw [if_neg h, if_neg h]

/-- **What a call adds stands behind what is there.** -/
theorem services_leave (d : Document) (c : Call) :
    (d.leave c).services = d.services ++ (c.gained d).map fun s => (s.name, s) := by
  cases c with
  | add s =>
    have hrun := run_add_eq d s
    by_cases htaken : s.name ∈ d.names
    · rw [if_pos htaken] at hrun
      simp only [leave, Call.gained, hrun]
      exact (List.append_nil _).symm
    · rw [if_neg htaken] at hrun
      simp only [leave, Call.gained, hrun]
      rfl
  | declare name => exact (List.append_nil _).symm

/-- **A call keeps the services under their names.** -/
theorem Keyed.leave {d : Document} (h : d.Keyed) (c : Call) : (d.leave c).Keyed := by
  cases c with
  | add s =>
    rw [Document.leave, run_add_eq]
    split
    · exact h
    · rename_i hnew
      refine ⟨List.forall_mem_append.2 ⟨h.keys, List.forall_mem_singleton.2 rfl⟩, ?_⟩
      rw [names, List.map_append, List.nodup_append_comm]
      exact List.nodup_cons.2 ⟨hnew, h.nodup⟩
  | declare name => exact ⟨h.keys, h.nodup⟩

/-- **A name stands for the service that it stood for before a call**, and where it stood for none
for the service that the call asks to add under it. -/
theorem service?_leave (d : Document) (c : Call) (name : String) :
    (d.leave c).service? name =
      (d.service? name).or (c.service?.filter fun s => s.name == name) := by
  cases c with
  | add s =>
    have hsingle : Entries.find? sameText name [(s.name, s)] =
        (some s).filter fun s => s.name == name := by
      rw [Entries.find?, Option.filter_some]
      rfl
    rw [leave, run_add_eq, Call.service?]
    by_cases htaken : s.name ∈ d.names
    · rw [if_pos htaken]
      by_cases hname : s.name = name
      · obtain ⟨t, ht⟩ := exists_service?_of_mem_names (hname ▸ htaken)
        rw [ht, Option.some_or]
      · rw [Option.filter_some_neg (by simpa using hname), Option.or_none]
    · rw [if_neg htaken, ← hsingle]
      exact Entries.find?_append name d.services _
  | declare name => exact Option.or_none.symm

/-- **Services are added, and volumes declared**, and nothing else of a document is touched. -/
theorem rest_leave (d : Document) (c : Call) :
    (d.leave c).extensions = d.extensions ∧ (d.leave c).warnings = d.warnings := by
  cases c with
  | add s =>
    rw [leave, run_add_eq]
    split <;> exact ⟨rfl, rfl⟩
  | declare name => exact ⟨rfl, rfl⟩

/-- A call declares one volume or none. -/
theorem mem_volumes_leave (d : Document) (c : Call) (name : String) :
    name ∈ (d.leave c).volumes ↔ Call.declare name = c ∨ name ∈ d.volumes := by
  cases c with
  | add s =>
    have hleft : (d.leave (.add s)).volumes = d.volumes := by
      rw [leave, run_add_eq]
      split <;> rfl
    rw [hleft, or_iff_right nofun]
  | declare other =>
    rw [leave, run_declare, Call.declare.injEq]
    exact NameSet.mem_insert

/-! ## All calls

The facts about one call carry over to all by induction over the calls, with the document at hand
general. -/

theorem keyed_empty : ({} : Document).Keyed :=
  ⟨fun _ h => absurd h List.not_mem_nil, List.nodup_nil⟩

/-- No call breaks it, so no run does. -/
theorem Keyed.foldl_leave {d : Document} (h : d.Keyed) (calls : List Call) :
    (calls.foldl Document.leave d).Keyed := by
  induction calls generalizing d with
  | nil => exact h
  | cons c calls ih => exact ih (h.leave c)

/-- What is added stands in the order of the calls. -/
theorem services_foldl_leave (d : Document) (calls : List Call) :
    (calls.foldl leave d).services =
      d.services ++ (added d calls).map fun s => (s.name, s) := by
  induction calls generalizing d with
  | nil => exact (List.append_nil _).symm
  | cons c calls ih =>
    rw [List.foldl_cons, ih, services_leave, added, List.map_append, List.append_assoc]

/-- The first service that is asked for under a name keeps it. -/
theorem service?_foldl_leave (d : Document) (calls : List Call) (name : String) :
    (calls.foldl leave d).service? name =
      (d.service? name).or ((calls.filterMap Call.service?).find? fun s => s.name == name) := by
  induction calls generalizing d with
  | nil => exact Option.or_none.symm
  | cons c calls ih =>
    -- what is there before all calls stays, so only what this call and the later ones ask is left
    rw [List.foldl_cons, ih, service?_leave, Option.or_assoc]
    congr 1
    cases c with
    | add s => by_cases h : s.name = name <;> simp [Call.service?, Option.filter, h]
    | declare other => rfl

theorem rest_foldl_leave (d : Document) (calls : List Call) :
    (calls.foldl leave d).extensions = d.extensions ∧
      (calls.foldl leave d).warnings = d.warnings := by
  induction calls generalizing d with
  | nil => exact ⟨rfl, rfl⟩
  | cons c calls ih =>
    obtain ⟨hextensions, hwarnings⟩ := rest_leave d c
    rw [List.foldl_cons, ← hextensions, ← hwarnings]
    exact ih (d.leave c)

theorem mem_volumes_foldl_leave (d : Document) (calls : List Call) (name : String) :
    name ∈ (calls.foldl leave d).volumes ↔ Call.declare name ∈ calls ∨ name ∈ d.volumes := by
  induction calls generalizing d with
  | nil => exact (or_iff_right List.not_mem_nil).symm
  | cons c calls ih =>
    rw [List.foldl_cons, ih, mem_volumes_leave, List.mem_cons]
    exact or_left_comm.trans or_assoc.symm

/-- **What calls leave of an empty document.** -/
structure LeftBy (calls : List Call) (d : Document) : Prop where
  keyed : d.Keyed
  /-- Services stand in the order in which they were added. -/
  services : d.services = (added {} calls).map fun s => (s.name, s)
  /-- A name stands for the service that was the first to be added under it. -/
  first : ∀ name,
    d.service? name = (calls.filterMap Call.service?).find? fun s => s.name == name
  /-- What was added stays where it is, whatever is called then. -/
  kept : ∀ more, d.services <+: (after (calls ++ more)).services
  volumes : ∀ name, name ∈ d.volumes ↔ Call.declare name ∈ calls
  extensions : d.extensions = []
  warnings : d.warnings = []

/-- **However many calls were made**, their document is what they leave. -/
theorem leftBy_after (calls : List Call) : LeftBy calls (after calls) where
  keyed := keyed_empty.foldl_leave calls
  services := services_foldl_leave {} calls
  first name := service?_foldl_leave {} calls name
  kept more := by
    rw [after, after, List.foldl_append, services_foldl_leave (calls.foldl leave {}) more]
    exact List.prefix_append _ _
  volumes name := (mem_volumes_foldl_leave {} calls name).trans (or_iff_left List.not_mem_nil)
  extensions := (rest_foldl_leave {} calls).1
  warnings := (rest_foldl_leave {} calls).2

/-! ## Routing

Routing goes through the services in their places and changes no key and no name. -/

theorem names_placed (d : Document) (root : Hostname) : (d.placed root).names = d.names := by
  rw [names, names, placed, List.map_map]
  rfl

/-- **Services that are routed stay under their names.** -/
theorem Keyed.route {d d' : Document} {root : Hostname} (h : d.Keyed)
    (hroute : d.route root = .ok d') : d'.Keyed ∧ d'.names = d.names := by
  obtain rfl := eq_placed_of_route hroute
  have hnames := names_placed d root
  exact ⟨⟨List.forall_mem_map.2 h.keys, hnames ▸ h.nodup⟩, hnames⟩

/-- **Services stand under their names**, each name once.  A document that is built call by call
has the services that were the first to be added under their names, in this order, and a call that
adds another one is refused and leaves the document as it is; documents that are described have
their services under their names too, and keep them there when they are routed. -/
theorem keyed_everywhere :
    (∀ (d : Document) (s : Service), d.add s =
      if s.name ∈ d.names then .error (.duplicateService s.name)
      else .ok { d with services := d.services ++ [(s.name, s)] }) ∧
    (∀ (d : Document) (s : Service), (Call.add s).run d =
      if s.name ∈ d.names then (.error (.duplicateService s.name), d)
      else (.ok (), { d with services := d.services ++ [(s.name, s)] })) ∧
    (∀ calls, LeftBy calls (after calls)) ∧
    (∀ d : Document, d.Described → d.Keyed) ∧
    (∀ (d d' : Document) (root : Hostname), d.Keyed → d.route root = .ok d' →
      d'.Keyed ∧ d'.names = d.names) :=
  ⟨add_eq, run_add_eq, leftBy_after, fun _ h => h.normal.keyed, fun _ _ _ => Keyed.route⟩

/-- A service that is added, a volume, another service under the same name, and one under a new
name. -/
def twiceWeb : List Call := [
  .add { name := "web", image := "web:1" },
  .declare "data",
  .add { name := "web", image := "web:2" },
  .add { name := "db", image := "db:1" }]

theorem keyed_twiceWeb :
    (after twiceWeb).names = ["web", "db"] ∧
      ((after twiceWeb).service? "web").map Service.image = some "web:1" ∧
      loud.Keyed ∧ ∃ d', loud.route ⟨"example.com"⟩ = .ok d' ∧ d'.Keyed ∧
        d'.names = ["API", "site"] := by
  obtain ⟨-, -, hcalls, hdescribed, hroute⟩ := keyed_everywhere
  have hleft := hcalls twiceWeb
  have hkeyed : loud.Keyed := hdescribed loud (.value (v := loudManifest) rfl)
  obtain ⟨d', hd'⟩ := Outcome.exists_of_isOk (x := loud.route ⟨"example.com"⟩) (by decide +kernel)
  obtain ⟨hkeyed', hnames⟩ := hroute loud d' _ hkeyed hd'
  refine ⟨?_, ?_, hkeyed, d', hd', hkeyed', hnames⟩
  · rw [names, hleft.services]
    decide +kernel
  · rw [hleft.first]
    rfl

end Document

end Deployment
