import Deployment.Proofs.Document
import Deployment.Proofs.Hostname.Lowercase
import Deployment.Proofs.Route

/-!
# Proofs/Route/Stable — services stay where they were routed

A service that was routed asks for the fragment it stands under, and this fragment is written as it
is.  So it is routed to the same place again, whatever names are given away before
(`Route.service_placed`), and so are all services of a document.  A manifest does not say where
services stand, but it says their fragments, and that is enough (`Document.route_stable`).
-/

namespace Deployment

/-- A service without its host name. -/
def Service.unhosted (s : Service) : Service := { s with hostname := none }

namespace Route

/-! ## One service

Where a service is put depends on the fragment that it asks for. After routing it asks for the
fragment in its normal form, which is a fixed point. -/

section

variable {root : Hostname} {s s' : Service} {taken taken' : Taken}

/-- Whether a service can be routed when some names are given away.  A root domain is taken as it
is; every other name has to keep the rules. -/
structure Fits (root : Hostname) (taken : Taken) (s : Service) : Prop where
  fragment : Fragment.Grammar (fragmentText s)
  owner : asksRoot s = true → taken.owner = none
  free : ¬ asksRoot s = true → fragmentText s ∉ taken.fragments
  name : ¬ asksRoot s = true → Hostname.Grammar (hostOf root s).text

/-- **A service is routed when it fits**, to its place. -/
theorem service_eq_ok_iff_fits :
    service root taken s = .ok (s', taken') ↔
      Fits root taken s ∧ placed root s = s' ∧ taken.add s = taken' := by
  rw [service_eq, ← Prod.mk.injEq]
  by_cases hf : Fragment.Grammar (fragmentText s)
  · rw [if_pos hf]
    by_cases hs : asksRoot s = true
    · rw [if_pos hs]
      cases howner : taken.owner with
      | some owner => exact ⟨nofun, fun h => nomatch howner.symm.trans (h.1.owner hs)⟩
      | none =>
        rw [Outcome.pure_eq_ok]
        exact ⟨fun h => ⟨⟨hf, fun _ => howner, absurd hs, absurd hs⟩, h⟩, fun h => h.2⟩
    · rw [if_neg hs, Outcome.guard_eq_ok]
      by_cases hn : Hostname.Grammar (hostOf root s).text
      · rw [if_pos hn, Outcome.pure_eq_ok]
        exact ⟨fun h => ⟨⟨hf, fun h' => absurd h' hs, fun _ => h.1, fun _ => hn⟩, h.2⟩,
          fun h => ⟨h.1.free hs, h.2⟩⟩
      · rw [if_neg hn]
        exact ⟨fun h => absurd h.2 nofun, fun h => absurd (h.1.name hs) hn⟩
  · rw [if_neg hf]
    exact ⟨nofun, fun h => absurd h.1.fragment hf⟩

/-- A service in its place asks for the fragment that it has. -/
theorem fragmentText_placed (h : Fragment.Grammar (fragmentText s)) :
    fragmentText (placed root s) = fragmentText s := by
  have hasked : asked (placed root s) = fragmentText s := rfl
  conv_lhs => rw [fragmentText, hasked]
  exact Fragment.normalText_of_grammar h

/-- The root domain is asked for again by the service that has it. -/
theorem asksRoot_placed (h : Fragment.Grammar (fragmentText s)) :
    asksRoot (placed root s) = asksRoot s := by
  rw [asksRoot, asksRoot, fragmentText_placed h]

theorem hostOf_placed (h : Fragment.Grammar (fragmentText s)) :
    hostOf root (placed root s) = hostOf root s := by
  rw [hostOf, hostOf, asksRoot_placed h, fragmentText_placed h]

/-- **A service in its place is in its place.** -/
theorem placed_placed (h : Fragment.Grammar (fragmentText s)) :
    placed root (placed root s) = placed root s := by
  rw [placed, fragmentText_placed h, hostOf_placed h]
  rfl

/-- A service in its place gives away the same names as before. -/
theorem add_placed (h : Fragment.Grammar (fragmentText s)) (taken : Taken) :
    taken.add (placed root s) = taken.add s := by
  rw [Taken.add, Taken.add, asksRoot_placed h, fragmentText_placed h]
  rfl

theorem Fits.placed (h : Fits root taken s) : Fits root taken (placed root s) where
  fragment := by
    rw [fragmentText_placed h.fragment]
    exact h.fragment
  owner := by
    rw [asksRoot_placed h.fragment]
    exact h.owner
  free := by
    rw [asksRoot_placed h.fragment, fragmentText_placed h.fragment]
    exact h.free
  name := by
    rw [asksRoot_placed h.fragment, hostOf_placed h.fragment]
    exact h.name

/-- **A service is routed from its place to its place**, and the same names are given away. -/
theorem service_placed (h : service root taken s = .ok (s', taken')) :
    service root taken s' = .ok (s', taken') := by
  obtain ⟨hfits, rfl, rfl⟩ := service_eq_ok_iff_fits.1 h
  exact service_eq_ok_iff_fits.2
    ⟨hfits.placed, placed_placed hfits.fragment, add_placed hfits.fragment taken⟩

/-! ## Host names

A host name that is written into a service is not read when it is routed again. -/

/-- A fragment has nothing to do with the host name. -/
theorem fragmentText_unhosted (s : Service) : fragmentText s.unhosted = fragmentText s := by
  rw [fragmentText, fragmentText]
  rfl

theorem hostOf_unhosted (root : Hostname) (s : Service) :
    hostOf root s.unhosted = hostOf root s := by
  rw [hostOf, hostOf, asksRoot, asksRoot, fragmentText_unhosted]

/-- A place overwrites the host name that was there. -/
theorem placed_unhosted (root : Hostname) (s : Service) :
    placed root s.unhosted = placed root s := by
  rw [placed, placed, hostOf_unhosted, fragmentText_unhosted]
  rfl

theorem add_unhosted (taken : Taken) (s : Service) : taken.add s.unhosted = taken.add s := by
  rw [Taken.add, Taken.add, asksRoot, asksRoot, fragmentText_unhosted]
  rfl

/-- What a service is routed to does not depend on the host name it had. -/
theorem service_unhosted (root : Hostname) (taken : Taken) (s : Service) :
    service root taken s.unhosted = service root taken s := by
  have hname : s.unhosted.name = s.name := rfl
  have hasked : asked s.unhosted = asked s := rfl
  rw [service_eq, service_eq, asksRoot, asksRoot, fragmentText_unhosted, hostOf_unhosted,
    placed_unhosted, add_unhosted, hname, hasked]

end

/-! ## All services -/

/-- Services without their host names. -/
def unhosted (es : List (String × Service)) : List (String × Service) :=
  es.map fun e => (e.1, e.2.unhosted)

variable {root : Hostname} {taken : Taken} {es es' : List (String × Service)}

/-- **Services are routed from their places to their places.** -/
theorem services_routed (h : services root taken es = .ok es') :
    services root taken es' = .ok es' := by
  induction es generalizing taken es' with
  | nil =>
    obtain rfl := Outcome.pure_eq_ok.1 h
    rfl
  | cons e es ih =>
    obtain ⟨name, s⟩ := e
    obtain ⟨⟨s', taken'⟩, hs, h⟩ := Outcome.bind_eq_ok.1 h
    obtain ⟨rest, hrest, h⟩ := Outcome.bind_eq_ok.1 h
    obtain rfl := Outcome.pure_eq_ok.1 h
    rw [services, service_placed hs, Outcome.ok_bind]
    exact Outcome.bind_eq_ok.2 ⟨rest, ih hrest, rfl⟩

/-- So all services can be routed without the host names that they had. -/
theorem services_unhosted (root : Hostname) (taken : Taken) (es : List (String × Service)) :
    services root taken (unhosted es) = services root taken es := by
  induction es generalizing taken with
  | nil => rfl
  | cons e es ih =>
    rw [unhosted, List.map_cons, services, services, service_unhosted]
    refine bind_congr fun r => ?_
    exact congrArg (fun rest => rest >>= fun es => pure ((e.1, r.1) :: es)) (ih r.2)

theorem eq_placed_of_services (h : services root taken es = .ok es') :
    es' = es.map fun e => (e.1, placed root e.2) := by
  induction es generalizing taken es' with
  | nil => exact (Outcome.pure_eq_ok.1 h).symm
  | cons e es ih =>
    obtain ⟨name, s⟩ := e
    obtain ⟨⟨s', taken'⟩, hs, h⟩ := Outcome.bind_eq_ok.1 h
    obtain ⟨rest, hrest, h⟩ := Outcome.bind_eq_ok.1 h
    obtain rfl := Outcome.pure_eq_ok.1 h
    obtain ⟨-, rfl, -⟩ := service_eq_ok_iff_fits.1 hs
    rw [ih hrest, List.map_cons]

end Route

/-! ## Documents -/

namespace Document

/-- A document whose services have no host names. -/
def unhosted (d : Document) : Document := { d with services := Route.unhosted d.services }

variable {d d' : Document} {root : Hostname}

/-- Routing changes the services of a document and nothing else. -/
theorem route_eq_ok_iff_services :
    d.route root = .ok d' ↔
      ∃ es, Route.services root {} d.services = .ok es ∧ { d with services := es } = d' :=
  Outcome.bind_eq_ok.trans
    (exists_congr fun _ => and_congr_right fun _ => Outcome.pure_eq_ok)

/-- **Routing a document that was routed changes nothing.** -/
theorem route_routed (h : d.route root = .ok d') : d'.route root = .ok d' := by
  obtain ⟨es, hes, rfl⟩ := route_eq_ok_iff_services.1 h
  exact route_eq_ok_iff_services.2 ⟨es, Route.services_routed hes, rfl⟩

/-- A document that was routed is the one whose services stand in their places. -/
theorem eq_placed_of_route (h : d.route root = .ok d') : d' = d.placed root := by
  obtain ⟨es, hes, rfl⟩ := route_eq_ok_iff_services.1 h
  rw [Route.eq_placed_of_services hes]
  rfl

/-- Host names play no part in routing. -/
theorem route_unhosted (d : Document) (root : Hostname) : d.unhosted.route root = d.route root := by
  rw [route, unhosted, Route.services_unhosted]
  rfl

/-- A document is written without its host names. -/
theorem toValue_unhosted (d : Document) : d.unhosted.toValue = d.toValue := by
  have hservices (f : String × Service → Value × Value) (hf : ∀ e, f (e.1, e.2.unhosted) = f e) :
      d.unhosted.services.map f = d.services.map f := by
    rw [unhosted, Route.unhosted, List.map_map]
    exact List.map_congr_left fun e _ => hf e
  rw [toValue, toValue, toEntries, toEntries, hservices _ fun _ => rfl]
  rfl

/-- Without its host name a service in its place is in the normal form: its fragment is written, and
no label is asked. -/
theorem placed_unhosted_normal {s : Service} (h : s.Normal) (root : Hostname) :
    (Route.placed root s).unhosted.Normal where
  ports := h.ports
  environment := h.environment
  registry := h.registry
  hostname := rfl
  extra := h.extra
  extra_apart := h.extra_apart
  fragment := nofun

/-- **A document in the normal form that was routed is in the normal form** without its host
names. -/
theorem Normal.unhosted (hd : d.Normal) (h : d.route root = .ok d') : d'.unhosted.Normal := by
  obtain rfl := eq_placed_of_route h
  have hnames : (d.placed root).unhosted.names = d.names := by
    rw [names, unhosted, Route.unhosted, placed, List.map_map, List.map_map]
    rfl
  have hmem {e : String × Service} (he : e ∈ (d.placed root).unhosted.services) :
      ∃ e₀ ∈ d.services, (e₀.1, (Route.placed root e₀.2).unhosted) = e := by
    simpa [unhosted, Route.unhosted, placed] using he
  exact
    { keys := by
        intro e he
        obtain ⟨e₀, he₀, rfl⟩ := hmem he
        exact hd.keys e₀ he₀
      names_nodup := hnames.symm ▸ hd.names_nodup
      names_not_blank := hnames.symm ▸ hd.names_not_blank
      services := by
        intro e he
        obtain ⟨e₀, he₀, rfl⟩ := hmem he
        exact placed_unhosted_normal (hd.services e₀ he₀) root
      extensions := hd.extensions
      extensions_apart := hd.extensions_apart }

/-- **Services stay where they were routed**: routing their document again changes nothing, and
neither does writing it as a manifest without its host names, reading it and routing it. -/
theorem route_stable (h : d.route root = .ok d') :
    d'.route root = .ok d' ∧
      (d.Described →
        ofValue d'.toValue = .ok { d'.unhosted with warnings := [] } ∧
          ({ d'.unhosted with warnings := [] } : Document).route root =
            .ok { d' with warnings := [] }) := by
  refine ⟨route_routed h, fun hd => ⟨?_, ?_⟩⟩
  · rw [← toValue_unhosted]
    exact ofValue_toValue (hd.normal.unhosted h)
  · rw [route_withoutWarnings, route_unhosted, route_routed h]
    rfl

/-- A manifest with a name in upper case, and a fragment between blanks in a label. -/
def loudManifest : Value :=
  .mapping [(.string "services", .mapping [
    (.string "API", .mapping [(.string "image", .string "api:2")]),
    (.string "site", .mapping [
      (.string "ports", .sequence [.string "http"]),
      (.string "labels", .sequence [.string "spinforge.subdomain= Main "])])])]

/-- The document of it. -/
def loud : Document where
  services := [
    ("API", { name := "API", image := "api:2" }),
    ("site", {
      name := "site"
      image := Service.customBuild
      subdomain := some " Main "
      extra := [(.string "labels", .sequence [.string "spinforge.subdomain= Main "])] })]
  warnings := [⟨"site", "ports", "http", "container port is not a number in 1-65535"⟩]

theorem route_loud :
    loud.Described ∧ ∃ d', loud.route ⟨"example.com"⟩ = .ok d' ∧
      (d'.services.map fun e => e.2.subdomain) = [some "api", some "main"] ∧
      d'.route ⟨"example.com"⟩ = .ok d' ∧
      ofValue d'.toValue = .ok { d'.unhosted with warnings := [] } ∧
      ({ d'.unhosted with warnings := [] } : Document).route ⟨"example.com"⟩ =
        .ok { d' with warnings := [] } := by
  have hdescribed : loud.Described := .value (v := loudManifest) rfl
  obtain ⟨d', hd'⟩ := Outcome.exists_of_isOk (x := loud.route ⟨"example.com"⟩) (by decide +kernel)
  obtain ⟨hagain, hreread⟩ := route_stable hd'
  have hfragments : ((loud.placed ⟨"example.com"⟩).services.map fun e => e.2.subdomain) =
      [some "api", some "main"] := by
    decide +kernel
  exact ⟨hdescribed, d', hd', eq_placed_of_route hd' ▸ hfragments, hagain, hreread hdescribed⟩

end Document

end Deployment
