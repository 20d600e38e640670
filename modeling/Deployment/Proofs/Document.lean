import Deployment.Assembly
import Deployment.Proofs.Manifest.RoundTrip
import Deployment.Proofs.Template.Filling
import Deployment.Proofs.Wizard

/-!
# Proofs/Document — documents, however they are described

A deployment is described by a manifest, a template or an archetype.  Whichever it is, its document
is in the normal form, so that it can be written as a manifest and read again
(`Document.Described.reread`): what is assembled from it stays the same.
-/

namespace Deployment.Document

/-- **A document that a description becomes.** -/
inductive Described : Document → Prop
  | value {v : Value} {d : Document} : ofValue v = .ok d → Described d
  | text {text : String} {d : Document} : ofText text = .ok d → Described d
  | template {t : Template} {supplied : Bindings} {d : Document} :
    t.render supplied = .ok d → Described d
  | archetype {id : String} {o : Wizard.Options} {secrets : Nat → String} {d : Document} :
    Wizard.compile id o secrets = .ok d → Described d

/-- A text that is read as a value is the manifest of the value. -/
theorem ofText_of_read {text : String} {v : Value} (h : Yaml.read text = .ok v) :
    ofText text = ofValue v := by
  unfold ofText
  generalize Yaml.read text = x at h
  subst h
  rfl

/-- A manifest that is a text was a value first. -/
theorem exists_ofValue_of_ofText {text : String} {d : Document} (h : ofText text = .ok d) :
    ∃ v, ofValue v = .ok d := by
  unfold ofText at h
  generalize Yaml.read text = x at h
  cases x with
  | error fault => exact nomatch h
  | ok v => exact ⟨v, h⟩

/-- So was a skeleton that is filled: it is read like any other value. -/
theorem exists_ofValue_of_render {t : Template} {supplied : Bindings} {d : Document}
    (h : t.render supplied = .ok d) : ∃ v, ofValue v = .ok d := by
  obtain ⟨resolved, -, h⟩ := Outcome.bind_eq_ok.1 h
  exact ⟨_, Template.ofValue_of_fillSkeleton h⟩

/-- **However a deployment is described, its document is in the normal form.** -/
theorem Described.normal {d : Document} (h : d.Described) : d.Normal := by
  cases h with
  | value h => exact normal_of_ofValue h
  | text h =>
    obtain ⟨v, h⟩ := exists_ofValue_of_ofText h
    exact normal_of_ofValue h
  | template h =>
    obtain ⟨v, h⟩ := exists_ofValue_of_render h
    exact normal_of_ofValue h
  | archetype h => exact normal_of_compile h

/-- Warnings have no part in how services are routed. -/
theorem route_withoutWarnings (d : Document) (root : Hostname) :
    ({ d with warnings := [] } : Document).route root =
      (fun d => { d with warnings := [] }) <$> d.route root := by
  rw [route, route]
  cases Route.services root {} d.services <;> rfl

/-- Warnings have no part in what is assembled. -/
theorem assemble_withoutWarnings (d : Document) (m : RequestMeta) (settings : Settings) :
    ({ d with warnings := [] } : Document).assemble m settings = d.assemble m settings := by
  simp only [assemble, route_withoutWarnings, bind_map_left]
  rfl

/-- **A document that is written and read again is the same but for its warnings**, and so is what
is assembled from it. -/
theorem Described.reread {d : Document} (h : d.Described) :
    ofValue d.toValue = .ok { d with warnings := [] } ∧
      ∀ m settings,
        ({ d with warnings := [] } : Document).assemble m settings = d.assemble m settings :=
  ⟨ofValue_toValue h.normal, assemble_withoutWarnings d⟩

/-- A manifest with a number as a name, a label as a fragment and an entry that is left out. -/
def numberedManifest : Value :=
  .mapping [(.string "services", .mapping [(.number (.int 5), .mapping [
    (.string "ports", .sequence [.string "8080:80", .string "http"]),
    (.string "environment", .mapping [(.null, .null), (.string "DEBUG", .bool true)]),
    (.string "labels", .sequence [.string "spinforge.subdomain=www"])])])]

/-- The document of it. -/
def numbered : Document where
  services := [("5", {
    name := "5"
    image := Service.customBuild
    ports := [80]
    environment := .ofList [("DEBUG", "true")]
    subdomain := some "www"
    extra := [(.string "labels", .sequence [.string "spinforge.subdomain=www"])] })]
  warnings := [⟨"5", "ports", "http", "container port is not a number in 1-65535"⟩]

theorem reread_numbered :
    numbered.Described ∧ ofValue numbered.toValue = .ok { numbered with warnings := [] } := by
  have h : numbered.Described := .value (v := numberedManifest) rfl
  exact ⟨h, h.reread.1⟩

end Deployment.Document
