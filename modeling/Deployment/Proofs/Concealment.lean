import Deployment.Descriptor
import Deployment.Manifest.Reading
import Deployment.Proofs.Entries
import Deployment.Proofs.Value

/-!
# Proofs/Concealment — manifests and deployments without their secrets

Secrets are values of variables and fields of credentials.  In a manifest (`Value.conceal`) and in
what is made of it (`Document.conceal`, `Descriptor.conceal`) they can be concealed, while all else
stays.  Two manifests or two descriptors that are the same when concealed differ in secrets only
(`Value.SameBut`, `Descriptor.SameBut`).
-/

namespace Deployment

/-- **Which values are secrets**, by the name of their service: values of variables by the keys of
the variables, and credentials by their fields. -/
structure Secrets where
  environment : String → String → Bool
  registry : String → String → Bool

/-! ## Texts

A variable may be written in one text, its name before the sign. Only what is behind the sign is
concealed. -/

namespace Text

/-- A text `KEY=VALUE` with its value concealed, if the key tells to. -/
def concealAfter (hidden : String → Bool) (s : String) : String :=
  match cut '=' s with
  | some (k, _) => if hidden k then k ++ "=" ++ concealed else s
  | none => s

/-- What is behind the sign does not matter for what is in front. -/
theorem cut_append {k text s : String} (h : cut '=' s = some (k, text)) (other : String) :
    cut '=' (k ++ "=" ++ other) = some (k, other) := by
  obtain ⟨⟨a, b⟩, hab, heq⟩ := Option.map_eq_some_iff.1 h
  obtain ⟨rfl, rfl⟩ := Prod.mk.inj heq
  have hnot : '=' ∉ a := (splitFirst_eq_some hab).2
  have hchars : (String.ofList a ++ "=" ++ other).toList = a ++ '=' :: other.toList := by simp
  rw [cut, hchars, splitFirst_append hnot]
  exact congrArg (fun text => some (String.ofList a, text)) (String.ofList_toList (s := other))

/-- **The key of a text stays, and so does its value if it is not concealed.** -/
theorem cut_concealAfter (hidden : String → Bool) (s : String) :
    cut '=' (concealAfter hidden s) =
      (cut '=' s).map fun e => (e.1, if hidden e.1 then concealed else e.2) := by
  cases h : cut '=' s with
  | none => rwa [concealAfter, h]
  | some e =>
    obtain ⟨k, text⟩ := e
    simp only [concealAfter, h, Option.map_some]
    by_cases hk : hidden k = true
    · rw [if_pos hk, if_pos hk]
      exact cut_append h concealed
    · rw [if_neg hk, if_neg hk]
      exact h

end Text

/-! ## Values

Replacing texts inside a value leaves its shape: what was a mapping is one, with the same keys. -/

namespace Value

/-- A scalar concealed, if its text tells to; its tags stay. -/
def concealScalar (hidden : String → Bool) : Value → Value
  | tagged tag v => tagged tag (v.concealScalar hidden)
  | v => if v.scalarText?.any hidden then string concealed else v

/-- A text replaced; its tags stay. -/
def mapString (f : String → String) : Value → Value
  | tagged tag v => tagged tag (v.mapString f)
  | string s => string (f s)
  | v => v

/-- A sequence with its items replaced; its tags stay. -/
def mapItems (f : Value → Value) : Value → Value
  | tagged tag v => tagged tag (v.mapItems f)
  | sequence items => sequence (items.map f)
  | v => v

/-- A mapping with its values replaced; its keys and its tags stay. -/
def mapEntries (f : Value → Value → Value) : Value → Value
  | tagged tag v => tagged tag (v.mapEntries f)
  | mapping es => mapping (es.map fun e => (e.1, f e.1 e.2))
  | v => v

/-- A scalar that is concealed is a scalar, and its text is concealed. -/
theorem scalarText?_concealScalar (hidden : String → Bool) (v : Value) :
    (v.concealScalar hidden).scalarText? =
      v.scalarText?.map fun text => if hidden text then concealed else text := by
  have hscalar {text : String} (htext : v.scalarText? = some text)
      (heq : v.concealScalar hidden = if hidden text then string concealed else v) :
      (v.concealScalar hidden).scalarText? = some (if hidden text then concealed else text) := by
    by_cases h : hidden text = true
    · rw [heq, if_pos h, if_pos h]
      rfl
    · rw [heq, if_neg h, if_neg h, htext]
  cases v with
  | null => exact hscalar rfl rfl
  | bool b => exact hscalar rfl rfl
  | number n => exact hscalar rfl rfl
  | string s => exact hscalar rfl rfl
  | sequence items => rfl
  | mapping es => rfl
  | tagged tag v => rfl

/-- A text that is replaced is found under its tags. -/
theorem asString?_mapString (f : String → String) :
    ∀ v : Value, (v.mapString f).asString? = v.asString?.map f
  | tagged _ v => asString?_mapString f v
  | string _ | null | bool _ | number _ | sequence _ | mapping _ => rfl

theorem asMapping?_mapEntries (f : Value → Value → Value) :
    ∀ v : Value, (v.mapEntries f).asMapping? = v.asMapping?.map (List.map fun e => (e.1, f e.1 e.2))
  | tagged _ v => asMapping?_mapEntries f v
  | string _ | null | bool _ | number _ | sequence _ | mapping _ => rfl

/-- What is found under a text is what was there, replaced. -/
theorem lookup_map (f : Value → Value → Value) (key : String) (es : List (Value × Value)) :
    lookup key (es.map fun e => (e.1, f e.1 e.2)) = (lookup key es).map (f (string key)) := by
  induction es with
  | nil => rfl
  | cons e es ih =>
    rw [lookup, List.map_cons, Entries.find?, lookup, Entries.find?]
    by_cases h : same e.1 (string key) = true
    · rw [if_pos h, if_pos h, Option.map_some, same_string_iff.1 h]
    · rw [if_neg h, if_neg h]
      exact ih

/-! ## Manifests -/

/-- The value of a variable, concealed if the key tells to; a key without text names none. -/
def concealVariable (hidden : String → Bool) (key v : Value) : Value :=
  v.concealScalar fun _ => key.scalarText?.all hidden

/-- Variables with secret values concealed, be they a mapping or a list. -/
def concealVariables (hidden : String → Bool) (v : Value) : Value :=
  (v.mapEntries (concealVariable hidden)).mapItems (mapString (Text.concealAfter hidden))

/-- A field of credentials, concealed if it is secret and given. -/
def concealField (hidden : String → Bool) (key v : Value) : Value :=
  v.concealScalar fun text => key.asString?.any hidden && !text.isEmpty

/-- Credentials with secret fields concealed, as far as they are given. -/
def concealCredentials (hidden : String → Bool) (v : Value) : Value :=
  v.mapEntries (concealField hidden)

variable (S : Secrets)

/-- What stands under a key of the body of a service, with secrets concealed. -/
def concealSetting (service : String) (key v : Value) : Value :=
  if key.asString? = some "environment" then v.concealVariables (S.environment service)
  else if key.asString? = some "x-registry" then v.concealCredentials (S.registry service)
  else v

/-- The body of a service with secrets concealed. -/
def concealBody (service : String) (body : Value) : Value :=
  body.mapEntries (concealSetting S service)

/-- What stands under a key of a manifest, with secrets concealed. -/
def concealPart (key v : Value) : Value :=
  if key.asString? = some "services" then
    v.mapEntries fun key => concealBody S ((Manifest.serviceName key).toOption.getD "")
  else v

/-- **A manifest with secrets concealed**: scalars in mappings of variables, texts behind the sign
in lists of variables, and the fields of credentials that are given. -/
def conceal (v : Value) : Value := v.mapEntries (concealPart S)

/-- **Manifests that differ in secrets only.** -/
def SameBut (v w : Value) : Prop := v.conceal S = w.conceal S

end Value

/-! ## Deployments -/

namespace TextMap

theorem keys_map (f : String → String → String) (es : List (String × String)) :
    (es.map fun e => (e.1, f e.1 e.2)).map Prod.fst = es.map Prod.fst := by
  rw [List.map_map]
  rfl

/-- Every value replaced; the keys stay in their order. -/
def mapValues (f : String → String → String) (m : TextMap) : TextMap :=
  ⟨m.entries.map fun e => (e.1, f e.1 e.2), keys_map f m.entries ▸ m.distinct⟩

/-- Putting in a value that is replaced is replacing after it was put in. -/
theorem insert_mapValues (f : String → String → String) (m : TextMap) (key value : String) :
    (m.mapValues f).insert key (f key value) = (m.insert key value).mapValues f := by
  have hentries : ∀ es : List (String × String),
      Entries.insert Entries.sameText key (f key value) (es.map fun e => (e.1, f e.1 e.2)) =
        (Entries.insert Entries.sameText key value es).map fun e => (e.1, f e.1 e.2) := by
    intro es
    induction es with
    | nil => rfl
    | cons e es ih =>
      rw [List.map_cons, Entries.insert, Entries.insert]
      by_cases h : Entries.sameText e.1 key = true
      · have hkey : e.1 = key := by simpa [Entries.sameText] using h
        rw [if_pos h, if_pos h, List.map_cons, hkey]
      · rw [if_neg h, if_neg h, List.map_cons, ih]
  exact ext_entries (hentries m.entries)

/-- **Replacing values before they are put under their keys is replacing them afterwards.** -/
theorem ofList_map (f : String → String → String) (es : List (String × String)) :
    ofList (es.map fun e => (e.1, f e.1 e.2)) = (ofList es).mapValues f := by
  have hfold : ∀ m : TextMap,
      (es.map fun e => (e.1, f e.1 e.2)).foldl (fun m e => m.insert e.1 e.2) (m.mapValues f) =
        (es.foldl (fun m e => m.insert e.1 e.2) m).mapValues f := by
    induction es with
    | nil => exact fun _ => rfl
    | cons e es ih =>
      intro m
      rw [List.map_cons, List.foldl_cons, List.foldl_cons, insert_mapValues]
      exact ih (m.insert e.1 e.2)
  exact hfold {}

end TextMap

/-- Variables with secret values concealed. -/
def Environment.conceal (hidden : String → Bool) (e : Environment) : Environment :=
  e.mapValues fun key text => if hidden key then concealed else text

namespace Registry

/-- A text concealed, unless it is empty. -/
def concealGiven (hide : Bool) (text : String) : String :=
  if hide && !text.isEmpty then concealed else text

/-- **Concealing makes no text empty, and none that is.** -/
theorem isEmpty_concealGiven (hide : Bool) (text : String) :
    (concealGiven hide text).isEmpty = text.isEmpty := by
  rw [concealGiven]
  by_cases h : (hide && !text.isEmpty) = true
  · have hgiven : text.isEmpty = false := by simpa using (Bool.and_eq_true_iff.1 h).2
    rw [if_pos h, hgiven]
    rfl
  · rw [if_neg h]

/-- A field of credentials, concealed if it is secret and given. -/
def concealField (hidden : String → Bool) (field : String) (text? : Option String) :
    Option String :=
  text?.map (concealGiven (hidden field))

/-- Credentials with secret fields concealed, as far as they are given. -/
def conceal (hidden : String → Bool) (r : Registry) : Registry where
  url := concealField hidden "url" r.url
  username := concealField hidden "username" r.username
  password := concealField hidden "password" r.password

/-- A text that is given is given when concealed, for what is shown in its place is not empty. -/
theorem isGiven_concealField (hidden : String → Bool) (field : String) (text? : Option String) :
    isGiven (concealField hidden field text?) = isGiven text? := by
  rw [isGiven, concealField, Option.any_map, isGiven]
  refine congrArg (Option.any · text?) (funext fun text => ?_)
  rw [isEmpty_concealGiven]

/-- **Concealing hides no missing half.** -/
theorem missing?_conceal (hidden : String → Bool) (r : Registry) :
    (r.conceal hidden).missing? = r.missing? := by
  rw [missing?, conceal, isGiven_concealField, isGiven_concealField, missing?]

end Registry

variable (S : Secrets)

/-- A service with secrets concealed. -/
def Service.conceal (s : Service) : Service :=
  { s with
    environment := s.environment.conceal (S.environment s.name)
    registry := s.registry.map (Registry.conceal (S.registry s.name)) }

/-- A document with secrets concealed. -/
def Document.conceal (d : Document) : Document :=
  { d with services := d.services.map fun e => (e.1, e.2.conceal S) }

/-- **Documents that differ in secrets only.** -/
def Document.SameBut (d e : Document) : Prop := d.conceal S = e.conceal S

namespace Descriptor

/-- **A descriptor with secrets concealed**: those of its services. -/
def conceal (D : Descriptor) : Descriptor :=
  { D with services := D.services.map (Service.conceal S) }

/-- **Descriptors that differ in secrets only.** -/
def SameBut (D E : Descriptor) : Prop := D.conceal S = E.conceal S

end Descriptor

end Deployment
