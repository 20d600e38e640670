import Deployment.Proofs.Concealment
import Deployment.Proofs.Manifest.Reading

/-!
# Proofs/Manifest/Concealment — manifests are read without a look at their secrets

A manifest whose secrets are concealed is read as the document whose secrets are concealed, with the
same warnings, or not read for the same reason (`Document.ofValue_conceal`).
-/

namespace Deployment

namespace CompileError

/-- A result that is changed is changed whatever error there may be. -/
theorem ofSchema_map {α β : Type} (f : α → β) (x : Except SchemaError α) :
    ofSchema (f <$> x) = f <$> ofSchema x := by
  cases x <;> rfl

theorem ofViolation_map {α β : Type} (f : α → β) (x : Except Violation α) :
    ofViolation (f <$> x) = f <$> ofViolation x := by
  cases x <;> rfl

end CompileError

namespace Manifest

/-! ## Variables

A variable stands as an entry of a mapping or as one text. In both forms its name is read before its
value is, and the value is only stored. -/

section

variable (hidden : String → Bool)

/-- A variable with its value concealed, if it is secret. -/
def concealPair (e : String × String) : String × String :=
  (e.1, if hidden e.1 then concealed else e.2)

/-- The name of a variable is the text of its key. -/
theorem scalarText?_of_variableKey? {k : Value} {key : String} (h : variableKey? k = some key) :
    k.scalarText? = some key := (Option.filter_eq_some_iff.1 h).1

/-- The value of a variable has a text or none, concealed or not. -/
theorem isSome_scalarText?_concealVariable (key v : Value) :
    (Value.concealVariable hidden key v).scalarText?.isSome = v.scalarText?.isSome := by
  rw [Value.concealVariable, Value.scalarText?_concealScalar, Option.isSome_map]

theorem scalarText?_concealVariable {k : Value} {key : String} (hk : k.scalarText? = some key)
    (v : Value) :
    (Value.concealVariable hidden k v).scalarText? =
      v.scalarText?.map fun text => if hidden key then concealed else text := by
  rw [Value.concealVariable, Value.scalarText?_concealScalar, hk, Option.all_some]

/-- A variable of a mapping is read with its value concealed. -/
theorem variableOf?_conceal (k v : Value) :
    variableOf? (k, Value.concealVariable hidden k v) =
      (variableOf? (k, v)).map (concealPair hidden) := by
  rw [variableOf?, variableOf?]
  cases hkey : variableKey? k with
  | none => rfl
  | some key =>
    rw [scalarText?_concealVariable hidden (scalarText?_of_variableKey? hkey)]
    cases v.scalarText? <;> rfl

/-- A warning names the variable and not its value. -/
theorem variableWarning?_conceal (service : String) (k v : Value) :
    variableWarning? service (k, Value.concealVariable hidden k v) =
      variableWarning? service (k, v) := by
  rw [variableWarning?, variableWarning?, isSome_scalarText?_concealVariable]

/-- A variable that is one text is read with its value concealed. -/
theorem assignment?_conceal (v : Value) :
    assignment? (v.mapString (Text.concealAfter hidden)) =
      (assignment? v).map (concealPair hidden) := by
  rw [assignment?, assignment?, Value.asString?_mapString]
  cases v.asString? with
  | none => rfl
  | some s =>
    change (Text.cut '=' (Text.concealAfter hidden s)).bind _ =
      Option.map _ ((Text.cut '=' s).bind _)
    rw [Text.cut_concealAfter]
    cases Text.cut '=' s with
    | none => rfl
    | some e =>
      change (if e.1.isEmpty then none else some (concealPair hidden e)) =
        Option.map _ (if e.1.isEmpty then none else some e)
      by_cases h : e.1.isEmpty = true
      · rw [if_pos h, if_pos h]
        rfl
      · rw [if_neg h, if_neg h]
        rfl

theorem filterMap_conceal {α : Type} {f : α → Option (String × String)} {g : α → α}
    (h : ∀ a, f (g a) = (f a).map (concealPair hidden)) (as : List α) :
    (as.map g).filterMap f = (as.filterMap f).map (concealPair hidden) := by
  rw [List.filterMap_map, List.map_filterMap]
  exact congrArg (List.filterMap · as) (funext h)

/-- **Variables are read without a look at their values.** -/
theorem environment_conceal (service : String) (v : Value) :
    environment service (v.concealVariables hidden) =
      (fun e => (Environment.conceal hidden e.1, e.2)) <$> environment service v := by
  have hofList (es : List (String × String)) :
      TextMap.ofList (es.map (concealPair hidden)) = Environment.conceal hidden (.ofList es) :=
    TextMap.ofList_map (fun key text => if hidden key then concealed else text) es
  cases v with
  | mapping vars =>
    have hvars : (vars.map fun e => (e.1, Value.concealVariable hidden e.1 e.2)).filterMap
        variableOf? = (vars.filterMap variableOf?).map (concealPair hidden) :=
      filterMap_conceal hidden (fun e => variableOf?_conceal hidden e.1 e.2) vars
    have hwarnings : (vars.map fun e => (e.1, Value.concealVariable hidden e.1 e.2)).filterMap
        (variableWarning? service) = vars.filterMap (variableWarning? service) := by
      rw [List.filterMap_map]
      exact congrArg (List.filterMap · vars)
        (funext fun e => variableWarning?_conceal hidden service e.1 e.2)
    have hmapping : (Value.mapping vars).concealVariables hidden =
        .mapping (vars.map fun e => (e.1, Value.concealVariable hidden e.1 e.2)) := rfl
    rw [hmapping, environment, hvars, hwarnings, hofList]
    rfl
  | sequence entries =>
    have hentries : (entries.map (Value.mapString (Text.concealAfter hidden))).filterMap
        assignment? = (entries.filterMap assignment?).map (concealPair hidden) :=
      filterMap_conceal hidden (assignment?_conceal hidden) entries
    have hsequence : (Value.sequence entries).concealVariables hidden =
        .sequence (entries.map (Value.mapString (Text.concealAfter hidden))) := rfl
    rw [hsequence, environment, hentries, hofList]
    rfl
  | null => rfl
  | bool b => rfl
  | number n => rfl
  | string s => rfl
  | tagged tag v => rfl

/-! ## Credentials -/

/-- A field of credentials as it is read; an empty text is none. -/
def fieldOf (entries : List (Value × Value)) (key : String) : Option String :=
  ((Value.lookup key entries).bind Value.scalarText?).filter fun s => !s.isEmpty

theorem fieldOf_conceal (entries : List (Value × Value)) (key : String) :
    fieldOf (entries.map fun e => (e.1, Value.concealField hidden e.1 e.2)) key =
      Registry.concealField hidden key (fieldOf entries key) := by
  have hfilter (text? : Option String) :
      (Registry.concealField hidden key text?).filter (fun s => !s.isEmpty) =
        Registry.concealField hidden key (text?.filter fun s => !s.isEmpty) := by
    have hgiven : (fun s => !s.isEmpty) ∘ Registry.concealGiven (hidden key) =
        fun s => !s.isEmpty :=
      funext fun s => congrArg not (Registry.isEmpty_concealGiven (hidden key) s)
    rw [Registry.concealField, Option.filter_map, hgiven]
    rfl
  have htext (v : Value) : (Value.concealField hidden (.string key) v).scalarText? =
      Registry.concealField hidden key v.scalarText? := by
    rw [Value.concealField, Value.scalarText?_concealScalar]
    rfl
  rw [fieldOf, fieldOf, Value.lookup_map]
  cases Value.lookup key entries with
  | none => rfl
  | some v =>
    rw [Option.map_some, Option.bind_some, htext]
    exact hfilter v.scalarText?

theorem registry_conceal (service : String) (v : Value) :
    registry service (v.concealCredentials hidden) =
      Registry.conceal hidden <$> registry service v := by
  rw [registry, registry, Value.concealCredentials, Value.asMapping?_mapEntries]
  cases v.asMapping? with
  | none => rfl
  | some entries =>
    change pure (⟨fieldOf (entries.map _) "url", fieldOf (entries.map _) "username",
      fieldOf (entries.map _) "password"⟩ : Registry) = pure (Registry.conceal hidden
        ⟨fieldOf entries "url", fieldOf entries "username", fieldOf entries "password"⟩)
    rw [fieldOf_conceal, fieldOf_conceal, fieldOf_conceal]
    rfl

end

/-! ## Settings -/

variable (S : Secrets)

/-- What an entry of a body says, with secrets concealed. -/
def Setting.conceal (service : String) : Setting → Setting
  | .environment e warnings => .environment (e.conceal (S.environment service)) warnings
  | .registry r => .registry (r.conceal (S.registry service))
  | setting => setting

theorem conceal_setting {service : String} {key : Value}
    (henvironment : key.asString? ≠ some "environment")
    (hregistry : key.asString? ≠ some "x-registry") (v : Value) :
    Setting.conceal S service <$> setting service (key, v) = setting service (key, v) := by
  rw [setting]
  split
  · rfl
  · exact Functor.map_map _ _ _
  · contradiction
  · exact Functor.map_map _ _ _
  · cases v.scalarText? <;> rfl
  · contradiction
  · rfl

/-- **What an entry of a body says is read without a look at secrets.** -/
theorem setting_conceal (service : String) (key v : Value) :
    setting service (key, Value.concealSetting S service key v) =
      Setting.conceal S service <$> setting service (key, v) := by
  by_cases henvironment : key.asString? = some "environment"
  · have hvariables : Value.concealSetting S service key v =
        v.concealVariables (S.environment service) := if_pos henvironment
    rw [hvariables]
    simp only [setting, henvironment]
    exact Outcome.bind_eq_map_bind (environment_conceal (S.environment service) service v)
      fun _ _ => rfl
  by_cases hregistry : key.asString? = some "x-registry"
  · have hcredentials : Value.concealSetting S service key v =
        v.concealCredentials (S.registry service) :=
      (if_neg henvironment).trans (if_pos hregistry)
    rw [hcredentials]
    simp only [setting, hregistry]
    rw [registry_conceal, Functor.map_map, Functor.map_map]
    rfl
  · have hnone : Value.concealSetting S service key v = v :=
      (if_neg henvironment).trans (if_neg hregistry)
    rw [hnone, conceal_setting S henvironment hregistry]

/-- All settings of a body are read as concealed ones. -/
theorem settings_conceal (service : String) (es : List (Value × Value)) :
    settings service (es.map fun e => (e.1, Value.concealSetting S service e.1 e.2)) =
      List.map (Setting.conceal S service) <$> settings service es := by
  induction es with
  | nil => rfl
  | cons e es ih =>
    rw [List.map_cons, settings, settings]
    refine Outcome.bind_eq_map_bind (setting_conceal S service e.1 e.2) fun s _ => ?_
    exact Outcome.bind_eq_map_bind ih fun _ _ => rfl

/-! ## Services

A body is read one setting after the other. Each commutes with concealing, and the name under which
secrets are looked up does not change on the way. -/

/-- A draft with secrets concealed. -/
def Draft.conceal (draft : Draft) : Draft := (draft.1.conceal S, draft.2)

/-- A setting that is concealed sets what it set, concealed. -/
theorem Draft.apply_conceal (draft : Draft) (setting : Setting) :
    (Draft.conceal S draft).apply (setting.conceal S draft.1.name) =
      Draft.conceal S (draft.apply setting) := by
  cases setting <;> rfl

theorem foldl_apply_conceal (name : String) (ss : List Setting) :
    ∀ draft : Draft, draft.1.name = name →
      (ss.map (Setting.conceal S name)).foldl Draft.apply (Draft.conceal S draft) =
        Draft.conceal S (ss.foldl Draft.apply draft) := by
  induction ss with
  | nil => exact fun _ _ => rfl
  | cons s ss ih =>
    intro draft hname
    rw [List.map_cons, List.foldl_cons, List.foldl_cons, ← hname, Draft.apply_conceal, hname]
    exact ih (draft.apply s) ((name_apply draft s).trans hname)

theorem drafted_conceal (name image : String) (ss : List Setting) :
    drafted name image (ss.map (Setting.conceal S name)) =
      Draft.conceal S (drafted name image ss) := by
  have happlied : applied name image (ss.map (Setting.conceal S name)) =
      Draft.conceal S (applied name image ss) :=
    foldl_apply_conceal S name ss ({ name, image }, []) rfl
  rw [drafted, happlied]
  rfl

/-- The entries of a body are concealed one by one. -/
theorem bodyEntries_conceal (name : String) (body : Value) :
    bodyEntries name (body.concealBody S name) =
      List.map (fun e => (e.1, Value.concealSetting S name e.1 e.2)) <$> bodyEntries name body := by
  cases body <;> rfl

/-- The image of a service is no secret. -/
theorem image_conceal (name : String) (es : List (Value × Value)) :
    image name (es.map fun e => (e.1, Value.concealSetting S name e.1 e.2)) = image name es := by
  have himage : Value.concealSetting S name (.string "image") = id := by
    funext v
    simp [Value.concealSetting, Value.asString?]
  rw [image, Value.lookup_map, himage, Option.map_id, image]
  rfl

/-- **A service is read without a look at its secrets.** -/
theorem service_conceal (name : String) (body : Value) :
    service name (body.concealBody S name) = Draft.conceal S <$> service name body := by
  rw [service, service]
  refine Outcome.bind_eq_map_bind (bodyEntries_conceal S name body) fun es _ => ?_
  rw [image_conceal]
  refine Outcome.bind_eq_map_bind_right fun image _ => ?_
  refine Outcome.bind_eq_map_bind (settings_conceal S name es) fun ss _ => ?_
  exact congrArg Except.ok (drafted_conceal S name image ss)

/-- Whether a name is taken has nothing to do with secrets. -/
theorem add_conceal (d : Document) (s : Service) :
    (d.conceal S).add (s.conceal S) = Document.conceal S <$> d.add s := by
  have hhas : Entries.has Entries.sameText s.name (d.conceal S).services =
      Entries.has Entries.sameText s.name d.services := by
    rw [Entries.has, Document.conceal, List.any_map]
    rfl
  have hname : (s.conceal S).name = s.name := rfl
  rw [Document.add, Document.add, hname, hhas]
  by_cases h : Entries.has Entries.sameText s.name d.services = true
  · rw [if_pos h, if_pos h]
    rfl
  · rw [if_neg h, if_neg h]
    exact congrArg Except.ok (by simp [Document.conceal])

/-- The body of a service under its key, with secrets concealed. -/
def concealService (e : Value × Value) : Value × Value :=
  (e.1, e.2.concealBody S ((serviceName e.1).toOption.getD ""))

/-- The services are added in the same order and fail at the same one. -/
theorem addServices_conceal (d : Document) (es : List (Value × Value)) :
    addServices (d.conceal S) (es.map (concealService S)) =
      Document.conceal S <$> addServices d es := by
  induction es generalizing d with
  | nil => rfl
  | cons e es ih =>
    obtain ⟨key, body⟩ := e
    rw [List.map_cons, concealService, addServices, addServices]
    refine Outcome.bind_eq_map_bind_right fun name hname => ?_
    have hkey : (serviceName key).toOption.getD "" = name := by
      rw [CompileError.ofSchema_eq_ok_iff.1 hname]
      rfl
    have hservice : CompileError.ofSchema (service name (body.concealBody S name)) =
        Draft.conceal S <$> CompileError.ofSchema (service name body) := by
      rw [service_conceal, CompileError.ofSchema_map]
    rw [hkey]
    refine Outcome.bind_eq_map_bind hservice fun draft _ => ?_
    have hadd := congrArg CompileError.ofViolation
      (add_conceal S { d with warnings := d.warnings ++ draft.2 } draft.1)
    rw [CompileError.ofViolation_map] at hadd
    exact Outcome.bind_eq_map_bind hadd fun d' _ => ih d'

/-! ## Documents -/

/-- Volumes are declared by names, and these are no secrets. -/
theorem declareAll_conceal (d : Document) (vols : List (Value × Value)) :
    declareAll (d.conceal S) vols = Document.conceal S <$> declareAll d vols := by
  induction vols generalizing d with
  | nil => rfl
  | cons e vols ih =>
    obtain ⟨key, v⟩ := e
    rw [declareAll, declareAll]
    cases key.scalarText? with
    | none => rfl
    | some name => exact ih (d.declare name)

theorem declareVolumes_conceal (d : Document) (v : Value) :
    declareVolumes (d.conceal S) v = Document.conceal S <$> declareVolumes d v := by
  cases v with
  | mapping vols => exact declareAll_conceal S d vols
  | _ => rfl

/-- **What stands beside the services is read as it is.** -/
theorem addRest_conceal (d : Document) (es : List (Value × Value)) :
    addRest (d.conceal S) (es.map fun e => (e.1, Value.concealPart S e.1 e.2)) =
      Document.conceal S <$> addRest d es := by
  induction es generalizing d with
  | nil => rfl
  | cons e es ih =>
    obtain ⟨key, v⟩ := e
    rw [List.map_cons]
    by_cases hservices : key.asString? = some "services"
    · rw [addRest, addRest, hservices]
      exact ih d
    have hpart : Value.concealPart S key v = v := if_neg hservices
    simp only [hpart]
    by_cases hvolumes : key.asString? = some "volumes"
    · rw [addRest, addRest, hvolumes]
      exact Outcome.bind_eq_map_bind (declareVolumes_conceal S d v) fun d' _ => ih d'
    · rw [addRest_extension hservices hvolumes, addRest_extension hservices hvolumes,
        withEntry_extension hservices hvolumes, withEntry_extension hservices hvolumes]
      exact ih { d with extensions := Entries.insert Value.same key v d.extensions }

/-- The services of a manifest are concealed one by one. -/
theorem servicesOf_conceal (root : List (Value × Value)) :
    servicesOf (root.map fun e => (e.1, Value.concealPart S e.1 e.2)) =
      List.map (concealService S) <$> servicesOf root := by
  rw [servicesOf, servicesOf, Value.lookup_map]
  cases Value.lookup "services" root with
  | none => rfl
  | some v =>
    have hpart : Value.concealPart S (.string "services") v =
        v.mapEntries fun key => Value.concealBody S ((serviceName key).toOption.getD "") :=
      if_pos rfl
    rw [Option.map_some, hpart]
    cases v <;> rfl

end Manifest

/-- **A manifest is read without a look at its secrets**: the document that it becomes when they are
concealed is the document with its secrets concealed, and what fails does for the same reason. -/
theorem Document.ofValue_conceal (S : Secrets) (v : Value) :
    ofValue (v.conceal S) = Document.conceal S <$> ofValue v := by
  have hroot : CompileError.ofSchema ((v.conceal S).asMapping?.elim (throw .notMapping) pure) =
      List.map (fun e => (e.1, Value.concealPart S e.1 e.2)) <$>
        CompileError.ofSchema (v.asMapping?.elim (throw .notMapping) pure) := by
    rw [Value.conceal, Value.asMapping?_mapEntries]
    cases v.asMapping? <;> rfl
  rw [ofValue, ofValue]
  refine Outcome.bind_eq_map_bind hroot fun root _ => ?_
  have hservices := congrArg CompileError.ofSchema (Manifest.servicesOf_conceal S root)
  rw [CompileError.ofSchema_map] at hservices
  refine Outcome.bind_eq_map_bind hservices fun services _ => ?_
  refine Outcome.bind_eq_map_bind (Manifest.addServices_conceal S {} services) fun d _ => ?_
  rw [Manifest.addRest_conceal, CompileError.ofSchema_map]

end Deployment
