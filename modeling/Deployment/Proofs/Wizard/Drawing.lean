import Deployment.Proofs.Outcome
import Deployment.Wizard

/-!
# Proofs/Wizard/Drawing — credentials are drawn one after the other

Setting up an archetype takes its credentials from a stream as it needs them: the password of the
database, then the key of the application, then the password of the database's administrator.
`Wizard.run_setUp`: that is `Wizard.compile`, and `Wizard.secretsDrawn` is the number of credentials
drawn.  A document looks at these only (`Wizard.compile_congr`), so they may as well be drawn
beforehand (`Wizard.compile_range`).
-/

namespace Deployment

namespace Wizard

/-- Draw the next credential. -/
def draw (secrets : Nat → String) : StateM Nat String := modifyGet fun n => (secrets n, n + 1)

/-- The variables that an application starts with, its key drawn if it needs one. -/
def drawOwnVariables (secrets : Nat → String) : Application → StateM Nat (List (String × String))
  | .rails => ownVariables .rails <$> draw secrets
  | a => pure (ownVariables a "")

/-- The service of a database, the password of its administrator drawn if it needs one. -/
def drawLinkedService (secrets : Nat → String) (l : Link) : StateM Nat Service :=
  match l.engine with
  | .mysql => linkedService l <$> draw secrets
  | .postgres => pure (linkedService l "")

/-- The application of an archetype and its database, credentials drawn as they are needed.  No
service is refused between the draws: the application is the first one of its document. -/
def drawServices (a : Archetype) (appName : Option String) (engine : Option DatabaseEngine)
    (cache : Bool) (secrets : Nat → String) : StateM Nat (Service × Option Service) := do
  let link? ← engine.mapM fun e => link a.application appName e <$> draw secrets
  let own ← drawOwnVariables secrets a.application
  let settings := own ++ (link?.map (linkVariables a.application)).getD [] ++
    (if cache then cacheVariables else [])
  return (applicationService a settings, ← link?.mapM (drawLinkedService secrets))

/-- **Set up the archetype of a name**: a choice that cannot be made ends it before anything is
drawn. -/
def setUp (id : String) (o : Options) (secrets : Nat → String) :
    ExceptT Violation (StateM Nat) Document := do
  let (a, engine) ← ExceptT.mk (pure (choose id o))
  let cache := a.bundledCache || o.cache
  let (app, db?) ← drawServices a o.appName engine cache secrets
  ExceptT.mk (pure (documentOf app db? cache))

variable (secrets : Nat → String) (n : Nat)

/-- What is drawn first comes first. -/
theorem run_bind {α β : Type} (x : StateM Nat α) (f : α → StateM Nat β) :
    (x >>= f).run n = (f (x.run n).1).run (x.run n).2 := rfl

theorem run_map {α β : Type} (f : α → β) (x : StateM Nat α) :
    (f <$> x).run n = (f (x.run n).1, (x.run n).2) := rfl

theorem run_draw : (draw secrets).run n = (secrets n, n + 1) := rfl

/-- An application draws one secret for its key, if it has one. -/
theorem run_drawOwnVariables (a : Application) :
    (drawOwnVariables secrets a).run n =
      (ownVariables a (secrets n), n + applicationSecrets a) := by
  cases a <;> rfl

/-- The password of the user is drawn for the link already. -/
theorem run_drawLinkedService (l : Link) :
    (drawLinkedService secrets l).run n =
      (linkedService l (secrets n), n + (databaseSecrets (some l.engine) - 1)) := by
  obtain ⟨engine, name, user, password⟩ := l
  cases engine <;> rfl

theorem engine_link (a : Application) (appName : Option String) (engine : DatabaseEngine)
    (password : String) : (link a appName engine password).engine = engine := by
  cases a <;> rfl

/-- **Where each credential stands in the stream.** -/
theorem run_drawServices (a : Archetype) (appName : Option String) (engine : Option DatabaseEngine)
    (cache : Bool) :
    (drawServices a appName engine cache secrets).run 0 =
      ((application a appName engine cache secrets, database? a appName engine secrets),
        applicationSecrets a.application + databaseSecrets engine) := by
  cases engine with
  | none =>
    simp only [drawServices, Option.mapM_none, pure_bind, run_bind, run_drawOwnVariables]
    exact Prod.ext rfl (Nat.zero_add _)
  | some e =>
    have hcount : 1 + applicationSecrets a.application + (databaseSecrets (some e) - 1) =
        applicationSecrets a.application + databaseSecrets (some e) := by
      cases e <;> simp only [databaseSecrets] <;> omega
    simp only [drawServices, Option.mapM_some, run_bind, run_map, run_draw, run_drawOwnVariables,
      run_drawLinkedService, engine_link, Nat.zero_add]
    exact Prod.ext rfl hcount

/-- **What is set up is the document of the archetype**, after as many draws as it has
credentials. -/
theorem run_setUp (id : String) (o : Options) :
    (setUp id o secrets).run.run 0 = (compile id o secrets, secretsDrawn id o) := by
  unfold setUp compile secretsDrawn
  cases choose id o with
  | error v => rfl
  | ok p =>
    obtain ⟨a, engine⟩ := p
    have hrun := run_drawServices secrets a o.appName engine (a.bundledCache || o.cache)
    simp only [ExceptT.run_bind, ExceptT.run_mk, pure_bind, ExceptT.run_liftM, run_bind, run_map,
      hrun]
    rfl

/-! ## Credentials drawn beforehand

Credentials may be drawn before it is known which archetype needs them: a document looks at no other
credentials of its stream than those that are drawn for it, and there is a number that no archetype
exceeds. -/

/-- An application that draws no key has none. -/
theorem ownVariables_congr {a : Application} {key other : String}
    (h : applicationSecrets a = 1 → key = other) : ownVariables a key = ownVariables a other := by
  cases a with
  | rails => rw [h rfl]
  | _ => rfl

/-- A database that draws no second password has none. -/
theorem linkedService_congr {l : Link} {rootPassword other : String}
    (h : databaseSecrets (some l.engine) = 2 → rootPassword = other) :
    linkedService l rootPassword = linkedService l other := by
  rw [linkedService, linkedService, databaseVariables, databaseVariables]
  cases hengine : l.engine with
  | mysql => rw [h (by rw [hengine]; rfl)]
  | postgres => rfl

section

variable {secrets} {other : Nat → String} {a : Archetype} {engine : Option DatabaseEngine}
  (appName : Option String)
  (h : ∀ k < applicationSecrets a.application + databaseSecrets engine, secrets k = other k)
include h

/-- The password of the user is drawn first. -/
theorem link?_congr : link? a appName engine secrets = link? a appName engine other := by
  cases engine with
  | none => rfl
  | some e =>
    have hfirst : secrets 0 = other 0 := h 0 (by cases e <;> simp [databaseSecrets])
    rw [link?, link?, Option.map_some, Option.map_some, hfirst]

/-- The key of the application is drawn behind it. -/
theorem application_congr (cache : Bool) :
    application a appName engine cache secrets = application a appName engine cache other := by
  have hown : ownVariables a.application (secrets (keyIndex engine)) =
      ownVariables a.application (other (keyIndex engine)) := by
    refine ownVariables_congr fun hkey => h _ ?_
    rw [hkey]
    rcases engine with _ | _ | _ <;> simp [keyIndex, databaseSecrets]
  rw [application, application, settings, settings, link?_congr appName h, hown]

/-- The password of the administrator is drawn last. -/
theorem database?_congr :
    database? a appName engine secrets = database? a appName engine other := by
  rw [database?, database?, link?_congr appName h]
  refine Option.map_congr fun l hl => linkedService_congr fun hroot => h _ ?_
  obtain ⟨e, rfl, rfl⟩ := Option.map_eq_some_iff.1 hl
  rw [engine_link] at hroot
  rw [hroot, keyIndex, Option.isSome_some, if_pos rfl]
  omega

end

variable {secrets} in
/-- **A document depends on the credentials that are drawn for it only.** -/
theorem compile_congr {other : Nat → String} {id : String} {o : Options}
    (h : ∀ k < secretsDrawn id o, secrets k = other k) :
    compile id o secrets = compile id o other := by
  unfold secretsDrawn at h
  unfold compile
  cases hchoose : choose id o with
  | error v => rfl
  | ok p =>
    obtain ⟨a, engine⟩ := p
    rw [hchoose] at h
    simp only [Outcome.ok_bind, application_congr o.appName h, database?_congr o.appName h]

/-- **As many credentials as any archetype draws may be drawn beforehand.** -/
theorem compile_range (id : String) (o : Options) :
    compile id o (((List.range mostSecrets).map secrets).getD · "") = compile id o secrets := by
  refine compile_congr fun k hk => ?_
  have hk : k < mostSecrets := Nat.lt_of_lt_of_le hk (secretsDrawn_le id o)
  simp [hk]

end Wizard

end Deployment
