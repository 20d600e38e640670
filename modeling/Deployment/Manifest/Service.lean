import Deployment.CompileError
import Deployment.Document
import Deployment.Yaml.Writing

/-!
# Manifest/Service — services in manifest notation

The body of a service is a mapping. Each of its entries is read on its own, and what a key says is
read through a tag on the key. Ports keep their container side only; entries of `ports`, of
`volumes` and of a mapping of variables that cannot be used are left out with a warning.
-/

namespace Deployment.Manifest

/-- The port of a text such as `8080:80/tcp`: what is behind the last colon and before a slash. -/
def normalizePort? (entry : String) : Option Nat :=
  Service.portOfText? <|
    Text.trimChars (Text.beforeFirst '/' (Text.afterLast ':' entry.toList))

/-- The port of a number or a text. -/
def scalarPort? : Value → Option Nat
  | .number (.int i) => if 0 < i ∧ i < Nat.pow 2 16 then some i.toNat else none
  | .string s => normalizePort? s
  | _ => none

/-- The container port of an entry of `ports`; a mapping names it under `target`. -/
def entryPort? : Value → Option Nat
  | .mapping long => (Value.lookup "target" long).bind scalarPort?
  | v => scalarPort? v

/-- The text of a value that is left out. -/
def entryText (v : Value) : String := v.scalarText?.getD (Yaml.writeTrimmed v)

/-- The ports of the entries of `ports`. -/
def ports (entries : List Value) : List Nat := entries.filterMap entryPort?

/-- The warnings about the entries of `ports`. -/
def portWarnings (service : String) (entries : List Value) : List Warning :=
  entries.filterMap fun v =>
    if (entryPort? v).isSome then none
    else some ⟨service, "ports", entryText v, "container port is not a number in 1-65535"⟩

/-- The text of an entry of `volumes`. -/
def volumeText? : Value → Option String
  | .string s => some s
  | _ => none

/-- The mounts of the entries of `volumes`. -/
def volumes (entries : List Value) : List String := entries.filterMap volumeText?

/-- The warnings about the entries of `volumes`. -/
def volumeWarnings (service : String) (entries : List Value) : List Warning :=
  entries.filterMap fun v =>
    if (volumeText? v).isSome then none
    else some ⟨service, "volumes", entryText v, "only short-syntax volume strings are supported"⟩

/-- The key of a variable; a key without text names none. -/
def variableKey? (k : Value) : Option String := k.scalarText?.filter fun s => !s.isEmpty

/-- The variable that an entry of a mapping sets. -/
def variableOf? : Value × Value → Option (String × String)
  | (k, v) => do return (← variableKey? k, ← v.scalarText?)

/-- The warning about an entry of a mapping of variables. The value is not shown, since it may be a
credential. -/
def variableWarning? (service : String) : Value × Value → Option Warning
  | (k, v) => do
    let key ← variableKey? k
    if v.scalarText?.isSome then none
    else some ⟨service, "environment", key, "value is not a scalar"⟩

/-- The variable that a text `KEY=VALUE` sets. -/
def assignment? (v : Value) : Option (String × String) := do
  (← Text.cut '=' (← v.asString?)) |> fun (k, text) => if k.isEmpty then none else some (k, text)

/-- The variables of a mapping or a list, and the warnings about the mapping. -/
def environment (service : String) :
    Value → Except SchemaError (Environment × List Warning)
  | .null => return ({}, [])
  | .mapping vars =>
    return (.ofList (vars.filterMap variableOf?), vars.filterMap (variableWarning? service))
  | .sequence entries => return (.ofList (entries.filterMap assignment?), [])
  | _ => throw (.environmentNeither service)

/-- The entries of a list that may be null. -/
def listEntries (error : SchemaError) : Value → Except SchemaError (List Value)
  | .null => return []
  | .sequence entries => return entries
  | _ => throw error

/-- The credentials of a mapping; an empty text is none. -/
def registry (service : String) (v : Value) : Except SchemaError Registry :=
  match v.asMapping? with
  | none => throw (.registryNotMapping service)
  | some entries =>
    let field (key : String) : Option String :=
      ((Value.lookup key entries).bind Value.scalarText?).filter fun s => !s.isEmpty
    return ⟨field "url", field "username", field "password"⟩

/-- What an entry of the body of a service says. -/
inductive Setting where
  | image
  | ports (entries : List Value)
  | environment (e : Environment) (warnings : List Warning)
  | volumes (entries : List Value)
  | subdomain (text : String)
  | registry (r : Registry)
  | extra (key value : Value)

/-- What an entry of the body of a service says; a tag on the key is read through. -/
def setting (service : String) : Value × Value → Except SchemaError Setting
  | (key, v) =>
    match key.asString? with
    | some "image" => return .image
    | some "ports" => .ports <$> listEntries (.portsNotList service) v
    | some "environment" => do
      let (e, ws) ← environment service v
      return .environment e ws
    | some "volumes" => .volumes <$> listEntries (.volumesNotList service) v
    | some "x-subdomain" =>
      match v.scalarText? with
      | some text => return .subdomain text
      | none => throw (.subdomainNotText service)
    | some "x-registry" => .registry <$> registry service v
    | _ => return .extra key v

/-- A service as far as it was read, and the warnings so far. -/
abbrev Draft := Service × List Warning

/-- A draft with one setting more. A later setting of a field replaces an earlier one. -/
def Draft.apply : Draft → Setting → Draft
  | (s, ws), setting =>
    match setting with
    | .image => (s, ws)
    | .ports entries =>
      ({ s with ports := ports entries }, ws ++ portWarnings s.name entries)
    | .environment e more => ({ s with environment := e }, ws ++ more)
    | .volumes entries =>
      ({ s with volumes := volumes entries }, ws ++ volumeWarnings s.name entries)
    | .subdomain text => ({ s with subdomain := some text }, ws)
    | .registry r => ({ s with registry := some r }, ws)
    | .extra key v => ({ s with extra := Entries.insert Value.same key v s.extra }, ws)

/-- The image that a body names; without one the service is built where it runs. -/
def image (service : String) (body : List (Value × Value)) : Except SchemaError String :=
  match Value.lookup "image" body with
  | none | some .null => return Service.customBuild
  | some v =>
    match v.scalarText? with
    | some text => return text
    | none => throw (.imageNotText service)

/-- The settings of a body, up to the first entry that is not one. -/
def settings (service : String) : List (Value × Value) → Except SchemaError (List Setting)
  | [] => return []
  | e :: es => do
    let s ← setting service e
    return s :: (← settings service es)

/-- A service that asks for no fragment asks for the one of its label. -/
def withLabelledFragment (s : Service) : Service :=
  { s with subdomain := s.subdomain.or (s.label? Service.subdomainLabel) }

/-- The entries of the body of a service; null stands for none. -/
def bodyEntries (service : String) : Value → Except SchemaError (List (Value × Value))
  | .mapping entries => return entries
  | .null => return []
  | _ => throw (.serviceNotMapping service)

/-- The service with a name and a body, and the warnings about it. -/
def service (name : String) (body : Value) : Except SchemaError Draft := do
  let entries ← bodyEntries name body
  let image ← image name entries
  let settings ← settings name entries
  let (s, ws) := settings.foldl Draft.apply ({ name, image }, [])
  return (withLabelledFragment s, ws)

end Deployment.Manifest
