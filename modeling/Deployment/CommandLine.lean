import Deployment.CommandLine.Arguments
import Deployment.Wire.Descriptor
import Deployment.Wire.Template

/-!
# CommandLine — deployments from the command line

A command compiles a manifest, an archetype or a stored template, or lists the archetypes. Options
about the target may stand before the command or behind it; those behind it win.
-/

namespace Deployment

namespace CommandLine

/-- What is to be done. -/
inductive Command where
  | manifest (path : String)
  | wizard (archetype : String) (options : Wizard.Options)
  | template (path id customerName deployName : String) (supplied : Bindings)
  | archetypes
  deriving DecidableEq

/-- A command for a target. -/
structure Invocation where
  target : Target
  command : Command
  deriving DecidableEq

/-- Any value is accepted. -/
def anyText : String → Bool := fun _ => true

/-- A path is not empty. -/
def isPath (text : String) : Bool := !text.isEmpty

/-- The name and the text of a variable. -/
def assignment? (text : String) : Option (String × String) := do
  let (name, value) ← Text.cut '=' text
  if Text.isBlankText name then none else some (Text.trim name, value)

/-- The options about the target. -/
def targetOptions : List OptionSpec := [
  ⟨"domain", .single anyText⟩,
  ⟨"customer", .single anyText⟩,
  ⟨"alias", .many anyText⟩,
  ⟨"ssl", .flag⟩,
  ⟨"ssl-provider", .single anyText⟩]

/-- What stands before the command. -/
def topSpec : Spec where
  options := targetOptions
  commands := ["manifest", "wizard", "template", "archetypes", "help"]
  hasVersion := true

/-- What stands behind a command. -/
def commandSpec : String → Spec
  | "manifest" => { options := targetOptions, operands := [isPath] }
  | "wizard" =>
    { options := targetOptions ++ [
        ⟨"database", .single fun text => (DatabaseEngine.ofText text).isOk⟩,
        ⟨"cache", .flag⟩,
        ⟨"tier", .single fun text => (ResourceTier.ofText text).isOk⟩,
        ⟨"app-name", .single anyText⟩]
      operands := [anyText] }
  | "template" =>
    { options := targetOptions ++ [
        ⟨"customer-name", .single anyText⟩,
        ⟨"deploy-name", .single anyText⟩,
        ⟨"var", .many fun text => (assignment? text).isSome⟩]
      operands := [isPath, anyText] }
  | _ => { options := targetOptions }

/-- The target of the options before a command and behind it. -/
def targetOf (top inner : Given) : Target :=
  let text? (name : String) : Option String := (inner.value? name).or (top.value? name)
  let ssl := top.has "ssl" || inner.has "ssl"
  { domain := (text? "domain").getD ""
    aliases := if inner.has "alias" then inner.values "alias" else top.values "alias"
    customer := (text? "customer").getD ""
    ssl := if ssl then ⟨true, text? "ssl-provider"⟩ else {} }

/-- The command with a name, if it has all that it needs. -/
def commandOf? (name : String) (g : Given) : Option Command :=
  match name with
  | "manifest" => .manifest <$> g.operand? 0
  | "wizard" => do
    let archetype ← g.operand? 0
    let tier? := (g.value? "tier").bind fun text => (ResourceTier.ofText text).toOption
    return .wizard archetype
      { appName := g.value? "app-name"
        database := (g.value? "database").bind fun text => (DatabaseEngine.ofText text).toOption
        cache := g.has "cache"
        tier := tier?.getD .small }
  | "template" => do
    return .template (← g.operand? 0) (← g.operand? 1) (← g.value? "customer-name")
      (← g.value? "deploy-name") (.ofList ((g.values "var").filterMap assignment?))
  | "archetypes" => some .archetypes
  | _ => none

/-- What a request for help behind the command `help` ends with. -/
def helpStop : List String → Stop
  | [] => .help
  | [name] => if topSpec.commands.contains name then .help else .usage
  | _ => .usage

/-- The invocation that arguments ask for. -/
def Invocation.ofArguments (arguments : List String) : Except Stop Invocation := do
  let (top, command?) ← readLevel topSpec {} arguments
  match command? with
  | none => throw .usage
  | some ("help", names) => throw (helpStop names)
  | some (name, rest) =>
    let (inner, _) ← readLevel (commandSpec name) {} rest
    match commandOf? name inner with
    | some command => return ⟨targetOf top inner, command⟩
    | none => throw .usage

/-! ## Running -/

/-- A failure, with what is behind it. -/
structure Report where
  headline : String
  causes : List String := []
  deriving DecidableEq

/-- A cause with its lines after the first indented. -/
def Report.indented (first other cause : String) : String :=
  let parts := (Text.splitOn '\n' cause.toList).map String.ofList
  first ++ ("\n" ++ other).intercalate parts

/-- A line for each cause; the causes are numbered if there is more than one. -/
def Report.text (r : Report) : String :=
  let causes := match r.causes with
    | [cause] => [indented "    " "    " cause]
    | causes => causes.zipIdx.map fun (cause, i) =>
        let number := Text.natText i
        indented (String.ofList (List.replicate (5 - number.length) ' ') ++ number ++ ": ")
          "       " cause
  let behind := if causes.isEmpty then "" else
    "\n\nCaused by:\n" ++ "\n".intercalate causes
  "Error: " ++ r.headline ++ behind

/-- A file that was found: its size in bytes, and its text or why it cannot be read. -/
structure SourceFile where
  size : Nat
  text : Except String String

/-- What can be found under a path, or why nothing is. -/
abbrev Files := String → Except String SourceFile

/-- What is printed. -/
inductive Result where
  | descriptor (d : Descriptor)
  | listing (text : String)

/-- The text of a manifest that is not too large. -/
def readManifest (files : Files) (settings : Settings) (path : String) : Except Report String := do
  match files path with
  | .error reason => throw ⟨"Failed to stat manifest " ++ path, [reason]⟩
  | .ok file =>
    if settings.maxManifestBytes < file.size then
      throw { headline := "Manifest " ++ path ++ " is " ++ Text.natText file.size ++
        " bytes, limit is " ++ Text.natText settings.maxManifestBytes ++ " bytes" }
    match file.text with
    | .ok text => return text
    | .error reason => throw ⟨"Failed to read manifest " ++ path, [reason]⟩

/-- The templates in a file. -/
def readStore (files : Files) (path : String) : Except Report TemplateStore :=
  match files path >>= SourceFile.text with
  | .error reason => throw ⟨"Failed to read template store " ++ path, [reason]⟩
  | .ok text =>
    match TemplateStore.ofText text with
    | .ok store => return store
    | .error reason => throw ⟨"Failed to load templates", (DeployError.store reason).chain⟩

/-- A text with blanks behind it up to a width. -/
def padded (width : Nat) (text : String) : String :=
  text ++ String.ofList (List.replicate (width - text.length) ' ')

/-- The archetypes, one on a line. -/
def archetypeListing : String :=
  String.join (Archetype.catalog.map fun a =>
    padded 20 a.id ++ " " ++ padded 10 a.name ++ " " ++ a.description ++ "\n")

/-- The settings that variables of the process give. -/
def settingsOf (lookup : String → Option String) : Except Report Settings :=
  (Settings.ofVariables lookup).mapError fun e => ⟨"Invalid compiler configuration", [e.message]⟩

/-- The description of a deployment that a command asks for, and the templates it may name. -/
def describe (files : Files) (settings : Settings) :
    Command → Except Report (Option (Description × TemplateStore))
  | .manifest path => do return some (.manifest (← readManifest files settings path), {})
  | .wizard archetype options => return some (.wizard archetype options, {})
  | .template path id customerName deployName supplied => do
    return some (.template id customerName deployName supplied, ← readStore files path)
  | .archetypes => return none

/-- Do what is asked for. The id and the time of the request and the stream of credentials are
given. -/
def Invocation.perform (lookup : String → Option String) (files : Files) (id : RequestId)
    (time : Instant) (secrets : Nat → String) (i : Invocation) : Except Report Result := do
  let settings ← settingsOf lookup
  match ← describe files settings i.command with
  | none => return .listing archetypeListing
  | some (description, store) =>
    match deploy store settings id time secrets description i.target with
    | .ok d => return .descriptor d
    | .error e => throw ⟨"Deployment rejected", e.chain⟩

/-- The text that is printed. -/
def Result.text : Result → Except Report String
  | listing text => return text
  | descriptor d =>
    match d.toJson with
    | .ok j => return j.pretty ++ "\n"
    | .error e => throw ⟨"Failed to serialize descriptor", [e.message]⟩

/-- The name and the version of the program. -/
def versionText : String := "descriptor-compiler 0.1.0\n"

/-- How the program is called. -/
def helpText : String :=
  "Compile deployments into validated descriptors\n\n" ++
  "Usage: descriptor-compiler [OPTIONS] <COMMAND>\n\n" ++
  "Commands:\n" ++
  "  manifest    Compile a compose manifest file\n" ++
  "  wizard      Expand a wizard archetype\n" ++
  "  template    Render a template from a JSON template file\n" ++
  "  archetypes  List wizard archetypes\n" ++
  "  help        Print this message or the help of the given subcommand(s)\n\n" ++
  "Options:\n" ++
  "      --domain <DOMAIN>          Root domain of the deployment [default: ]\n" ++
  "      --customer <CUSTOMER>      Owning customer id [default: ]\n" ++
  "      --alias <ALIASES>          Additional domain (repeatable)\n" ++
  "      --ssl                      Request TLS certificates\n" ++
  "      --ssl-provider <PROVIDER>  TLS provider (defaults to DEPLOY_SSL_PROVIDER)\n" ++
  "  -h, --help                     Print help\n" ++
  "  -V, --version                  Print version\n"

end CommandLine

end Deployment
