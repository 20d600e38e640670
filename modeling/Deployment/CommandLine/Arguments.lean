/-!
# CommandLine/Arguments — options and operands

Arguments are read from left to right. An option begins with two hyphens and has its value behind an
equals sign or as the next argument; behind a lone `--` all arguments are operands. The first
argument that does not fit ends the reading, and so does one that asks for help or the version.
-/

namespace Deployment.CommandLine

/-- How an option is given. -/
inductive OptionKind where
  /-- Once and without a value. -/
  | flag
  /-- Once, with a value that is accepted. -/
  | single (accepts : String → Bool)
  /-- Any number of times, with values that are accepted. -/
  | many (accepts : String → Bool)

/-- An option by its name. -/
structure OptionSpec where
  name : String
  kind : OptionKind

/-- What ends the reading of arguments early. -/
inductive Stop where
  | usage
  | help
  | version
  deriving DecidableEq

/-- What a level of a command line takes. -/
structure Spec where
  options : List OptionSpec
  /-- The operands in their order, each with what it accepts. -/
  operands : List (String → Bool) := []
  /-- The names of commands, one of which ends the level. -/
  commands : List String := []
  hasVersion : Bool := false

/-- What was given on a level, the last first. -/
structure Given where
  options : List (String × String) := []
  operands : List String := []
  deriving DecidableEq, Inhabited

namespace Given

/-- Whether an option was given. -/
def has (g : Given) (name : String) : Bool := g.options.any fun o => o.1 == name

/-- The values of an option in their order. -/
def values (g : Given) (name : String) : List String :=
  (g.options.reverse.filter fun o => o.1 == name).map Prod.snd

/-- The value of an option. -/
def value? (g : Given) (name : String) : Option String := (g.values name).head?

/-- The operand with a number. -/
def operand? (g : Given) (i : Nat) : Option String := g.operands.reverse[i]?

/-- One operand more. -/
def addOperand (s : Spec) (g : Given) (text : String) : Except Stop Given :=
  match s.operands[g.operands.length]? with
  | some accepts =>
    if accepts text then return { g with operands := text :: g.operands } else throw .usage
  | none => throw .usage

/-- One option more. -/
def addOption (g : Given) (o : OptionSpec) (value : String) : Except Stop Given :=
  let added : Given := { g with options := (o.name, value) :: g.options }
  match o.kind with
  | .flag => if g.has o.name then throw .usage else return added
  | .single accepts => if g.has o.name || !accepts value then throw .usage else return added
  | .many accepts => if accepts value then return added else throw .usage

end Given

/-- Whether an option has a value. -/
def OptionKind.hasValue : OptionKind → Bool
  | flag => false
  | _ => true

/-- The name of an option and what stands behind an equals sign. -/
def cutOption (cs : List Char) : String × Option String :=
  let value? := match cs.dropWhile (· ≠ '=') with
    | _ :: value => some (String.ofList value)
    | [] => none
  (String.ofList (cs.takeWhile (· ≠ '=')), value?)

/-- What an argument is. -/
inductive Argument where
  | operand (text : String)
  /-- The mark behind which all arguments are operands. -/
  | rest
  | option (name : String) (value? : Option String)
  | letters (cs : List Char)

/-- What an argument is. -/
def Argument.ofText (text : String) : Argument :=
  match text.toList with
  | '-' :: '-' :: [] => rest
  | '-' :: '-' :: cs => let (name, value?) := cutOption cs; option name value?
  | '-' :: c :: cs => letters (c :: cs)
  | _ => operand text

/-- What letters behind one hyphen ask for. -/
def lettersStop (s : Spec) : List Char → Stop
  | 'h' :: _ => .help
  | 'V' :: _ => if s.hasVersion then .version else .usage
  | _ => .usage

/-- The end of a level: what was given, and a command with the arguments behind it. -/
abbrev Level := Given × Option (String × List String)

/-- Read operands to the end. -/
def readOperands (s : Spec) : Given → List String → Except Stop Level
  | g, [] => return (g, none)
  | g, a :: as => do readOperands s (← g.addOperand s a) as

/-- Read the arguments of a level behind what was given. -/
def readLevel (s : Spec) : Given → List String → Except Stop Level
  | g, [] => return (g, none)
  | g, a :: as =>
    match Argument.ofText a with
    | .rest => readOperands s g as
    | .letters cs => throw (lettersStop s cs)
    | .operand text =>
      if s.commands.contains text then return (g, some (text, as))
      else do readLevel s (← g.addOperand s text) as
    | .option name value? =>
      if name = "help" && value?.isNone then throw .help
      else if name = "version" && s.hasVersion && value?.isNone then throw .version
      else match s.options.find? fun o => o.name == name with
        | none => throw .usage
        | some o =>
          match o.kind.hasValue, value?, as with
          | false, none, as => do readLevel s (← g.addOption o "") as
          | false, some _, _ => throw .usage
          | true, some value, as => do readLevel s (← g.addOption o value) as
          | true, none, [] => throw .usage
          | true, none, value :: as =>
            match Argument.ofText value with
            | .operand _ => do readLevel s (← g.addOption o value) as
            | _ => throw .usage

end Deployment.CommandLine
