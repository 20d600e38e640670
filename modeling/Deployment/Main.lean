import Deployment.CommandLine
import Deployment.Secret
import Std.Time.DateTime.Timestamp

/-!
# Main — the program

The program reads its arguments, the variables of the process and the file that the command names,
and draws random numbers and the time. What is printed follows from these.
-/

namespace Deployment

namespace CommandLine

/-- The path that a command names. -/
def Command.path? : Command → Option String
  | manifest path => some path
  | template path .. => some path
  | _ => none

/-- The wording of a failure to read a file. -/
def reasonOf : IO.Error → String
  | .noFileOrDirectory .. => "No such file or directory (os error 2)"
  | .permissionDenied _ code details => details ++ " (os error " ++ Text.natText code.toNat ++ ")"
  | .inappropriateType _ code details => details ++ " (os error " ++ Text.natText code.toNat ++ ")"
  | e => toString e

/-- The file under a path. -/
def readFile (path : String) : IO (Except String SourceFile) := do
  try
    let bytes ← IO.FS.readBinFile path
    let text := match String.fromUTF8? bytes with
      | some text => .ok text
      | none => .error "stream did not contain valid UTF-8"
    return .ok ⟨bytes.size, text⟩
  catch e => return .error (reasonOf e)

/-- A random number of 256 bits. -/
def randomNumber : IO Nat := do
  let bytes ← IO.getRandomBytes 32
  return bytes.toList.foldl (fun n b => n * 256 + b.toNat) 0

/-- A generated credential. -/
def randomSecret : IO String := do
  return Secret.ofNumber ((← randomNumber) % Secret.count)

/-- The values of the variables that have an effect. -/
def effectiveVariables : IO (List (String × String)) :=
  [Settings.prefixVariable, Settings.providerVariable, Settings.maxBytesVariable].filterMapM
    fun name => do return (← IO.getEnv name).map fun value => (name, value)

/-- Do what is asked for, and give the exit code. -/
def Invocation.run (i : Invocation) : IO UInt32 := do
  let environment ← effectiveVariables
  let file ← match i.command.path? with
    | some path => readFile path
    | none => pure (.error "")
  let now := (← Std.Time.Timestamp.now).toNanosecondsSinceUnixEpoch.val.toNat
  let id := RequestId.ofTime (now / 1000000) (← randomNumber)
  let secrets ← (List.range Wizard.mostSecrets).mapM fun _ => randomSecret
  let result := i.perform (Bindings.ofList environment).get? (fun _ => file) id (.ofNanos now)
    (fun k => secrets.getD k "")
  match result >>= Result.text with
  | .ok text =>
    IO.print text
    return 0
  | .error report =>
    IO.eprintln report.text
    return 1

end CommandLine

end Deployment

open Deployment.CommandLine in
/-- Compile deployments into descriptors. -/
def main (arguments : List String) : IO UInt32 := do
  match Invocation.ofArguments arguments with
  | .ok invocation => invocation.run
  | .error .help =>
    IO.print helpText
    return 0
  | .error .version =>
    IO.print versionText
    return 0
  | .error .usage =>
    IO.eprint helpText
    return 2
