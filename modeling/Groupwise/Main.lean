import Groupwise.CommandLine.Program
import Std.Time.DateTime.Timestamp

/-!
# The command line

The programs run on the files, the standard input and the variables of the process. The name under
which the process was started chooses the program.
-/
namespace Groupwise.CommandLine

/-- Something that may fail for reasons outside. -/
def attempt {α : Type} (action : IO α) : IO (Option α) :=
  try some <$> action catch _ => pure none

/-- All bytes that a stream still has. -/
partial def remaining (stream : IO.FS.Stream) (before : ByteArray) : IO ByteArray := do
  let bytes ← stream.read 65536
  if bytes.isEmpty then pure before else remaining stream (before ++ bytes)

def standardInput : IO (Option String) := do
  pure (String.fromUTF8? (← remaining (← IO.getStdin) ByteArray.empty))

/-- Where the user keeps settings, by the usual variables. -/
def userSettingsFolder : IO (Option String) := do
  match ← IO.getEnv "XDG_CONFIG_HOME" with
  | some folder =>
    if folder.startsWith "/" then return some folder
  | none => pure ()
  pure ((← IO.getEnv "HOME").map (· ++ "/.config"))

def currentTime : IO Timestamp := do
  let t := (← Std.Time.Timestamp.now).toNanosecondsSinceUnixEpoch.val
  pure { seconds := t / 1000000000, nanos := (t % 1000000000).toNat, offset := 0 }

def process : Surroundings IO where
  read? path := attempt (IO.FS.readFile path)
  write path text := do pure ((← attempt (IO.FS.writeFile path text)).isSome)
  makeFolders path := do
    if path.isEmpty then pure true else pure ((← attempt (IO.FS.createDirAll path)).isSome)
  input? := standardInput
  environment name := IO.getEnv name
  settingsFolder? := userSettingsFolder
  now := currentTime

end Groupwise.CommandLine

open Groupwise.CommandLine in
def main (arguments : List String) : IO UInt32 := do
  let name := ((← IO.appPath).fileName).getD ""
  let outcome ← if name == compilerUsage.name then runCompiler process arguments
    else runTool process arguments
  IO.print outcome.output
  pure outcome.code.toUInt32
