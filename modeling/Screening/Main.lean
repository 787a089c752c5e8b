import Screening.CommandLine.Run

/-!
# The program

Finds out what the run needs from the world, runs, and carries out what the run
has come to.
-/

set_option autoImplicit false

namespace Screening.CommandLine

def folderAbove (path : String) : String :=
  let above := "/".intercalate ((path.splitOn "/").dropLast)
  if above ≠ "" then above else if path.startsWith "/" then "/" else "."

/-- What a path leads to, as far as this process may see. To read a folder is a
fault of its own kind. -/
def probe (path : String) : IO Entry := do
  let isFolder (path : String) : IO Bool := do
    try
      let _ ← IO.FS.readBinFile path
      return false
    catch
      | .inappropriateType .. => return true
      | _ => return false
  try return .file (← IO.FS.readBinFile path)
  catch _ =>
    if path = "" || (← isFolder path) then return .folder
    return if ← isFolder (folderAbove path) then .vacant else .unreachable

def Invocation.paths (i : Invocation) : List String :=
  i.settings.logFile.toList ++
    match i.task with
    | .filter request output _ _ => request :: output.toList
    | _ => []

def Invocation.readsInput (i : Invocation) : Bool :=
  match i.task with
  | .filter request _ _ _ => request = "-"
  | _ => false

partial def readAll (input : IO.FS.Stream) (before : ByteArray) : IO ByteArray := do
  let more ← input.read 65536
  if more.isEmpty then return before else readAll input (before ++ more)

def environment (args : List String) : IO Environment := do
  let invocation? := (Invocation.ofArguments args).toOption
  let paths := (invocation?.elim [] Invocation.paths).map Disk.plainPath
  let entries ← paths.mapM fun path => return (path, ← probe path)
  let input ← if invocation?.any Invocation.readsInput then readAll (← IO.getStdin) .empty
    else pure .empty
  let terminal ← (← IO.getStderr).isTty
  return ⟨⟨fun path => (entries.lookup path).getD .unreachable, []⟩, input,
    ← IO.getEnv "RUST_LOG", terminal, "0"⟩

end Screening.CommandLine

def main (args : List String) : IO UInt32 := do
  let env ← Screening.CommandLine.environment args
  let began ← IO.monoMsNow
  let trial ← IO.lazyPure fun _ => Screening.CommandLine.run env args
  let ended ← IO.monoMsNow
  let ending := if trial.code = 0
    then Screening.CommandLine.run { env with elapsed := toString (ended - began) } args
    else trial
  for (path, bytes) in ending.effects.disk.changes do
    IO.FS.writeBinFile path bytes
  let stdout ← IO.getStdout
  stdout.putStr ending.effects.stdout
  stdout.flush
  (← IO.getStderr).putStr ending.effects.stderr
  return ending.code.toUInt32
