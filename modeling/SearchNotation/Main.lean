import SearchNotation.Command.Run

/-!
# The program

Reads what a command can see, runs it, and does what its outcome says. Of the disk only the
configuration files of the working directory, those above it and the home directory are read.
-/

set_option autoImplicit false

namespace SearchNotation.Program

/-- The rest of a stream. -/
partial def readRest (stream : IO.FS.Stream) (start : ByteArray) : IO ByteArray := do
  let bytes ← stream.read 4096
  if bytes.isEmpty then return start else readRest stream (start ++ bytes)

/-- The standard input, read only where an argument may stand for it. -/
def readInput (arguments : List String) : IO Input := do
  if !arguments.contains inputMark then return .text ""
  let stream ← IO.getStdin
  if ← stream.isTty then return .terminal
  match String.fromUTF8? (← readRest stream ByteArray.empty) with
  | some text => return .text text
  | none => return .invalid

/-- Puts a directory and its configuration file on a disk. -/
def copyDirectory (disk : Disk) (directory : Path) : IO Disk := do
  let names := directory.parts.filter (!Path.isIdle ·)
  let disk := disk.makeDirectory names
  let location := names ++ [Config.fileName]
  try
    let bytes ← IO.FS.readBinFile (directory.join Config.fileName).text
    return disk.put location (.file (String.fromUTF8? bytes))
  catch
    | .noFileOrDirectory .. => return disk
    | _ => return disk.put location .directory

/-- What a command with these arguments can see. -/
def readSession (arguments : List String) : IO Session := do
  let directory : Path := ⟨(← IO.currentDir).toString⟩
  let home := ((← IO.getEnv "HOME").filter (· != "")).map Path.mk
  let disk ← (directory.ancestors ++ home.toList).foldlM copyDirectory ⟨[]⟩
  return { disk, directory, home, input := ← readInput arguments }

end SearchNotation.Program

open SearchNotation in
/-- Runs the command that the arguments stand for. -/
def main (arguments : List String) : IO UInt32 := do
  let session ← Program.readSession arguments
  let outcome := session.runArguments arguments
  for (location, text) in outcome.disk.changes session.disk do
    IO.FS.writeFile ("/" ++ location) text
  (← IO.getStdout).putStr outcome.output
  (← IO.getStderr).putStr outcome.errors
  return UInt32.ofNat outcome.exit.code
