import PortableSql.CommandLine.Run

/-! The program: it performs the runs of command lines. -/

set_option autoImplicit false

open PortableSql CommandLine

namespace PortableSql.Program

def fileState (path : String) : IO FileState := do
  try
    return .text (← IO.FS.readFile path)
  catch
    | .noFileOrDirectory .. => return .missing
    | _ => return .unreadable

partial def readAll (stream : IO.FS.Stream) (before : ByteArray) : IO ByteArray := do
  let chunk ← stream.read 65536
  if chunk.isEmpty then return before
  readAll stream (before ++ chunk)

def perform : Run → IO Report
  | .done report => pure report
  | .openFile path next => do perform (next (← fileState path))
  | .readInput next => do
    let bytes ← readAll (← IO.getStdin) ByteArray.empty
    perform (next (String.fromUTF8? bytes))

def userPath? : IO (Option String) := do
  match ← IO.getEnv "XDG_CONFIG_HOME" with
  | some directory =>
    if directory.startsWith "/" then return some (directory ++ "/" ++ Config.userPath)
    else homePath?
  | none => homePath?
where
  homePath? : IO (Option String) := do
    return (← IO.getEnv "HOME").map (· ++ "/.config/" ++ Config.userPath)

end PortableSql.Program

def main (words : List String) : IO UInt32 := do
  let environment ← IO.getEnv configVariable
  let report ← Program.perform (Run.ofWords environment (← Program.userPath?) words)
  IO.print report.output
  if let some complaint := report.complaint then IO.eprintln complaint
  return report.status.toUInt32
