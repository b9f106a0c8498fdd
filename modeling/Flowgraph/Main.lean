import Flowgraph.Command.Run
import Flowgraph.Command.Usage

/-!
# The program

The program runs the request that its arguments make on the system it is started on. It ends with
0, or with 1 if the command failed, or with 2 if the arguments make no request.

Main result: the instance of `Host` for `IO`.
-/
namespace Flowgraph

/-- What an error of the system says about a file. -/
def Host.Trouble.ofError : IO.Error → Trouble
  | .noFileOrDirectory .. => .missing
  | .inappropriateType _ 21 _ => .isFolder
  | .inappropriateType _ 20 _ => .noFolder
  | error => .other (toString error)

/-- What an action on a file gives, or what is wrong with the file. -/
def Host.attempt {α : Type} (action : IO α) : IO (Except Trouble α) := do
  try return .ok (← action) catch error => return .error (.ofError error)

/-- The folder in which the user keeps settings. -/
def settingsFolder : IO String := do
  match ← IO.getEnv "XDG_CONFIG_HOME" with
  | some folder => if folder.startsWith "/" then return folder
  | none => pure ()
  return (← IO.getEnv "HOME").getD "" ++ "/.config"

instance : Host IO where
  kind? path := do
    if path.isEmpty then return none
    try
      let data ← ((← IO.currentDir) / path).metadata
      return some (match data.type with
        | .dir => .folder
        | _ => .file)
    catch _ => return none
  read path := do
    match ← Host.attempt (IO.FS.readBinFile path) with
    | .error trouble => return .error trouble
    | .ok bytes =>
      match String.fromUTF8? bytes with
      | some text => return .ok text
      | none => return .error .noText
  write path text := Host.attempt (IO.FS.writeFile path text)
  names path := do
    let entries ← ((← IO.currentDir) / path).readDir
    return nameSet (entries.toList.map fun entry => entry.fileName)
  overlaySetting := IO.getEnv "NODEFLOW_REGISTRY"
  overlayPath := do return (← settingsFolder) ++ "/nodeflow/registry.yaml"
  print := IO.print
  remark := IO.eprint

end Flowgraph

open Flowgraph in
/-- Runs the request that the arguments make. -/
def main (arguments : List String) : IO UInt32 := do
  match Request.ofArguments arguments with
  | .error stop =>
    if stop.isWanted then
      IO.println stop.message
      return 0
    IO.eprintln stop.message
    return 2
  | .ok request =>
    match ← (request.run (m := IO)).run with
    | .ok () => return 0
    | .error failure =>
      IO.eprintln ("Error: " ++ failure.message)
      return 1
