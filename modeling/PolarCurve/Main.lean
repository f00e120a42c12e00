import PolarCurve.Command.Run

namespace PolarCurve.Program

open Command

def readStore (store : Store) (path : String) : IO Store := do
  let place := (Store.steps path).foldl Store.move []
  let store := store.makeDirectories [] place.dropLast
  try
    return store.insert place (.file (← IO.FS.readBinFile path))
  catch error =>
    match error with
    | .inappropriateType .. => return store.insert place .directory
    | _ => return store

def requestPaths : Request → List String
  | .trace t => t.settings.toList
  | .preset _ (some path) => [path]
  | _ => []

def readsInput : Request → Bool
  | .check formula | .json formula | .inspect formula => formula.isNone
  | _ => false

partial def converse (input output : IO.FS.Stream) (session : Session) : IO Unit := do
  if ← input.isTty then output.putStr session.prompt
  output.flush
  let line ← input.getLine
  if line.isEmpty then return
  let (session, reply) := session.handle ((Session.typedLines line).headD "")
  output.putStr (unlines reply.lines)
  if !reply.exit then converse input output session

def writeResult (paths : List String) (result : Result) : IO UInt32 := do
  for path in paths do
    if result.exit = 0 then
      match result.store.read path with
      | .ok content => IO.FS.writeBinFile path content
      | .error _ => pure ()
  IO.print result.output
  IO.eprint result.errors
  return UInt32.ofNat result.exit

def obey (request : Request) : IO UInt32 := do
  match request with
  | .repl => do
    converse (← IO.getStdin) (← IO.getStdout) Session.new
    return 0
  | _ =>
    let store ← (requestPaths request).foldlM readStore Store.empty
    let input ← if readsInput request then (← IO.getStdin).readToEnd else pure ""
    let written :=
      match request with
      | .preset _ (some path) => [path]
      | _ => []
    try
      writeResult written (request.run input store)
    catch error => do
      IO.eprintln ("error: cannot access settings file: " ++ toString error)
      return 2

end PolarCurve.Program

open PolarCurve in
def main (words : List String) : IO UInt32 := do
  match Command.Request.ofWords words with
  | .ok request => Program.obey request
  | .error _ => Program.writeResult [] (Command.run words "" Store.empty)
