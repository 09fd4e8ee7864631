import LiveEvents.Service

/-!
# The command line

The argument is the path of the configuration. The service goes through its life with no network
and no database in reach; it terminates when its input ends.
-/

namespace LiveEvents.CommandLine

def defaultPath : String := "config.toml"

def textOf? (path : String) : IO (Option String) := do
  try return some (← IO.FS.readFile path)
  catch _ => return none

def environment : IO Environment := do
  let names := ["DATABASE_URL", "SPORTRADAR_API_KEY"]
  let values ← names.mapM fun name => return (name, ← IO.getEnv name)
  return fun name => (values.lookup name).join

partial def awaitEnd (input : IO.FS.Stream) : IO Unit := do
  unless (← input.getLine).isEmpty do awaitEnd input

def narrate (c : Config) (notices : List Notice) : IO Unit := do
  for n in notices do
    if n = .terminating then awaitEnd (← IO.getStdin)
    for shown in Service.logged c [n] do IO.println (Service.logLine shown)

def run (args : List String) : IO UInt32 := do
  let path := args.headD defaultPath
  let loaded := Config.load path (← textOf? path) (← environment)
  let run := Service.run loaded (.error (.backend "network is unreachable")) .shutdown
  if let .ok c := loaded then narrate c run.notices
  if let some failure := run.failure then IO.eprintln failure.text
  return run.exitCode.toUInt32

end LiveEvents.CommandLine

def main (args : List String) : IO UInt32 :=
  LiveEvents.CommandLine.run args
