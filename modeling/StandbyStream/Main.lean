import StandbyStream.Broker.Line
import StandbyStream.Daemon
import StandbyStream.Demo
import StandbyStream.Sender

/-!
# The programs on the command line

The first argument chooses between the daemon, the command sender and the
demonstration. The broker is reached through pipes: messages come in and go out
as lines, the log goes to the error output, and the end of the input ends the
daemon. All decisions are made by the programs themselves.
-/

namespace StandbyStream

/-- The variables of these names that are set. -/
def environment (names : List String) : IO Environment := do
  let values ← names.mapM fun name => do
    let value ← IO.getEnv name
    return value.map fun value => (name, Text.encodeUtf8 value)
  return ⟨values.filterMap id⟩

/-- Reads one file. -/
def readFile (path : String) : IO (Except FileFault Bytes) := do
  try
    return .ok (← IO.FS.readBinFile path).toList
  catch
    | .noFileOrDirectory .. => return .error .missing
    | .inappropriateType _ 20 _ => return .error .notDirectory
    | .inappropriateType .. => return .error .directory
    | .invalidArgument _ 36 _ => return .error .nameTooLong
    | cause => return .error (.other (toString cause))

/-- Reads the files of these paths; no other is there. -/
def readFiles (paths : List String) : IO Files := do
  let contents ← paths.mapM fun path => do return (path, ← readFile path)
  return fun path => (contents.lookup path).getD (.error .missing)

/-- Says how a program ended. -/
def finish (ending : Ending) : IO UInt32 := do
  match ending with
  | .failed report => IO.eprint report
  | .halted .usage => IO.eprintln "wrong arguments"
  | .cutShort shortage => IO.eprintln (Report.line shortage)
  | _ => pure ()
  return UInt32.ofNat ending.exitCode

/-- Writes log entries. -/
def writeLog (log : List LogEntry) : IO Unit :=
  log.forM fun entry => IO.eprintln (entry.level.name ++ " " ++ entry.text)

/-- Writes what was published. -/
def writePublished (published : List Publication) : IO Unit :=
  published.forM fun message => IO.println message.toLine

/-- Writes what a service has said and published since it was in the state `before`. -/
def writeNews {ρ π : Type} (before after : Daemon.Service ρ π) : IO Unit := do
  writeLog (after.log.drop before.log.length)
  writePublished (after.connection.published.drop before.connection.published.length)

/-- Hands the lines of the input to a service until the input ends. -/
def serve (service : Daemon.Service Simulator SimPipeline) :
    IO (Daemon.Service Simulator SimPipeline) := do
  let input ← IO.getStdin
  let mut service := service
  let mut lastReport ← IO.monoMsNow
  repeat
    let line ← input.getLine
    if line.isEmpty then break
    let before := service
    if let some (topic, payload) := readLine? (String.ofList (line.toList.filter (· ≠ '\n'))) then
      service := service.receive (Text.encodeUtf8 topic) payload
    let now ← IO.monoMsNow
    if service.statusInterval ≤ now - lastReport then
      service := service.report
      lastReport := now
    writeNews before service
  return service

/-- The daemon. -/
def daemon (args : List String) : IO UInt32 := do
  let env ← environment (Daemon.grammar.variableNames ++ Config.variableNames)
  let paths := match Daemon.Options.read env args with
    | .ok options => options.paths env
    | .error _ => []
  match Daemon.run (← readFiles paths) env args with
  | .error outcome =>
    writeLog outcome.log
    finish outcome.ending
  | .ok service =>
    writeLog service.log
    let service ← serve service
    let outcome := service.leave
    writeLog (outcome.log.drop service.log.length)
    if let some connection := outcome.connection then
      writePublished (connection.published.drop service.connection.published.length)
    finish outcome.ending

/-- The command sender. -/
def sender (args : List String) : IO UInt32 := do
  let env ← environment Sender.grammar.variableNames
  let paths := match Sender.Options.read env args with
    | .ok options => options.paths
    | .error _ => []
  let clientId := "sender-" ++ toString (← IO.monoNanosNow)
  let outcome := Sender.run (← readFiles paths) env clientId true args
  if let some connection := outcome.connection then
    writePublished connection.published
  finish outcome.ending

/-- The demonstration. -/
def demo (args : List String) : IO UInt32 := do
  let outcome := Demo.run args
  writeLog outcome.log
  finish outcome.ending

end StandbyStream

open StandbyStream in
/-- Runs the program that the first argument names. -/
def main : List String → IO UInt32
  | "daemon" :: args => daemon args
  | "send" :: args => sender args
  | "demo" :: args => demo args
  | _ => finish (.halted .usage)
