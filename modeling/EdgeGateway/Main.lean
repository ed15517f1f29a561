import EdgeGateway.Launch
import EdgeGateway.Service
import Std.Async.Signal
import Std.Time.DateTime.Timestamp

/-!
# The program

Reads the arguments, the environment and the configuration file, prints the log, and keeps a
gateway in service until it is interrupted.
-/

namespace EdgeGateway.Main

open Std.Async

def readFile (path : String) : IO Config.File := do
  try
    return .text (← IO.FS.readFile path)
  catch
    | .noFileOrDirectory .. => return .missing
    | error => return .unreadable (toString error)

def environment : IO Environment := do
  let listing ← IO.FS.readBinFile "/proc/self/environ"
  let entries := (((String.fromUTF8? listing).getD "").splitOn "\x00").filter (· ≠ "")
  return entries.map fun entry =>
    let name := entry.toList.takeWhile (· ≠ '=')
    (String.ofList name, String.ofList (entry.toList.drop (name.length + 1)))

def printLog (level : LogLevel) (s : Service) (printed : Nat) : IO Nat := do
  for line in level.shown (s.log.drop printed) do
    IO.println s!"{line.level.text} {line.text}"
  (← IO.getStdout).flush
  return s.log.length

def clock : IO Nat := do
  return (← Std.Time.Timestamp.now).toMillisecondsSinceUnixEpoch.toInt.toNat

partial def serve (level : LogLevel) (interrupt : AsyncTask Int) (since : Nat) (printed : Nat)
    (s : Service) : IO Unit := do
  let printed ← printLog level s printed
  if ← IO.hasFinished interrupt then
    let _ ← printLog level s.stop printed
  else
    IO.sleep 10
    let now ← IO.monoMsNow
    serve level interrupt now printed (s.advance (now - since))

end EdgeGateway.Main

open EdgeGateway in
def main (arguments : List String) : IO UInt32 := do
  let path := match CommandLine.read arguments with
    | .run options => options.config.getD CommandLine.defaultConfig
    | _ => CommandLine.defaultConfig
  let file ← Main.readFile path
  let launch := Launch.ofArguments (fun _ => file) (← Main.environment) arguments
  match launch with
  | .say text => IO.print text
  | .misuse reason => IO.eprintln s!"error: {reason.message}"
  | .refused fault => IO.eprintln s!"Error loading config file: {fault.text}"
  | .serve path config level =>
    let waiter ← Std.Async.Signal.Waiter.mk .sigint false
    let interrupt ← waiter.wait
    let start ← IO.monoMsNow
    Main.serve level interrupt start 0 (Service.start (← Main.clock) path config).settled
  return launch.exitCode.toUInt32
