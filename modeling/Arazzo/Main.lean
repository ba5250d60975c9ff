import Arazzo.CommandLine.Relay
import Std.Time.DateTime.Timestamp

/-!
The command line. Requests go out on standard error, one JSON line each, and their replies come in on
standard input; standard output is left to the results.
-/

namespace Arazzo
namespace CommandLine

/-- The files that can be read, among those named. -/
def readFiles (paths : List FilePath) : IO (List (FilePath × List UInt8)) :=
  paths.filterMapM fun path => do
    try
      return some (path, (← IO.FS.readBinFile path.text).toList)
    catch _ => return none

/-- The instant in universal time. -/
def currentTime : IO DateTime := do
  let nanoseconds := (← Std.Time.Timestamp.now).toNanosecondsSinceUnixEpoch.val
  return .ofUnixMicroseconds (nanoseconds / 1000).toNat

/-- Performs a run, asking for one reply after the other. What is asked for next is known once the delays
in front of it are over. -/
partial def relay (files : Files) (options : Options) (readings : Relay.Readings)
    (replies : Array Reply) (waited : Nat) : IO Outcome := do
  let delays := (Relay.perform files (readings.clock (← currentTime)) options replies).delays
  for delay in delays.drop waited do
    IO.sleep delay.milliseconds.toUInt32
  let now ← currentTime
  let readings := { readings with asked := readings.asked.push now }
  let outcome := Relay.perform files (readings.clock now) options replies
  match Relay.pending? replies outcome.session with
  | none => return outcome
  | some request =>
    IO.eprintln (Relay.ask request)
    let line ← (← IO.getStdin).getLine
    let reply := (Relay.reply? line).getD (.failed "unreadable reply")
    let readings := { readings with answered := readings.answered.push (← currentTime) }
    relay files options readings (replies.push reply) delays.length

/-- Writes what is to be saved; the exit code of the command. -/
def save (exitCode : Nat) : Option Saving → IO UInt32
  | none => return exitCode.toUInt32
  | some saving => do
    try
      IO.FS.writeFile saving.path saving.text
      IO.print saving.message
      return exitCode.toUInt32
    catch e =>
      IO.eprintln (toString e)
      return 1

def runCommand (files : Files) (options : Options) : IO UInt32 := do
  let outcome ← relay files options ⟨#[], #[← currentTime]⟩ #[] 0
  IO.print outcome.output
  save outcome.exitCode outcome.saving

end CommandLine
end Arazzo

open Arazzo CommandLine in
def main (args : List String) : IO UInt32 := do
  let named ← readFiles (namedFiles args)
  let files : Files := fun path => named.lookup path
  match Invocation.ofTexts (isFile files) args with
  | .help => IO.print usage; return 0
  | .version => IO.print versionText; return 0
  | .refused => IO.eprint usage; return 2
  | .run options =>
    let sources ← readFiles (sourceFiles files options)
    runCommand (fun path => (named ++ sources).lookup path) options
