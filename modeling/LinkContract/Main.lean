import LinkContract.Command.Reading
import LinkContract.Command.Run
import Std.Time.DateTime.Timestamp

/-!
# The program

Runs the command line on the files, the clocks and the standard streams of the
system.
-/
namespace LinkContract

/-- What an error of the system means for a file operation. -/
def Files.Fault.ofSystem : IO.Error → Files.Fault
  | .noFileOrDirectory .. => .missing
  | .alreadyExists .. => .exists
  | .permissionDenied .. => .denied
  | .inappropriateType _ code reason =>
    if code = 20 then .notDirectory
    else if code = 21 then .isDirectory
    else .other code.toNat reason
  | .otherError code reason | .unsupportedOperation code reason | .illegalOperation code reason =>
    .other code.toNat reason
  | .invalidArgument _ code reason | .resourceExhausted _ code reason =>
    if code = 36 then .nameTooLong else .other code.toNat reason
  | error => .other 5 (toString error)

namespace Terminal

def guarded {α : Type} (action : IO α) : IO (Except Files.Fault α) := do
  match ← action.toBaseIO with
  | .ok value => return .ok value
  | .error error => return .error (.ofSystem error)

def readSystemText (path : String) : IO (Except Files.Fault String) := do
  match ← guarded (IO.FS.readBinFile path) with
  | .error fault => return .error fault
  | .ok contents =>
    match String.fromUTF8? contents with
    | some text => return .ok text
    | none => return .error .notText

def systemInstant : IO Time.Instant := do
  let elapsed := (← Std.Time.Timestamp.now).toMillisecondsSinceUnixEpoch.val
  return .ofClock (elapsed / 1000) ((elapsed % 1000).toNat * 1000000)

def system : Terminal IO where
  readText := readSystemText
  writeText path text := guarded (IO.FS.writeFile path text)
  makeDirectories path := guarded (IO.FS.createDirAll path)
  print := IO.println
  warn := IO.eprintln
  now := systemInstant
  ticks := return UInt64.ofNat (← IO.monoMsNow)

end Terminal

end LinkContract

def main (arguments : List String) : IO UInt32 :=
  LinkContract.Command.runArguments .system (LinkContract.Command.read? arguments)
