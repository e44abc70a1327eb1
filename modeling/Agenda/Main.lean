import Agenda.Command.Run
import Std.Time.Format

/-!
# The program

Connects the commands with the files, the clock and the terminal of the machine.
-/

namespace Agenda

/-- What an error of the machine says about a file. -/
def faultOfError : IO.Error → FileFault
  | .noFileOrDirectory .. => .missing
  | .inappropriateType .. => .isDirectory
  | .alreadyExists .. => .exists
  | .invalidArgument .. => .nameTooLong
  | _ => .notDirectory

instance : FileAccess IO where
  read p := do
    try
      return .ok (← IO.FS.readBinFile (String.ofList p.toText))
    catch error => return .error (faultOfError error)
  write p bytes := do
    try
      IO.FS.createDirAll (String.ofList p.parent.toText)
      IO.FS.writeBinFile (String.ofList p.toText) bytes
      return .ok ()
    catch error => return .error (faultOfError error)

/-- The day on the calendar of the machine. -/
def today : IO Date := do
  let now ← Std.Time.PlainDate.now
  match Date.ofParts? now.year.toInt.toNat now.month.toNat now.day.toNat with
  | some d => return d
  | none => throw (IO.userError "the clock is outside the calendar")

end Agenda

open Agenda in
/-- Runs the program with the words behind its name. -/
def main (args : List String) : IO UInt32 := do
  let home := ((← IO.getEnv "HOME").getD "/").toList
  let surroundings : Surroundings := ⟨home, ← today, "there is no such day".toList⟩
  let (outcome, warnings) ← run surroundings (args.map String.toList)
  for warning in warnings do
    IO.eprintln (String.ofList (warning.message "they cannot be read".toList))
  for printed in outcome.printed do
    for line in printed.toLines do
      IO.println (String.ofList line)
  match outcome.ending with
  | .usage fault => IO.eprintln (String.ofList ("Error: ".toList ++ fault.message))
  | .fault _ => IO.eprintln "Error: a file cannot be used"
  | _ => pure ()
  return outcome.status.toUInt32
