import CallFlow.CommandLine.Run

/-! The program: commands on the files of the machine. -/

namespace CallFlow
set_option autoImplicit false

/-- A failure of the machine in words. -/
def describeFailure (e : IO.Error) : String :=
  match e with
  | .noFileOrDirectory .. => Folder.noSuchFile
  | .inappropriateType .. => Folder.isFolder
  | other => toString other

def machineFiles : FileAccess IO where
  read path := do
    try
      return .ok (← IO.FS.readBinFile path).toList
    catch e => return .error (describeFailure e)
  write path bytes := do
    try
      IO.FS.writeBinFile path ⟨bytes.toArray⟩
      return .ok ()
    catch e => return .error (describeFailure e)

end CallFlow

open CallFlow in
def main (arguments : List String) : IO UInt32 := do
  let report ← CommandLine.run machineFiles arguments
  IO.print report.output
  for notice in report.notices do
    IO.eprintln notice
  return report.exitCode.toUInt32
