import Stencil.CommandLine.Answer

/-!
# The program

Reads the files and the environment variable that a command line names, and shows the answer.
-/
namespace Stencil.CommandLine

/-- The number that the system gives for a fault and the text for it. -/
def faultOf : IO.Error → FileFault
  | .noFileOrDirectory _ code reason => .refused reason code.toNat
  | .permissionDenied _ code reason => .refused reason code.toNat
  | .inappropriateType _ code reason => .refused reason code.toNat
  | .resourceExhausted _ code reason => .refused reason code.toNat
  | .invalidArgument _ code reason => .refused reason code.toNat
  | .otherError code reason => .refused reason code.toNat
  | e => .refused (toString e) 0

def readFile (path : String) : IO (Except FileFault (List UInt8)) := do
  try
    return .ok (← IO.FS.readBinFile path).toList
  catch e => return .error (faultOf e)

end Stencil.CommandLine

def main (words : List String) : IO UInt32 := do
  let set? ← IO.getEnv Stencil.CommandLine.Request.configVariable
  let answer ← Stencil.CommandLine.answer Stencil.CommandLine.readFile set? words
  IO.print answer.output
  IO.eprint answer.remarks
  return answer.status.toUInt32
