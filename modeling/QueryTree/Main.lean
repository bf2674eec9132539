import QueryTree.CommandLine.Session

/-!
# The program
-/
namespace QueryTree.Program

/-- What the system says when a file cannot be read. -/
def readFault : IO.Error → ReadFault
  | .noFileOrDirectory .. => .missing
  | .permissionDenied _ 13 _ => .denied
  | .invalidArgument _ 36 _ => .nameTooLong
  | .inappropriateType _ 20 _ => .notDirectory
  | .inappropriateType _ 21 _ => .isDirectory
  | e => .other (toString e)

def textOf (bytes : ByteArray) : Except ReadFault String :=
  match String.fromUTF8? bytes with
  | some s => .ok s
  | none => .error .notText

def tryRead (bytes : IO ByteArray) : IO (Except ReadFault String) := do
  try return textOf (← bytes)
  catch e => return .error (readFault e)

def randomId : IO String := do
  let bytes ← IO.getRandomBytes 16
  pure (Uuid.ofRandom (bytes.toList.foldl (fun n b => n * 256 + b.toNat) 0)).text

def system : Surroundings IO where
  environment name := IO.getEnv name
  input := do tryRead (← IO.getStdin).readBinToEnd
  contents file := tryRead (IO.FS.readBinFile file)
  newId := randomId

end QueryTree.Program

def main (arguments : List String) : IO UInt32 := do
  let outcome ← QueryTree.Program.system.session arguments
  IO.print outcome.output
  IO.eprint outcome.complaint
  pure outcome.status.toUInt32
