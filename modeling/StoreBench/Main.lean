import StoreBench.CommandLine.Program

/-!
Contract: the program.

Owns: the reading of the configuration file, and the writing of answer and complaint.
-/

namespace StoreBench

/-- Why the system does not read a file. A fault that carries the path is met on opening the file,
where a path that runs through a file is the wrong type; one without it is met on reading, where
only a directory is. -/
def fileFaultOf : IO.Error → FileFault
  | .noFileOrDirectory .. => .notFound
  | .inappropriateType (some _) .. => .notDirectory
  | .inappropriateType none .. => .isDirectory
  | .invalidArgument _ 22 _ => .nulInName
  | .invalidArgument .. => .nameTooLong
  | .permissionDenied .. => .custom "Permission denied (os error 13)"
  | other => .custom (toString other)

def readFile (path : String) : IO (Except FileFault (List UInt8)) := do
  try
    let bytes ← IO.FS.readBinFile path
    return .ok bytes.toList
  catch fault => return .error (fileFaultOf fault)

end StoreBench

open StoreBench in
def main (arguments : List String) : IO UInt32 := do
  let contents ← match CommandLine.Request.ofArguments arguments with
    | .ok { file := some path, .. } => readFile path
    | _ => pure (.ok [])
  let seed ← IO.monoNanosNow
  let ending := CommandLine.execute (UInt64.ofNat seed) (fun _ => contents) arguments
  if let some text := ending.output then IO.println text
  if let some text := ending.complaint then IO.eprintln text
  return UInt32.ofNat ending.exitStatus
