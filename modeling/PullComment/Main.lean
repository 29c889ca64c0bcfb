import PullComment.CommandLine.Run

namespace PullComment.CommandLine

open PullComment

def faultParts : IO.Error → UInt32 × String
  | .noFileOrDirectory _ code details => (code, details)
  | .alreadyExists _ code details => (code, details)
  | .inappropriateType _ code details => (code, details)
  | .invalidArgument _ code details => (code, details)
  | .permissionDenied _ code details => (code, details)
  | .resourceExhausted _ code details => (code, details)
  | .otherError code details => (code, details)
  | _ => (5, "Input/output error")

def faultOf (p : Path) (e : IO.Error) : SystemFault :=
  let parts := faultParts e
  let n := parts.1.toNat
  ⟨.ofCode (if Nat.pow 2 31 ≤ n then Nat.pow 2 32 - n else n) parts.2, p.text⟩

def readOctets (p : Path) : IO (Except SystemFault (List UInt8)) := do
  try
    let contents ← IO.FS.readBinFile p.text
    return .ok contents.toList
  catch e => return .error (faultOf p e)

def readAll : List Path → IO Reader
  | [] => return fun p => .error ⟨.noEntry, p.text⟩
  | p :: rest => do
      let contents ← readOctets p
      let others ← readAll rest
      return fun q => if q = p then contents else others q

def writeOutput (p : Path) (text : String) : IO (Option SystemFault) := do
  try
    IO.FS.createDirAll p.parent.text
  catch e => return some (faultOf p.parent e)
  try
    IO.FS.writeFile p.text text
    return none
  catch e => return some (faultOf p e)

def announce (r : Report) : IO UInt32 := do
  let stdout ← IO.getStdout
  let stderr ← IO.getStderr
  stdout.putStr r.stdout
  stdout.flush
  stderr.putStr r.stderr
  match r.crash with
  | some c => stderr.putStrLn (c.message.getD "The arguments are not understood.")
  | none => return r.exitCode.toUInt32
  return r.exitCode.toUInt32

def start (arguments : List String) : IO UInt32 := do
  let reader ← readAll (inputFiles arguments)
  let asked := report reader arguments
  let r := if ← (← IO.getStdout).isTty then asked else asked.unstyled
  match r.output with
  | none => announce r
  | some (p, text) =>
      match ← writeOutput p text with
      | none => announce r
      | some fault => announce (r.breakOff (.system fault))

end PullComment.CommandLine

def main (arguments : List String) : IO UInt32 :=
  PullComment.CommandLine.start arguments
