import PullComment.Text.Quoted

namespace PullComment

inductive FaultKind where
  | noEntry
  | entryExists
  | notADirectory
  | isADirectory
  | nameTooLong
  | other (code : Nat) (reason : String)
  deriving DecidableEq, Repr

namespace FaultKind

def code : FaultKind → Nat
  | .noEntry => 2
  | .entryExists => 17
  | .notADirectory => 20
  | .isADirectory => 21
  | .nameTooLong => 36
  | .other code _ => code

def reason : FaultKind → String
  | .noEntry => "No such file or directory"
  | .entryExists => "File exists"
  | .notADirectory => "Not a directory"
  | .isADirectory => "Is a directory"
  | .nameTooLong => "File name too long"
  | .other _ reason => reason

def ofCode (code : Nat) (reason : String) : FaultKind :=
  match [FaultKind.noEntry, .entryExists, .notADirectory, .isADirectory, .nameTooLong].find?
      (fun k => k.code == code) with
  | some k => k
  | none => .other code reason

end FaultKind

def faultClass (code : Int) : String :=
  match code with
  | 1 => "PermissionError"
  | 2 => "FileNotFoundError"
  | 3 => "ProcessLookupError"
  | 4 => "InterruptedError"
  | 10 => "ChildProcessError"
  | 11 => "BlockingIOError"
  | 13 => "PermissionError"
  | 17 => "FileExistsError"
  | 20 => "NotADirectoryError"
  | 21 => "IsADirectoryError"
  | 32 => "BrokenPipeError"
  | 103 => "ConnectionAbortedError"
  | 104 => "ConnectionResetError"
  | 108 => "BrokenPipeError"
  | 110 => "TimeoutError"
  | 111 => "ConnectionRefusedError"
  | 114 => "BlockingIOError"
  | 115 => "BlockingIOError"
  | _ => "OSError"

def faultText (code reason : String) (files : List String) : String :=
  "[Errno " ++ code ++ "] " ++ reason ++
    if files.isEmpty then "" else ": " ++ " -> ".intercalate files

structure SystemFault where
  kind : FaultKind
  path : String
  deriving DecidableEq, Repr

def SystemFault.message (f : SystemFault) : String :=
  faultText (toString f.kind.code) f.kind.reason [Text.quote f.path]

end PullComment
