import PullComment.CommandLine.Path
import PullComment.SystemFault
import PullComment.Text.Utf8

namespace PullComment.CommandLine

open PullComment

inductive Node where
  | directory
  | file (contents : List UInt8)
  deriving DecidableEq, Repr

/-- Entries by the names that lead to them from the root, each listed once. The root itself is not listed. -/
structure FileTree where
  working : List String
  entries : List (List String × Node)
  deriving DecidableEq, Repr

inductive Target where
  | directory (names : List String)
  | file (names : List String) (contents : List UInt8)
  | absent (names : List String)
  deriving DecidableEq, Repr

def nodeAt? (names : List String) (entries : List (List String × Node)) : Option Node :=
  (entries.find? fun e => e.1 == names).map Prod.snd

namespace FileTree

def get? (names : List String) (t : FileTree) : Option Node :=
  nodeAt? names t.entries

def set (names : List String) (node : Node) (t : FileTree) : FileTree :=
  if t.entries.any fun e => e.1 == names then
    { t with entries := t.entries.map fun e => if e.1 = names then (names, node) else e }
  else { t with entries := t.entries ++ [(names, node)] }

def nameLimit : Nat := 255

def pathLimit : Nat := 4095

def follow (t : FileTree) (names : List String) : List String → Except FaultKind Target
  | [] => .ok (.directory names)
  | part :: rest =>
      if part = ".." then follow t names.dropLast rest
      else if nameLimit < part.utf8ByteSize then .error .nameTooLong
      else
        match t.get? (names ++ [part]) with
        | some .directory => follow t (names ++ [part]) rest
        | some (.file contents) =>
            if rest.isEmpty then .ok (.file (names ++ [part]) contents) else .error .notADirectory
        | none => if rest.isEmpty then .ok (.absent (names ++ [part])) else .error .noEntry

def start (t : FileTree) : Anchor → List String
  | .working => t.working
  | _ => []

def locate (t : FileTree) (p : Path) : Except FaultKind Target :=
  if pathLimit < p.text.utf8ByteSize then .error .nameTooLong
  else t.follow (t.start p.anchor) p.parts

def faultAt {α : Type} (p : Path) (kind : FaultKind) : Except SystemFault α :=
  .error ⟨kind, p.text⟩

def read (t : FileTree) (p : Path) : Except SystemFault (List UInt8) :=
  match t.locate p with
  | .ok (.file _ contents) => .ok contents
  | .ok (.directory _) => faultAt p .isADirectory
  | .ok (.absent _) => faultAt p .noEntry
  | .error kind => faultAt p kind

def makeDirectory (t : FileTree) (p : Path) : Except FaultKind FileTree :=
  match t.locate p with
  | .ok (.absent names) => .ok (t.set names .directory)
  | .ok _ => .error .entryExists
  | .error kind => .error kind

def isDirectory (t : FileTree) (p : Path) : Bool :=
  match t.locate p with
  | .ok (.directory _) => true
  | _ => false

structure Attempt where
  tree : FileTree
  fault : Option SystemFault
  deriving DecidableEq, Repr

def settle (t : FileTree) (p : Path) : Except FaultKind FileTree → Attempt
  | .ok t' => ⟨t', none⟩
  | .error kind => if t.isDirectory p then ⟨t, none⟩ else ⟨t, some ⟨kind, p.text⟩⟩

def makeDirectories (t : FileTree) (anchor : Anchor) : List String → Attempt
  | [] => t.settle ⟨anchor, []⟩ (t.makeDirectory ⟨anchor, []⟩)
  | name :: above =>
      let p : Path := ⟨anchor, above.reverse ++ [name]⟩
      match t.makeDirectory p with
      | .error .noEntry =>
          let up := t.makeDirectories anchor above
          match up.fault with
          | some fault => ⟨up.tree, some fault⟩
          | none => up.tree.settle p (up.tree.makeDirectory p)
      | made => t.settle p made

def writeFile (t : FileTree) (p : Path) (contents : List UInt8) : Attempt :=
  match t.locate p with
  | .ok (.file names _) => ⟨t.set names (.file contents), none⟩
  | .ok (.absent names) => ⟨t.set names (.file contents), none⟩
  | .ok (.directory _) => ⟨t, some ⟨.isADirectory, p.text⟩⟩
  | .error kind => ⟨t, some ⟨kind, p.text⟩⟩

def writeWithParents (t : FileTree) (p : Path) (contents : List UInt8) : Attempt :=
  let made := t.makeDirectories p.anchor p.parent.parts.reverse
  match made.fault with
  | some fault => ⟨made.tree, some fault⟩
  | none => made.tree.writeFile p contents

end FileTree

end PullComment.CommandLine
