namespace PullComment.CommandLine

inductive Anchor where
  | working
  | root
  | doubleRoot
  deriving DecidableEq, Repr

structure Path where
  anchor : Anchor
  parts : List String
  deriving DecidableEq, Repr

namespace Path

def split : List Char → List (List Char)
  | [] => [[]]
  | c :: rest =>
      if c = '/' then [] :: split rest
      else
        match split rest with
        | [] => [[c]]
        | part :: parts => (c :: part) :: parts

def anchorOf : List Char → Anchor
  | '/' :: '/' :: '/' :: _ => .root
  | '/' :: '/' :: _ => .doubleRoot
  | '/' :: _ => .root
  | _ => .working

def ofText (text : String) : Path :=
  ⟨anchorOf text.toList,
    ((split text.toList).map String.ofList).filter fun part => part != "" && part != "."⟩

def anchorText : Anchor → String
  | .working => ""
  | .root => "/"
  | .doubleRoot => "//"

def text (p : Path) : String :=
  if p.anchor = .working ∧ p.parts = [] then "."
  else anchorText p.anchor ++ "/".intercalate p.parts

def parent (p : Path) : Path :=
  { p with parts := p.parts.dropLast }

end Path

end PullComment.CommandLine
