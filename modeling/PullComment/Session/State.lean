import PullComment.Comment.Render
import PullComment.Session.Held

/-!
The state of a session: what is held under each name. Lists of results are held apart from the responses,
so that two responses can share one; all else that is held never changes. Numbers tell which records share
their fields.
-/

namespace PullComment.Session

open PullComment Schema

/-- A response holds the index of its list. No number that has been used is as large as `next`. -/
structure State where
  held : String → Option (Held Nat)
  lists : List (List Entry)
  next : Nat

namespace State

def initial : State :=
  ⟨fun _ => none, [], 0⟩

def bind (name : String) (h : Held Nat) (s : State) : State :=
  { s with held := fun n => if n = name then some h else s.held n }

def listAt (s : State) (cell : Nat) : List Entry :=
  (s.lists[cell]?).getD []

def setList (cell : Nat) (items : List Entry) (s : State) : State :=
  { s with lists := s.lists.set cell items }

def addList (items : List Entry) (s : State) : State :=
  { s with lists := s.lists ++ [items] }

/-- The lists in which the entries of these lists lead on, theirs in turn, and so on, each once. Every round
but the last finds another list, so that there are no more rounds than lists. -/
def closure (s : State) : Nat → List Nat → List Nat
  | 0, cells => cells
  | rounds + 1, cells =>
      let found := cells.flatMap fun cell => (s.listAt cell).filterMap Entry.ownList?
      if found.all cells.contains then cells else closure s rounds (cells ++ found).eraseDups

def reachable (s : State) (h : Held Nat) : List Nat :=
  s.closure s.lists.length (h.results?.bind Results.list?).toList

def renumber (s : State) (cells : List Nat) (cell : Nat) : Nat :=
  match cells.idxOf? cell with
  | some i => s.lists.length + i
  | none => cell

def view (s : State) (h : Held Nat) : Held (List Entry) :=
  h.map s.listAt

def advance (count : Nat) (s : State) : State :=
  { s with next := s.next + count }

def bindRecord (name : String) (r : Record) (s : State) : State :=
  match r with
  | .variant v => (s.bind name (.variant (.fresh s.next v))).advance 1
  | .result r => (s.bind name (.result (.fresh s.next r))).advance 1
  | .response r =>
      ((s.addList (Held.entries (s.next + 1) r.results)).bind name
        (.response (.fresh s.next (r.mapResults fun _ => s.lists.length)))).advance (r.results.length + 1)

end State

def checkCommand (name : String) : Except Refusal Command :=
  match Command.ofWord? name with
  | some c => .ok c
  | none => .error (.unknownCommand name)

def refuseFault {α : Type} : Except InputFault α → Except Refusal α
  | .ok a => .ok a
  | .error (.invalid e) => .error (.invalid e)
  | .error (.unbuildable f) => .error (.unbuildable f)

def checkModel (name : String) : Except Refusal Model :=
  match Model.ofName? name with
  | some model => .ok model
  | none => .error (.unknownName name)

def checkInput (model : Model) (input : Input) : Except Refusal Record :=
  refuseFault (input.validate model)

def readInput (name : String) (input : Input) : Except Refusal Record := do
  let model ← checkModel name
  checkInput model input

structure RenderOptions where
  command : String
  log : String
  verbose : Bool
  faults : Faults

def RenderOptions.request (o : RenderOptions) (c : Command) : Request :=
  ⟨c, o.log, o.verbose, o.faults⟩

def renderInput (o : RenderOptions) (input : Input) : Except Refusal Comment := do
  let response ← refuseFault (input.readWith readResponse)
  let command ← checkCommand o.command
  .ok (Comment.render (o.request command) response.content)

def renderContent (o : RenderOptions) (content : Except Refusal (CommandResponse Json)) : Except Refusal Comment := do
  let command ← checkCommand o.command
  match command with
  | .help => .ok (Comment.help (o.request .help))
  | command =>
      let response ← content
      .ok (Comment.render (o.request command) response)

def renderUnchecked (o : RenderOptions) (members : List (String × Json)) : Except Refusal Comment := do
  let response ← Unchecked.ofMembers members
  renderContent o response.content

def renderHeld (o : RenderOptions) (h : Held (List Entry)) : Except Refusal Comment :=
  renderContent o h.content

end PullComment.Session
