import PullComment.Session.State

namespace PullComment.Session

open PullComment Schema

/-- The name that a field can have. What begins with an underscore is no field, and is not guarded as one. -/
structure FieldName where
  text : String
  not_underscored : text.toList.head? ≠ some '_'
  deriving DecidableEq, Repr

inductive Action where
  | load (model : String) (input : Input)
  | assign (field : FieldName)
  | delete (field : String)
  | dump (options : DumpOptions)
  | dumpText (indent : Option Int)
  | fieldsSet
  | render (options : RenderOptions)
  | reload (into : String)
  | copy (into : String) (deep : Bool) (update : Replaced)
  | equal (other : String)
  | sameHash (other : String)
  | take (into : String) (index : Int)
  | append (other : String)
  | pop (index : Int)
  | reverse

structure Step where
  name : String
  action : Action

inductive Answer where
  | loaded (model : Model)
  | dumped (v : Json)
  | text (s : String)
  | names (names : List String)
  | comment (c : Comment)
  | equality (same : Bool)
  | hashes (same : Bool)
  | path (path : Json)
  | length (n : Nat)
  | paths (paths : List Json)
  deriving DecidableEq

abbrev SessionM := ExceptT Refusal (StateM State)

def lookup (s : State) (name : String) : Except Refusal (Held Nat) :=
  match s.held name with
  | some h => .ok h
  | none => .error (.unknownName name)

def indentLimit : Int :=
  Int.pow 2 64

def layoutFor : Option Int → Except Refusal Json.Layout
  | none => .ok .compact
  | some indent =>
      if indent < 0 then .error .negativeIndent
      else if indent < indentLimit then .ok (.indented indent.toNat)
      else .error .indentTooLarge

def frozen (field : String) : Refusal :=
  .invalid ⟨.memory, [⟨[.field field], .frozen⟩]⟩

def lookupResult (s : State) (name : String) : Except Refusal (Patched Nat Result) := do
  match ← lookup s name with
  | .result r => .ok r
  | h => .error (.noField h.model.name "path")

def lookupResults (s : State) (name : String) : Except Refusal (Results Nat) := do
  let h ← lookup s name
  h.results

def listPlace (operation : String) : Results Nat → Except Refusal Nat
  | .list cell => .ok cell
  | .plain v => .error (.noField v.kindName operation)

def copyLevelLimit : Nat :=
  494

def checkCopied (s : State) (h : Held Nat) : Except Refusal Unit :=
  let entries := (s.reachable h).flatMap s.listAt
  if (h.putIn ++ entries.flatMap Entry.putIn).all fun v => v.levels ≤ copyLevelLimit then .ok ()
  else .error .tooDeepToCopy

/-- An update: the fields other than the results, the results as they are to be held, with a list of them
at the place `cell`, and that list. -/
structure Update where
  fields : Replaced
  results? : Option (Results Nat)
  lists : List (List Entry)

def Update.ofMembers (members : Replaced) (cell : Nat) : Update :=
  let fields := members.filter fun u => u.1 != resultsName
  match Members.get? resultsName members with
  | some (.array items) => ⟨fields, some (.list cell), [items.map .plain]⟩
  | some v => ⟨fields, some (.plain v), []⟩
  | none => ⟨fields, none, []⟩

def copyShallow (update : Replaced) (s : State) (h : Held Nat) : Held Nat × State :=
  let u := Update.ofMembers update s.lists.length
  ((h.renumber id fun _ => s.next).replace u.fields u.results? (update.map Prod.fst),
    { s with lists := s.lists ++ u.lists, next := s.next + 1 })

/-- A deep copy has its own copies of all lists that it leads to and of the entries in them, which share
their fields as before. What is put into the copy therefore also shows where it is an entry of its own
lists, though it counts as given in the copy alone. -/
def copyDeep (update : Replaced) (s : State) (h : Held Nat) : Held Nat × State :=
  let cells := s.reachable h
  let u := Update.ofMembers update (s.lists.length + cells.length)
  let copied := h.renumber (s.renumber cells) (· + s.next)
  let copyEntry := fun (e : Entry) =>
    (e.renumber (s.renumber cells) (· + s.next)).putShared copied.number u.fields u.results?
  (copied.replace u.fields u.results? (update.map Prod.fst),
    { s with
      lists := s.lists ++ (cells.map fun cell => (s.listAt cell).map copyEntry) ++ u.lists,
      next := s.next + s.next })

def copyHeld (deep : Bool) (update : Replaced) (s : State) (h : Held Nat) : Held Nat × State :=
  if deep then copyDeep update s h else copyShallow update s h

def reloadRecord (s : State) (h : Held Nat) : Except Refusal Record := do
  let text ← (s.view h).write .compact
  checkInput h.model (.text text)

def Step.perform (st : Step) : SessionM Answer := do
  let s ← get
  match st.action with
  | .load model input =>
      let r ← readInput model input
      set (s.bindRecord st.name r)
      return .loaded r.model
  | .assign field =>
      let _ ← lookup s st.name
      throw (frozen field.text)
  | .delete field =>
      let _ ← lookup s st.name
      throw (frozen field)
  | .dump options =>
      let h ← lookup s st.name
      let v ← (s.view h).dump options
      return .dumped v
  | .dumpText indent =>
      let h ← lookup s st.name
      let layout ← layoutFor indent
      let text ← (s.view h).write layout
      return .text text
  | .fieldsSet =>
      let h ← lookup s st.name
      return .names (s.view h).fieldsSet
  | .render options =>
      let h ← lookup s st.name
      let c ← renderHeld options (s.view h)
      return .comment c
  | .reload into =>
      let h ← lookup s st.name
      let r ← reloadRecord s h
      set (s.bindRecord into r)
      return .equality ((Held.ofRecord r).same (s.view h))
  | .copy into deep update =>
      let h ← lookup s st.name
      if deep then checkCopied s h
      let (copied, s') := copyHeld deep update s h
      set (s'.bind into copied)
      return .equality ((s'.view copied).same (s.view h))
  | .equal other =>
      let h ← lookup s st.name
      let h' ← lookup s other
      return .equality ((s.view h).same (s.view h'))
  | .sameHash other =>
      let h ← lookup s st.name
      (s.view h).checkHashable
      let h' ← lookup s other
      (s.view h').checkHashable
      return .hashes ((s.view h).sameHash (s.view h'))
  | .take into index =>
      let results ← lookupResults s st.name
      let entry ← (results.map s.listAt).entryAt index
      match entry with
      | .plain v => throw (.noField v.kindName "path")
      | .result r =>
          set (s.bind into (.result r))
          return .path r.path
  | .append other =>
      let results ← lookupResults s st.name
      let cell ← listPlace "append" results
      let r ← lookupResult s other
      let items := s.listAt cell ++ [.result r]
      set (s.setList cell items)
      return .length items.length
  | .pop index =>
      let results ← lookupResults s st.name
      match results with
      | .plain (.object _) => throw (.noKey (.number (.integer index)))
      | results =>
          let cell ← listPlace "pop" results
          let (entry, rest) ← Entry.takeOut (s.listAt cell) index
          -- an entry without a path stays in the list
          let path ← entry.path
          set (s.setList cell rest)
          return .path path
  | .reverse =>
      let results ← lookupResults s st.name
      let cell ← listPlace "reverse" results
      let items := (s.listAt cell).reverse
      let paths ← (items.mapM Entry.path : Except Refusal (List Json))
      set (s.setList cell items)
      return .paths paths

def step (s : State) (st : Step) : Except Refusal Answer × State :=
  st.perform s

def after (s : State) (st : Step) : State :=
  (step s st).2

def answer (s : State) (st : Step) : Except Refusal Answer :=
  (step s st).1

def run (s : State) : List Step → List (Except Refusal Answer)
  | [] => []
  | st :: rest => answer s st :: run (after s st) rest

end PullComment.Session
