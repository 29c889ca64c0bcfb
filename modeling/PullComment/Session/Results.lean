import PullComment.Session.Content

namespace PullComment.Session

open PullComment Schema

inductive Entry where
  | result (r : Patched Nat Result)
  | plain (v : Json)
  deriving DecidableEq, Repr

namespace Entry

def renumber (lists numbers : Nat → Nat) : Entry → Entry
  | .result r => .result ((r.map id lists).withNumber (numbers r.number))
  | .plain v => .plain v

def putShared (number : Nat) (update : Replaced) (results? : Option (Results Nat)) : Entry → Entry
  | .result r => .result (if r.number = number then r.put update results? else r)
  | .plain v => .plain v

def ownList? : Entry → Option Nat
  | .result r => r.results?.bind Results.list?
  | .plain _ => none

def putIn : Entry → List Json
  | .result r => r.putIn
  | .plain v => [v]

def dump (o : DumpOptions) : Entry → Json
  | .result r => dumpFields o (r.fields (Result.fields o))
  | .plain v => v

def dumpFaults : Entry → List DumpFault
  | .result r => r.resultFaults
  | .plain v => (depthFault? v).toList

def same : Entry → Entry → Bool
  | .result a, .result b => a.sameResult b
  | .plain v, .plain w => v.alike w
  | _, _ => false

def sameAll : List Entry → List Entry → Bool
  | [], [] => true
  | a :: as, b :: bs => a.same b && sameAll as bs
  | _, _ => false

def path : Entry → Except Refusal Json
  | .result r => .ok r.path
  | .plain v => .error (.noField v.kindName "path")

def content : Entry → Except Refusal (ProjectResult Json)
  | .result r => checkPath r.resultContent
  | .plain v => .error (.noField v.kindName "outcome")

end Entry

namespace Results

def dump (o : DumpOptions) : Results (List Entry) → Json
  | .list items => .array (items.map (Entry.dump o))
  | .plain v => v

def dumpFaults : Results (List Entry) → List DumpFault
  | .list items => items.flatMap Entry.dumpFaults
  | .plain v => (depthFault? v).toList

def same : Results (List Entry) → Results (List Entry) → Bool
  | .list as, .list bs => Entry.sameAll as bs
  | .plain v, .plain w => v.alike w
  | _, _ => false

def asHashed : Results (List Entry) → Json
  | .list _ => .array []
  | .plain v => v

def content : Results (List Entry) → Except Refusal (List (ProjectResult Json))
  | .list items => items.mapM Entry.content
  | .plain (.string s) => (s.toList.map fun c => Entry.plain (.string c.toString)).mapM Entry.content
  | .plain (.object members) => (members.map fun m => Entry.plain (.string m.1)).mapM Entry.content
  | .plain v => .error (.notIterable v.kindName)

def entryAt (results : Results (List Entry)) (index : Int) : Except Refusal Entry :=
  match results with
  | .list items =>
      if Index.fits index then
        match (Index.resolve items.length index).bind (items[·]?) with
        | some entry => .ok entry
        | none => .error .indexOutOfRange
      else .error .indexTooLarge
  | .plain (.string s) =>
      if Index.fits index then
        match (Index.resolve s.length index).bind (s.toList[·]?) with
        | some c => .ok (.plain (.string c.toString))
        | none => .error .textIndexOutOfRange
      else .error .indexTooLarge
  | .plain (.object _) => .error (.noKey (.number (.integer index)))
  | .plain v => .error (.notIndexed v.kindName)

end Results

namespace Entry

def takeOut (items : List Entry) (index : Int) : Except Refusal (Entry × List Entry) :=
  if Index.fits index then
    if items.isEmpty then .error .popFromEmpty
    else
      match Index.resolve items.length index with
      | none => .error .popOutOfRange
      | some i =>
          match items[i]? with
          | some entry => .ok (entry, items.eraseIdx i)
          | none => .error .popOutOfRange
  else .error .popTooLarge

end Entry

namespace Patched

variable {ρ : Type}

def errorValue (r : Patched ρ (Response ρ)) : Json :=
  r.value "error" ((r.base.error.map Json.string).getD .null)

def failureValue (r : Patched ρ (Response ρ)) : Json :=
  r.value "failure" (.string r.base.failure)

def currentResults (r : Patched ρ (Response ρ)) : Results ρ :=
  r.results?.getD (.list r.base.results)

def resultsGiven (r : Patched ρ (Response ρ)) : Bool :=
  r.base.given.results || r.named.contains resultsName

def responseFields (o : DumpOptions) (r : Patched (List Entry) (Response (List Entry))) : List Field :=
  (r.base.fieldsWith (r.currentResults.dump o)).map r.field

def responseFaults (o : DumpOptions) (r : Patched (List Entry) (Response (List Entry))) : List DumpFault :=
  (depthFault? r.errorValue).toList ++ (depthFault? r.failureValue).toList ++
    if o.skipUnset && !r.resultsGiven then [] else r.currentResults.dumpFaults

def sameResponse (a b : Patched (List Entry) (Response (List Entry))) : Bool :=
  a.errorValue.alike b.errorValue && a.failureValue.alike b.failureValue
    && a.currentResults.same b.currentResults

end Patched

end PullComment.Session
