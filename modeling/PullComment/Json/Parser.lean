import PullComment.Json.Token

/-!
Tokens read as a JSON value, by an automaton whose stack holds the containers still open, innermost first.
-/

namespace PullComment.Json

inductive Frame where
  | array (done : List Json)
  | object (done : List (String × Json)) (key : String)

inductive Reading where
  | value (stack : List Frame)
  | item (stack : List Frame)
  | name (stack : List Frame) (done : List (String × Json)) (first : Bool)
  | colon (stack : List Frame) (done : List (String × Json)) (key : String)
  | complete (stack : List Frame) (v : Json)

namespace Reading

/-- The levels that a text may have: a container without entries may stand at the last one. -/
def levelLimit : Nat := 201

def begin (limit : Nat) (stack : List Frame) (token : Token) : Option Reading :=
  if stack.length < limit then
    match token with
    | .openBracket => some (.item stack)
    | .openBrace => some (.name stack [] true)
    | .null => some (.complete stack .null)
    | .bool b => some (.complete stack (.bool b))
    | .number n => some (.complete stack (.number n))
    | .string s => some (.complete stack (.string s))
    | _ => none
  else none

def step (limit : Nat) : Reading → Token → Option Reading
  | .value stack, token => begin limit stack token
  | .item stack, .closeBracket => some (.complete stack (.array []))
  | .item stack, token => begin limit (.array [] :: stack) token
  | .name stack done _, .string s => some (.colon stack done s)
  | .name stack [] true, .closeBrace => some (.complete stack (.object []))
  | .colon stack done key, .colon => some (.value (.object done key :: stack))
  | .complete (.array done :: stack) v, .comma => some (.value (.array (v :: done) :: stack))
  | .complete (.array done :: stack) v, .closeBracket =>
      some (.complete stack (.array (v :: done).reverse))
  | .complete (.object done key :: stack) v, .comma => some (.name stack ((key, v) :: done) false)
  | .complete (.object done key :: stack) v, .closeBrace =>
      some (.complete stack (.object ((key, v) :: done).reverse))
  | _, _ => none

def run (limit : Nat) : Reading → List Token → Option Reading
  | reading, [] => some reading
  | reading, token :: rest =>
      match step limit reading token with
      | some next => run limit next rest
      | none => none

theorem run_append (limit : Nat) (reading : Reading) (l r : List Token) :
    run limit reading (l ++ r) = (run limit reading l).bind (run limit · r) := by
  induction l generalizing reading with
  | nil => rfl
  | cons token l ih =>
      simp only [List.cons_append, run]
      cases step limit reading token with
      | none => rfl
      | some next => exact ih next

def result? : Reading → Option Json
  | .complete [] v => some v
  | _ => none

end Reading

def ofTokens? (limit : Nat) (ts : List Token) : Option Json :=
  (Reading.run limit (.value []) ts).bind Reading.result?

def parseWithin (limit : Nat) (text : String) : Option Json :=
  (tokens text.toList).bind (ofTokens? limit)

def parse (text : String) : Option Json :=
  parseWithin Reading.levelLimit text

/-- What a text that is read can hold. -/
def WithinLimits (v : Json) : Prop :=
  v.levels ≤ Reading.levelLimit ∧ ∀ n ∈ v.numbers, fitsWhole n

instance (v : Json) : Decidable v.WithinLimits :=
  inferInstanceAs (Decidable (_ ∧ _))

end PullComment.Json
