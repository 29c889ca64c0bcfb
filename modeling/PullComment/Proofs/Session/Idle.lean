import PullComment.Proofs.Session.Change

namespace PullComment.Session

open PullComment Schema

def Fails (s : State) (st : Step) : Prop :=
  ∃ refusal, answer s st = .error refusal

def Idle (s : State) (st : Step) : Prop :=
  st.action.observes = true ∨ Fails s st

/-- Every step that is not marked to stay is idle where it stands among all the steps. -/
def DropsIdle (s : State) (marked : List (Step × Bool)) : Prop :=
  ∀ before st rest, marked = before ++ (st, false) :: rest →
    Idle (stateAfter s (before.map Prod.fst)) st

theorem DropsIdle.cons {s : State} {st : Step} {stays : Bool} {marked : List (Step × Bool)}
    (hst : stays = false → Idle s st) (h : DropsIdle (after s st) marked) :
    DropsIdle s ((st, stays) :: marked) := by
  intro before dropped rest hmarked
  cases before with
  | nil =>
      cases hmarked
      exact hst rfl
  | cons m before =>
      cases hmarked
      exact h before dropped rest rfl

theorem DropsIdle.tail {s : State} {st : Step} {stays : Bool} {marked : List (Step × Bool)}
    (h : DropsIdle s ((st, stays) :: marked)) : DropsIdle (after s st) marked := by
  intro before dropped rest hmarked
  exact h ((st, stays) :: before) dropped rest (by rw [hmarked, List.cons_append])

end PullComment.Session
