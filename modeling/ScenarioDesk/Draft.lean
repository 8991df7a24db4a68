import ScenarioDesk.Text.Basic

/-!
The draft of the text being edited. A change is not stored at once but when nothing has changed for
a while; the state knows the text that waits and whether the timer runs, and every operation returns
the events it causes, in order.
-/

namespace ScenarioDesk

/-- What an operation on the draft announces. -/
inductive DraftEvent where
  /-- A text waits, or no text waits any more. -/
  | pendingChanged (pending : Bool)
  /-- The text is to be stored now. -/
  | ready (text : Text)
  deriving DecidableEq, Repr

/-- The state of the draft. -/
structure Draft where
  /-- Milliseconds from the last change to storing. -/
  interval : Int
  /-- The text that waits. -/
  waiting : Option Text := none
  timerRuns : Bool := false
  /-- How often the timer has been started. -/
  starts : Nat := 0
  deriving DecidableEq, Repr

namespace Draft

/-- The least interval in milliseconds. -/
def leastInterval : Int := 100

/-- A draft that waits so many milliseconds, or the least interval if that is longer. -/
def withDelay (delay : Int) : Draft := { interval := max leastInterval delay }

/-- A text waits to be stored. -/
def pending (draft : Draft) : Bool := draft.waiting.isSome

/-- Lets a text wait instead of the one before it and starts the timer anew. -/
def schedule (draft : Draft) (text : Text) : Draft × List DraftEvent :=
  ({ draft with waiting := some text, timerRuns := true, starts := draft.starts + 1 },
    if draft.pending then [] else [.pendingChanged true])

/-- Drops the text that waits. -/
def discard (draft : Draft) : Draft × List DraftEvent :=
  ({ draft with waiting := none, timerRuns := false },
    if draft.pending then [.pendingChanged false] else [])

/-- Hands out the text that waits. -/
def flush (draft : Draft) : Draft × List DraftEvent :=
  ({ draft with waiting := none, timerRuns := false },
    match draft.waiting with
    | some text => [.pendingChanged false, .ready text]
    | none => [])

/-- The interval has passed: a running timer hands out the text. -/
def elapse (draft : Draft) : Draft × List DraftEvent :=
  if draft.timerRuns then draft.flush else (draft, [])

/-- What can happen to a draft. -/
inductive Action where
  | schedule (text : Text)
  | discard
  | flush
  | elapse
  deriving DecidableEq, Repr

/-- The draft after an action and the events it causes. -/
def act (draft : Draft) : Action → Draft × List DraftEvent
  | .schedule text => draft.schedule text
  | .discard => draft.discard
  | .flush => draft.flush
  | .elapse => draft.elapse

/-- The draft after some actions and all events they cause, in order. -/
def run (draft : Draft) : List Action → Draft × List DraftEvent
  | [] => (draft, [])
  | action :: actions =>
    let (next, events) := draft.act action
    let (last, more) := run next actions
    (last, events ++ more)

end Draft

end ScenarioDesk
