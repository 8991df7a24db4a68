import Mathlib.Data.List.Chain
import ScenarioDesk.Draft

/-! What a draft announces over a whole run. The actions of a run fall into stretches, each some texts that
are scheduled one after the other and then what ends the wait for more. The events tell these stretches: a
text waits from the first of its texts on, and the last one is handed out unless the stretch ends with a
discard. -/
namespace ScenarioDesk.Draft

/-- What ends a stretch. The interval may pass while nothing waits, and then does nothing. -/
inductive Ending where
  | discard
  | flush
  | elapse
  deriving DecidableEq, Repr

def Ending.action : Ending → Action
  | .discard => .discard
  | .flush => .flush
  | .elapse => .elapse

/-- The texts that are scheduled one after the other, there may be none, and what ends the stretch. -/
structure Stretch where
  texts : List Text
  ending : Ending
  deriving DecidableEq, Repr

/-- The stretches that have ended, and the texts that were scheduled since. -/
structure History where
  ended : List Stretch
  texts : List Text
  deriving DecidableEq, Repr

/-- With the first text of a stretch something waits. -/
def opening (texts : List Text) : List DraftEvent := if texts = [] then [] else [.pendingChanged true]

/-- With the end of a stretch nothing waits any more, and the last of its texts is handed out at once, unless
it is discarded. -/
def Stretch.closing (stretch : Stretch) : List DraftEvent :=
  match stretch.texts.getLast? with
  | none => []
  | some last => .pendingChanged false :: if stretch.ending = .discard then [] else [.ready last]

namespace Stretch

def actions (stretch : Stretch) : List Action := stretch.texts.map .schedule ++ [stretch.ending.action]

def events (stretch : Stretch) : List DraftEvent := opening stretch.texts ++ stretch.closing

end Stretch

namespace History

def actions (history : History) : List Action :=
  history.ended.flatMap Stretch.actions ++ history.texts.map .schedule

def events (history : History) : List DraftEvent :=
  history.ended.flatMap Stretch.events ++ opening history.texts

/-- One more text is scheduled. -/
def schedule (history : History) (text : Text) : History :=
  { history with texts := history.texts ++ [text] }

/-- The stretch ends. -/
def close (history : History) (ending : Ending) : History :=
  ⟨history.ended ++ [⟨history.texts, ending⟩], []⟩

def act (history : History) : Action → History
  | .schedule text => history.schedule text
  | .discard => history.close .discard
  | .flush => history.close .flush
  | .elapse => history.close .elapse

/-- The history of some actions. -/
def ofActions (actions : List Action) : History := actions.foldl act ⟨[], []⟩

theorem act_action (history : History) (ending : Ending) :
    history.act ending.action = history.close ending := by
  cases ending <;> rfl

theorem ofActions_concat (actions : List Action) (action : Action) :
    ofActions (actions ++ [action]) = (ofActions actions).act action := by
  rw [ofActions, List.foldl_append, List.foldl_cons, List.foldl_nil, ofActions]

theorem actions_close (history : History) (ending : Ending) :
    (history.close ending).actions = history.actions ++ [ending.action] := by
  simp [close, actions, Stretch.actions]

theorem actions_act (history : History) (action : Action) :
    (history.act action).actions = history.actions ++ [action] := by
  cases action with
  | schedule text => simp [act, schedule, actions]
  | discard => exact history.actions_close .discard
  | flush => exact history.actions_close .flush
  | elapse => exact history.actions_close .elapse

theorem actions_ofActions (actions : List Action) : (ofActions actions).actions = actions := by
  induction actions using List.reverseRecOn with
  | nil => rfl
  | append_singleton actions action ih => rw [ofActions_concat, actions_act, ih]

theorem foldl_schedule (history : History) (texts : List Text) :
    (texts.map Action.schedule).foldl act history =
      { history with texts := history.texts ++ texts } := by
  induction texts generalizing history with
  | nil => simp
  | cons text texts ih => simp [ih, act, schedule]

theorem foldl_stretch (ended : List Stretch) (stretch : Stretch) :
    stretch.actions.foldl act ⟨ended, []⟩ = ⟨ended ++ [stretch], []⟩ := by
  rw [Stretch.actions, List.foldl_append, foldl_schedule, List.foldl_cons, List.foldl_nil, act_action]
  rfl

theorem foldl_stretches (ended stretches : List Stretch) :
    (stretches.flatMap Stretch.actions).foldl act ⟨ended, []⟩ = ⟨ended ++ stretches, []⟩ := by
  induction stretches generalizing ended with
  | nil => simp
  | cons stretch stretches ih => simp [foldl_stretch, ih]

/-- Actions fall into stretches in one way only. -/
theorem actions_eq_iff {history : History} {actions : List Action} :
    history.actions = actions ↔ history = ofActions actions := by
  constructor
  · rintro rfl
    rw [ofActions, History.actions, List.foldl_append, foldl_stretches, foldl_schedule]
    rfl
  · rintro rfl
    exact actions_ofActions actions

theorem events_schedule (history : History) (text : Text) :
    (history.schedule text).events =
      history.events ++ if history.texts = [] then [.pendingChanged true] else [] := by
  by_cases h : history.texts = []
  · simp [events, schedule, opening, h]
  · simp [events, schedule, opening, h]

theorem events_close (history : History) (ending : Ending) :
    (history.close ending).events = history.events ++ Stretch.closing ⟨history.texts, ending⟩ := by
  simp [events, close, Stretch.events, opening]

end History

/-- The draft is where a history leads to, and the timer runs while a text waits. -/
structure Tracks (draft : Draft) (history : History) : Prop where
  waiting : draft.waiting = history.texts.getLast?
  timer : draft.timerRuns = draft.pending

namespace Tracks

variable {draft : Draft} {history : History}

theorem pending_iff (h : draft.Tracks history) : draft.pending = true ↔ history.texts ≠ [] := by
  rw [pending, h.waiting, Option.isSome_iff_ne_none, ne_eq, List.getLast?_eq_none_iff]

theorem schedule (h : draft.Tracks history) (text : Text) :
    (draft.schedule text).1.Tracks (history.schedule text) ∧
      (history.schedule text).events = history.events ++ (draft.schedule text).2 := by
  refine ⟨⟨by simp [Draft.schedule, History.schedule], rfl⟩, ?_⟩
  rw [History.events_schedule, Draft.schedule]
  by_cases hTexts : history.texts = []
  · have hPending : draft.pending = false := by
      rw [Bool.eq_false_iff, ne_eq, h.pending_iff]
      exact fun hNot => hNot hTexts
    simp [hTexts, hPending]
  · simp [hTexts, h.pending_iff.mpr hTexts]

theorem discard (h : draft.Tracks history) :
    draft.discard.1.Tracks (history.close .discard) ∧
      (history.close .discard).events = history.events ++ draft.discard.2 := by
  refine ⟨⟨rfl, rfl⟩, ?_⟩
  rw [History.events_close, Draft.discard, pending, h.waiting, Stretch.closing]
  cases history.texts.getLast? with
  | none => rfl
  | some last => rfl

/-- What hands out the text that waits: a flush, or the interval that passes. -/
theorem flush (h : draft.Tracks history) {ending : Ending} (hEnding : ending ≠ .discard) :
    draft.flush.1.Tracks (history.close ending) ∧
      (history.close ending).events = history.events ++ draft.flush.2 := by
  refine ⟨⟨rfl, rfl⟩, ?_⟩
  rw [History.events_close, Draft.flush, h.waiting, Stretch.closing]
  dsimp only
  cases history.texts.getLast? with
  | none => rfl
  | some last =>
      dsimp only
      rw [if_neg hEnding]

/-- A timer that does not run does what a flush does without a text: nothing. -/
theorem elapse_eq_flush (h : draft.Tracks history) : draft.elapse = draft.flush := by
  rw [Draft.elapse]
  split
  · rfl
  · next hStopped =>
      have hNone : draft.waiting = none := by
        rw [h.timer, pending] at hStopped
        simpa using hStopped
      cases draft
      simp_all [Draft.flush]

theorem act (h : draft.Tracks history) (action : Action) :
    (draft.act action).1.Tracks (history.act action) ∧
      (history.act action).events = history.events ++ (draft.act action).2 := by
  cases action with
  | schedule text => exact h.schedule text
  | discard => exact h.discard
  | flush => exact h.flush nofun
  | elapse =>
      rw [Draft.act, h.elapse_eq_flush]
      exact h.flush nofun

end Tracks

/-- What the events say about whether a text waits. -/
def announced (events : List DraftEvent) : List Bool :=
  events.filterMap fun event => match event with
    | .pendingChanged pending => some pending
    | .ready _ => none

/-- An action announces whether a text waits exactly if it changes that. -/
theorem announced_act (draft : Draft) (action : Action) : announced (draft.act action).2 =
    if (draft.act action).1.pending = draft.pending then [] else [(draft.act action).1.pending] := by
  have hFlush : announced draft.flush.2 = if false = draft.pending then [] else [false] := by
    unfold flush pending
    cases draft.waiting with
    | none => rfl
    | some text => rfl
  cases action with
  | schedule text =>
      unfold act schedule pending
      cases draft.waiting with
      | none => rfl
      | some earlier => rfl
  | discard =>
      unfold act discard pending
      cases draft.waiting with
      | none => rfl
      | some text => rfl
  | flush => exact hFlush
  | elapse =>
      rw [act, elapse]
      split
      · exact hFlush
      · rw [if_pos rfl]
        rfl

/-- True and false take turns, from true on and up to the present value. Before the first of them the value
is false. -/
structure TakesTurns (values : List Bool) (present : Bool) : Prop where
  turns : values.IsChain (· ≠ ·)
  first : ∀ value ∈ values.head?, value = true
  last : values.getLast?.getD false = present

theorem TakesTurns.concat {values : List Bool} {present next : Bool} (h : TakesTurns values present)
    (hNext : next ≠ present) : TakesTurns (values ++ [next]) next where
  turns := by
    refine List.isChain_append.mpr ⟨h.turns, .singleton _, fun value hLast other hHead => ?_⟩
    cases hHead
    have hPresent := h.last
    rw [hLast] at hPresent
    rintro rfl
    exact hNext hPresent
  first := by
    cases values with
    | nil =>
        have hPresent : false = present := h.last
        subst hPresent
        simpa using hNext
    | cons value values => exact h.first
  last := by simp

theorem run_concat (draft : Draft) (actions : List Action) (action : Action) :
    draft.run (actions ++ [action]) =
      (((draft.run actions).1.act action).1,
        (draft.run actions).2 ++ ((draft.run actions).1.act action).2) := by
  induction actions generalizing draft with
  | nil => simp [run]
  | cons first actions ih => simp [run, ih]

/-- After every run the timer runs exactly while a text waits, which is so exactly if a text was scheduled
since the last stretch ended. The events are those of the stretches: for each with a text one that something
waits and one that nothing waits any more, which only the last text of the stretch follows, unless it is
discarded. So the events that tell whether a text waits take turns, and the last one tells the truth. The
actions determine the stretches. -/
theorem run_tells_its_history (delay : Int) (actions : List Action) :
    ∃ history : History, (∀ other : History, other.actions = actions ↔ other = history) ∧
      ((withDelay delay).run actions).1.timerRuns = ((withDelay delay).run actions).1.pending ∧
      (((withDelay delay).run actions).1.pending = true ↔ history.texts ≠ []) ∧
      ((withDelay delay).run actions).2 = history.events ∧
      TakesTurns (announced ((withDelay delay).run actions).2)
        ((withDelay delay).run actions).1.pending := by
  have hRun : ((withDelay delay).run actions).1.Tracks (.ofActions actions) ∧
      ((withDelay delay).run actions).2 = (History.ofActions actions).events ∧
      TakesTurns (announced ((withDelay delay).run actions).2)
        ((withDelay delay).run actions).1.pending := by
    induction actions using List.reverseRecOn with
    | nil => exact ⟨⟨rfl, rfl⟩, rfl, .nil, nofun, rfl⟩
    | append_singleton actions action ih =>
        obtain ⟨hTracks, hEvents, hTurns⟩ := ih
        obtain ⟨hNext, hMore⟩ := hTracks.act action
        rw [run_concat, History.ofActions_concat]
        refine ⟨hNext, by rw [hMore, hEvents], ?_⟩
        have hAnnounced := announced_act ((withDelay delay).run actions).1 action
        rw [announced, List.filterMap_append, ← announced, ← announced, hAnnounced]
        split
        · next hSame => rwa [List.append_nil, hSame]
        · next hChange => exact hTurns.concat hChange
  obtain ⟨hTracks, hEvents, hTurns⟩ := hRun
  exact ⟨.ofActions actions, fun _ => History.actions_eq_iff, hTracks.timer, hTracks.pending_iff, hEvents,
    hTurns⟩

end ScenarioDesk.Draft
