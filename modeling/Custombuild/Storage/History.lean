/-
  The history of a run: the statements that its transactions committed and the restarts, each
  with the database before and after it.  What a transaction that raises did is not in it.
-/
import Custombuild.Storage.Statement

namespace Custombuild.Storage

open Custombuild.Lib

inductive Event where
  | executed (before : Database) (statement : Statement) (after : Database)
  | restarted (before after : Database)

def Event.before : Event → Database
  | .executed before _ _ => before
  | .restarted before _ => before

def Event.after : Event → Database
  | .executed _ _ after => after
  | .restarted _ after => after

/-- The statements of a transaction with the states between them. -/
def executed (cluster : Cluster) : Database → List Statement → List Event
  | _, [] => []
  | db, statement :: statements =>
    match execute cluster db statement with
    | .ok db' => .executed db statement db' :: executed cluster db' statements
    | .error _ => []

def eventsOf (cluster : Cluster) (action : Action) (db : Database) : List Event :=
  match action with
  | .transaction statements =>
    if (runTransaction cluster db statements).isOk then executed cluster db statements else []
  | .restart _ => [.restarted db (step cluster action db)]

def history (cluster : Cluster) : Database → List Action → List Event
  | _, [] => []
  | db, action :: actions =>
    eventsOf cluster action db ++ history cluster (step cluster action db) actions

/-! ## Paths -/

/-- The event is a statement that returned, or a restart. -/
inductive Event.Valid (cluster : Cluster) : Event → Prop where
  | executed {before after : Database} {statement : Statement}
      (h : execute cluster before statement = .ok after) : Valid cluster (.executed before statement after)
  | restarted (before : Database) (delay : Nat) :
      Valid cluster (.restarted before { before with startedAt := before.startedAt + 1 + delay })

/-- Valid events, each starting where the one before it ends. -/
def IsPath (cluster : Cluster) : Database → List Event → Prop
  | _, [] => True
  | db, event :: events =>
    event.before = db ∧ event.Valid cluster ∧ IsPath cluster event.after events

/-- Where a path ends. -/
def endOf : Database → List Event → Database
  | db, [] => db
  | _, event :: events => endOf event.after events

section Path

variable {cluster : Cluster} {db : Database}

theorem isPath_append {events events' : List Event} (h : IsPath cluster db events)
    (h' : IsPath cluster (endOf db events) events') : IsPath cluster db (events ++ events') := by
  induction events generalizing db with
  | nil => exact h'
  | cons event events ih => exact ⟨h.1, h.2.1, ih h.2.2 h'⟩

theorem isPath_executed {db' : Database} {statements : List Statement}
    (h : executeAll cluster db statements = .ok db') :
    IsPath cluster db (executed cluster db statements) ∧
      endOf db (executed cluster db statements) = db' := by
  induction statements generalizing db with
  | nil =>
    cases h
    exact ⟨trivial, rfl⟩
  | cons statement statements ih =>
    simp only [executeAll, bind_eq_ok] at h
    obtain ⟨middle, hfirst, hrest⟩ := h
    obtain ⟨hpath, hend⟩ := ih hrest
    simp only [executed, hfirst]
    exact ⟨⟨rfl, .executed hfirst, hpath⟩, hend⟩

theorem isPath_eventsOf (action : Action) :
    IsPath cluster db (eventsOf cluster action db) ∧
      endOf db (eventsOf cluster action db) = step cluster action db := by
  cases action with
  | restart delay => exact ⟨⟨rfl, .restarted db delay, trivial⟩, rfl⟩
  | transaction statements =>
    simp only [eventsOf, step]
    cases hrun : runTransaction cluster db statements with
    | error e => exact ⟨trivial, rfl⟩
    | ok db' =>
      simp only [runTransaction, bind_eq_ok] at hrun
      obtain ⟨middle, hmiddle, _, -, hdb'⟩ := hrun
      cases hdb'
      exact isPath_executed hmiddle

theorem isPath_history (actions : List Action) : IsPath cluster db (history cluster db actions) := by
  induction actions generalizing db with
  | nil => trivial
  | cons action actions ih =>
    have ⟨hpath, hend⟩ : IsPath cluster db (eventsOf cluster action db) ∧ _ := isPath_eventsOf action
    refine isPath_append hpath ?_
    rw [hend]
    exact ih

/-- What relates the past and the present at the start of a path, and is kept by every event,
    holds before every event of the path, and at its end. -/
theorem path_invariant {I : List Event → Database → Prop}
    (hstep : ∀ {past db event}, I past db → event.before = db → event.Valid cluster →
      I (past ++ [event]) event.after)
    {past events : List Event} (hstart : I past db) (hpath : IsPath cluster db events) :
    I (past ++ events) (endOf db events) := by
  induction events generalizing past db with
  | nil =>
    rw [List.append_nil]
    exact hstart
  | cons event events ih =>
    obtain ⟨hbefore, hvalid, hrest⟩ := hpath
    have hnext := ih (hstep hstart hbefore hvalid) hrest
    rwa [List.append_assoc, List.singleton_append] at hnext

theorem isPath_split {past events : List Event} {event : Event}
    (h : IsPath cluster db (past ++ event :: events)) :
    IsPath cluster db past ∧ event.before = endOf db past ∧ event.Valid cluster := by
  induction past generalizing db with
  | nil => exact ⟨trivial, h.1, h.2.1⟩
  | cons first past ih =>
    obtain ⟨hbefore, hvalid, hrest⟩ := h
    obtain ⟨hpath, hevent⟩ := ih hrest
    exact ⟨⟨hbefore, hvalid, hpath⟩, hevent⟩

end Path

end Custombuild.Storage
