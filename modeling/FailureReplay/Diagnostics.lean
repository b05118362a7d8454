import FailureReplay.Log

/-!
# Diagnostics

Warnings are recorded for the caller and mirrored to the log at the same time. Parsing and
encoding take the diagnostics recorded so far and give back those with their own
behind them. What a step does to diagnostics is told by the events it adds, since
the warnings among them are recorded as well: `append` is all that ever happens.
-/

namespace FailureReplay

/-- The warnings recorded so far and the log of the run. -/
structure Diagnostics where
  warnings : List Warning := []
  events : List Log.Event := []
  deriving DecidableEq, Repr

/-- Warnings can be told apart from all else in a log. -/
theorem Log.filterMap_warned (ws : List Warning) :
    (ws.map Event.warned).filterMap Event.warning? = ws := by
  rw [List.filterMap_map]
  exact List.filterMap_some

namespace Diagnostics

/-- Log an event that is no warning. -/
def log (d : Diagnostics) (event : Log.Event) : Diagnostics :=
  { d with events := d.events ++ [event] }

/-- Record a warning and mirror it to the log. -/
def record (d : Diagnostics) (warning : Warning) : Diagnostics where
  warnings := d.warnings ++ [warning]
  events := d.events ++ [.warned warning]

/-- Record a warning, if there is one. -/
def recordAny (d : Diagnostics) : Option Warning → Diagnostics
  | none => d
  | some warning => d.record warning

def append (d : Diagnostics) (events : List Log.Event) : Diagnostics where
  warnings := d.warnings ++ events.filterMap Log.Event.warning?
  events := d.events ++ events

@[simp] theorem append_nil (d : Diagnostics) : d.append [] = d := by
  simp [append]

@[simp] theorem append_append (d : Diagnostics) (events more : List Log.Event) :
    (d.append events).append more = d.append (events ++ more) := by
  simp [append]

theorem log_eq_append {event : Log.Event} (h : event.warning? = none) (d : Diagnostics) :
    d.log event = d.append [event] := by
  simp [log, append, h]

theorem record_eq_append (d : Diagnostics) (warning : Warning) :
    d.record warning = d.append [.warned warning] := rfl

/-- Recording is appending to the log, so that a run need only say which events it adds. -/
theorem recordAny_eq_append (d : Diagnostics) (warning? : Option Warning) :
    d.recordAny warning? = d.append (warning?.toList.map .warned) := by
  cases warning? with
  | none => exact d.append_nil.symm
  | some warning => exact d.record_eq_append warning

/-- Warnings that are mirrored to the log are recorded as they stand. -/
theorem append_warned (d : Diagnostics) (ws : List Warning) :
    d.append (ws.map .warned) = ⟨d.warnings ++ ws, d.events ++ ws.map .warned⟩ := by
  rw [append, Log.filterMap_warned]

end Diagnostics
end FailureReplay
