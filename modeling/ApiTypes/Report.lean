import ApiTypes.Event

/-!
# Reports

A `Report` is the outcome of a computation that may fail, with the events that it took note
of on the way, in order.  The events of a computation that fails are kept, and what comes
after it adds none.
-/

namespace ApiTypes

/-- An outcome with the events before it. -/
structure Report (ε α : Type) where
  events : List Event
  outcome : Except ε α

namespace Report

variable {ε δ α β : Type}

/-- The report of an event. -/
def note (event : Event) : Report ε Unit :=
  ⟨[event], .ok ()⟩

/-- The report of a failure. -/
def fail (error : ε) : Report ε α :=
  ⟨[], .error error⟩

/-- The report of an outcome that comes without events. -/
def ofExcept (outcome : Except ε α) : Report ε α :=
  ⟨[], outcome⟩

/-- The report with its error changed. -/
def mapError (f : ε → δ) (report : Report ε α) : Report δ α :=
  ⟨report.events, report.outcome.mapError f⟩

/-- The report of one computation after another. -/
def bind (first : Report ε α) (next : α → Report ε β) : Report ε β :=
  match first.outcome with
  | .ok a => ⟨first.events ++ (next a).events, (next a).outcome⟩
  | .error error => ⟨first.events, .error error⟩

instance : Monad (Report ε) where
  pure a := ⟨[], .ok a⟩
  bind := bind

@[simp]
theorem outcome_pure (a : α) :
  (pure a : Report ε α).outcome = .ok a
  := rfl

@[simp]
theorem outcome_bind (first : Report ε α) (next : α → Report ε β) :
  (first >>= next).outcome = first.outcome >>= fun a => (next a).outcome
  := by
  obtain ⟨events, outcome⟩ := first
  cases outcome <;> rfl

@[simp]
theorem outcome_mapError (f : ε → δ) (report : Report ε α) :
  (report.mapError f).outcome = report.outcome.mapError f
  := rfl

@[simp]
theorem outcome_note (event : Event) :
  (note event : Report ε Unit).outcome = .ok ()
  := rfl

@[simp]
theorem outcome_fail (error : ε) :
  (fail error : Report ε α).outcome = .error error
  := rfl

@[simp]
theorem outcome_ofExcept (outcome : Except ε α) :
  (ofExcept outcome).outcome = outcome
  := rfl

end Report

end ApiTypes
