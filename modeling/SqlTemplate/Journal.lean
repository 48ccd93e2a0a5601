/-! A journal is an outcome beside the events noted on the way, which a failure does not erase. -/

namespace SqlTemplate

/-- The events of a computation, in order, and its outcome. -/
structure Journal (event fault α : Type) where
  /-- What was noted, the earliest first. -/
  events : List event
  /-- The result, or why there is none. -/
  outcome : Except fault α

namespace Journal

variable {event fault other α β : Type}

/-- A result with nothing noted. -/
def succeed (result : α) : Journal event fault α :=
  ⟨[], .ok result⟩

/-- A failure with nothing noted. -/
def fail (reason : fault) : Journal event fault α :=
  ⟨[], .error reason⟩

/-- One event noted. -/
def note (noted : event) : Journal event fault Unit :=
  ⟨[noted], .ok ()⟩

/-- An outcome with nothing noted. -/
def ofExcept (outcome : Except fault α) : Journal event fault α :=
  ⟨[], outcome⟩

/-- A second computation after a first one that did not fail. -/
def andThen (first : Journal event fault α) (next : α → Journal event fault β) :
    Journal event fault β :=
  match first.outcome with
  | .ok result => ⟨first.events ++ (next result).events, (next result).outcome⟩
  | .error reason => ⟨first.events, .error reason⟩

instance : Monad (Journal event fault) where
  pure := succeed
  bind := andThen

/-- The same events with the failure, if any, described anew. -/
def mapFault (describe : fault → other) (journal : Journal event fault α) :
    Journal event other α :=
  ⟨journal.events, journal.outcome.mapError describe⟩

end Journal

end SqlTemplate
