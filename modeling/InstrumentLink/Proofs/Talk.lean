import InstrumentLink.Agent

/-!
Three sorts of entries in the log. Some tell of a transition, from one status to another; one tells that an agent has
ended; all the rest is talk.
-/

namespace InstrumentLink

def Kind.heading (kind : Kind) : String := kind.name ++ " connection: "

def LogEntry.isTransition (entry : LogEntry) : Bool :=
  entry.level = .info && Kind.all.any fun kind => kind.heading.toList.isPrefixOf entry.text.toList

def Agent.transition (kind : Kind) (status : Status) : LogEntry := ⟨.info, .agent, kind.heading ++ status.text⟩

def Agent.farewell : LogEntry := ⟨.info, .agent, "Agent stopped"⟩

def LogEntry.isTalk (entry : LogEntry) : Bool := !entry.isTransition && entry ≠ Agent.farewell

namespace LogEntry

theorem isTransition_transition (kind : Kind) (status : Status) : (Agent.transition kind status).isTransition = true := by
  have begins : kind.heading.toList.isPrefixOf (kind.heading ++ status.text).toList = true := by
    rw [String.toList_append, List.isPrefixOf_iff_prefix]
    exact List.prefix_append _ _
  have listed : kind ∈ Kind.all := by cases kind <;> decide
  rw [isTransition, Bool.and_eq_true, List.any_eq_true]
  exact ⟨rfl, kind, listed, begins⟩

theorem not_isTransition_of_isTalk {entry : LogEntry} (talk : entry.isTalk = true) : entry.isTransition = false := by
  rw [isTalk, Bool.and_eq_true, Bool.not_eq_true'] at talk
  exact talk.1

theorem ne_farewell_of_isTalk {entry : LogEntry} (talk : entry.isTalk = true) : entry ≠ Agent.farewell := by
  rw [isTalk, Bool.and_eq_true, decide_eq_true_eq] at talk
  exact talk.2

theorem farewell_ne_transition (kind : Kind) (status : Status) : Agent.farewell ≠ Agent.transition kind status := by
  intro same
  have shown := isTransition_transition kind status
  rw [← same] at shown
  revert shown
  decide

theorem isTalk_of_debug {entry : LogEntry} (quiet : entry.level = .debug) : entry.isTalk = true := by
  obtain ⟨level, origin, text⟩ := entry
  cases quiet
  rfl

theorem isTalk_hungUp (level : Level) : isTalk ⟨level, .transport .listener, "Peer hung up"⟩ = true := by
  have apart : (Kind.all.any fun kind => kind.heading.toList.isPrefixOf "Peer hung up".toList) = false := by decide
  rw [isTalk, isTransition, apart, Bool.and_false]
  cases level <;> rfl

theorem isTalk_accepted (level : Level) (text : String) :
    isTalk ⟨level, .transport .listener, "Accepted peer " ++ text⟩ = true := by
  have apart : (Kind.all.any fun kind => kind.heading.toList.isPrefixOf ("Accepted peer " ++ text).toList) = false := by
    rw [String.toList_append]
    rfl
  rw [isTalk, isTransition, apart, Bool.and_false]
  cases level <;> rfl

end LogEntry
end InstrumentLink
