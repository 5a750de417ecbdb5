import Mathlib.Data.List.Destutter
import InstrumentLink.Proofs.Connection.Settings
import InstrumentLink.Proofs.Lasting
import InstrumentLink.Proofs.Status

/-!
The transitions in the log are the statuses that polls have returned, without repetitions. Nothing but a poll tells of a
transition, a poll tells of one just when its status is another than that of the poll before, and what is told twice in
a row is never the same text.
-/

namespace InstrumentLink

section Repetitions

variable {α : Type} [DecidableEq α]

theorem getLast?_destutter' (first : α) (rest : List α) :
    (rest.destutter' (· ≠ ·) first).getLast? = (first :: rest).getLast? := by
  induction rest generalizing first with
  | nil => rfl
  | cons second rest ih =>
    by_cases same : first = second
    · subst same
      rw [List.destutter'_cons_neg _ (by simp), ih, List.getLast?_cons_cons]
    · rw [List.destutter'_cons_pos _ same, List.getLast?_cons, ih, List.getLast?_cons_cons]
      simp only [List.getLast?_cons, Option.getD_some]

theorem destutter'_concat (first : α) (rest : List α) (last : α) :
    (rest ++ [last]).destutter' (· ≠ ·) first =
      if (first :: rest).getLast? = some last then rest.destutter' (· ≠ ·) first
      else rest.destutter' (· ≠ ·) first ++ [last] := by
  induction rest generalizing first with
  | nil => by_cases same : first = last <;> simp [same]
  | cons second rest ih =>
    rw [List.cons_append, List.getLast?_cons_cons]
    by_cases same : first = second
    · subst same
      rw [List.destutter'_cons_neg _ (by simp), List.destutter'_cons_neg _ (by simp), ih]
    · rw [List.destutter'_cons_pos _ same, List.destutter'_cons_pos _ same, ih]
      split <;> rfl

theorem destutter_concat (before : List α) (last : α) :
    (before ++ [last]).destutter (· ≠ ·) =
      if before.getLast? = some last then before.destutter (· ≠ ·) else before.destutter (· ≠ ·) ++ [last] := by
  cases before with
  | nil => simp
  | cons first rest =>
    rw [List.cons_append, List.destutter_cons', List.destutter_cons']
    exact destutter'_concat first rest last

theorem getLast?_destutter (statuses : List α) : (statuses.destutter (· ≠ ·)).getLast? = statuses.getLast? := by
  cases statuses with
  | nil => rfl
  | cons first rest =>
    rw [List.destutter_cons']
    exact getLast?_destutter' first rest

end Repetitions

/-- Since the log was so, it has gained talk and just these transitions. -/
def World.Gained (log : List LogEntry) (transitions : List LogEntry) (world : World) : Prop :=
  ∃ told, world.log = log ++ told ∧ told.filter LogEntry.isTransition = transitions

namespace World.Gained

variable {world : World} {log transitions : List LogEntry}

theorem refl (world : World) : world.Gained world.log [] := ⟨[], (List.append_nil _).symm, rfl⟩

theorem tell (gained : world.Gained log transitions) (entries : List LogEntry) :
    (world.tell entries).Gained log (transitions ++ entries.filter LogEntry.isTransition) := by
  obtain ⟨told, grown, only⟩ := gained
  refine ⟨told ++ entries, ?_, ?_⟩
  · rw [World.tell_log, grown, List.append_assoc]
  · rw [List.filter_append, only]

theorem lasting (log transitions : List LogEntry) : World.Lasting (World.Gained log transitions) := by
  apply World.Lasting.of_log (P := fun now => ∃ told, now = log ++ told ∧ told.filter LogEntry.isTransition = transitions)
  rintro _ entries talk ⟨told, rfl, only⟩
  have none : entries.filter LogEntry.isTransition = [] := by
    rw [List.filter_eq_nil_iff]
    intro entry member
    rw [LogEntry.not_isTransition_of_isTalk (talk entry member)]
    exact Bool.false_ne_true
  refine ⟨told ++ entries, List.append_assoc .., ?_⟩
  rw [List.filter_append, none, List.append_nil, only]

end World.Gained

namespace Agent

/-- A move of an agent whose polls have returned some statuses, and the statuses that they have returned then. -/
def watch (move : Move) (agent : Agent) (seen : List Status) : Act (Agent × List Status) :=
  match move with
  | .poll => do
    let (agent, status) ← agent.poll
    return (agent, seen ++ [status])
  | move => do return (← agent.perform move, seen)

def watchAll (moves : List Move) (agent : Agent) : Act (Agent × List Status) :=
  moves.foldlM (fun state move => state.1.watch move state.2) (agent, [])

variable {agent : Agent} {world : World}

theorem watch_of_ne_poll {move : Move} (other : move ≠ .poll) (agent : Agent) (seen : List Status) (world : World) :
    (agent.watch move seen).result world =
      ((((agent.perform move).result world).1, seen), ((agent.perform move).result world).2) := by
  cases move <;> first | exact absurd rfl other | rfl

theorem watch_poll (agent : Agent) (seen : List Status) (world : World) :
    (agent.watch .poll seen).result world =
      (((agent.poll.result world).1.1, seen ++ [(agent.poll.result world).1.2]), (agent.poll.result world).2) := rfl

theorem watchAll_performAll (moves : List Move) (agent : Agent) (world : World) :
    (((agent.watchAll moves).result world).1.1, ((agent.watchAll moves).result world).2) =
      (agent.performAll moves).result world := by
  suffices from_seen : ∀ seen, ((((moves.foldlM (fun state move => state.1.watch move state.2) (agent, seen) :
      Act (Agent × List Status))).result world).1.1, (((moves.foldlM (fun state move => state.1.watch move state.2)
        (agent, seen) : Act (Agent × List Status))).result world).2) = (agent.performAll moves).result world from
    from_seen []
  induction moves generalizing agent world with
  | nil => exact fun _ => rfl
  | cons move rest ih =>
    intro seen
    rw [List.foldlM_cons, performAll, List.foldlM_cons, Act.result_bind, Act.result_bind]
    by_cases polled : move = .poll
    · subst polled
      exact ih _ _ _
    · rw [watch_of_ne_poll polled]
      exact ih _ _ _

theorem lastStatus_perform {move : Move} (other : move ≠ .poll) (agent : Agent) (world : World) :
    ((agent.perform move).result world).1.lastStatus = agent.lastStatus := by
  have unheard : ∀ act, ((agent.onListener act).result world).1.lastStatus = agent.lastStatus := by
    intro act
    unfold onListener
    split <;> rfl
  cases move with
  | poll => exact absurd rfl other
  | change _ | override _ | establish | disconnect _ | askStatus | askConnected _ | lend _ | event _ => rfl
  | read role count =>
    rw [perform, Act.result_bind]
    split <;> rfl
  | write role bytes =>
    rw [perform, Act.result_bind]
    split <;> rfl
  | askPeer | acceptPeer | releasePeer | dropPeer => exact unheard _

theorem kind_perform (order : agent.connection.InOrder world) (move : Move) :
    ((agent.perform move).result world).1.connection.kind = agent.connection.kind := by
  rw [← Connection.kind_settings, settings_perform order, ConnectionSettings.kind_setAll, Connection.kind_settings]

theorem lastStatus_poll (agent : Agent) (world : World) :
    (agent.poll.result world).1.1.lastStatus = some (agent.poll.result world).1.2 := by
  obtain ⟨told, more, result⟩ := agent.poll_result world
  rw [result]

theorem sensible_poll (order : agent.connection.InOrder world) : (agent.poll.result world).1.2.Sensible := by
  obtain ⟨told, more, result⟩ := agent.poll_result world
  have spoken := order.establish.of_kept (.tell order.establish.sound told)
  rw [result]
  exact Connection.sensible_status spoken.takePeer

theorem gained_poll {log transitions : List LogEntry} (order : agent.connection.InOrder world)
    (gained : world.Gained log transitions) :
    (agent.poll.result world).2.Gained log (transitions ++
      if agent.lastStatus = some (agent.poll.result world).1.2 then []
      else [transition agent.connection.kind (agent.poll.result world).1.2]) := by
  obtain ⟨before, kept, last⟩ := (World.Gained.lasting log transitions).poll_but_last agent gained
  have kind : (agent.poll.result world).1.1.connection.kind = agent.connection.kind := kind_perform order .poll
  have later := kept.tell (if agent.lastStatus = some (agent.poll.result world).1.2 then []
    else [transition (agent.poll.result world).1.1.connection.kind (agent.poll.result world).1.2])
  rw [← last, kind] at later
  by_cases same : agent.lastStatus = some (agent.poll.result world).1.2
  · rw [if_pos same] at later ⊢
    exact later
  · rw [if_neg same, List.filter_cons_of_pos (LogEntry.isTransition_transition ..)] at later
    rw [if_neg same]
    exact later

/-- The log of an agent and what its polls have returned tell the same. -/
structure Chronicle (log : List LogEntry) (kind : Kind) (seen : List Status) (agent : Agent) (world : World) : Prop where
  order : agent.connection.InOrder world
  kind_eq : agent.connection.kind = kind
  last : agent.lastStatus = seen.getLast?
  sensible : ∀ status ∈ seen, status.Sensible
  gained : world.Gained log ((seen.destutter (· ≠ ·)).map (transition kind))

namespace Chronicle

variable {log : List LogEntry} {kind : Kind} {seen : List Status}

theorem poll (chronicle : Chronicle log kind seen agent world) :
    Chronicle log kind (seen ++ [(agent.poll.result world).1.2]) (agent.poll.result world).1.1
      (agent.poll.result world).2 where
  order := poll_inOrder chronicle.order
  kind_eq := (kind_perform chronicle.order .poll).trans chronicle.kind_eq
  last := by rw [lastStatus_poll, List.getLast?_concat]
  sensible status member := by
    rcases List.mem_append.mp member with earlier | now
    · exact chronicle.sensible status earlier
    · rw [List.mem_singleton.mp now]
      exact sensible_poll chronicle.order
  gained := by
    have gained := gained_poll chronicle.order chronicle.gained
    rw [chronicle.last, chronicle.kind_eq] at gained
    rw [destutter_concat]
    by_cases same : seen.getLast? = some (agent.poll.result world).1.2
    · rw [if_pos same, List.append_nil] at gained
      rw [if_pos same]
      exact gained
    · rw [if_neg same] at gained
      rw [if_neg same, List.map_append]
      exact gained

theorem watch (chronicle : Chronicle log kind seen agent world) (move : Move) :
    Chronicle log kind ((agent.watch move seen).result world).1.2 ((agent.watch move seen).result world).1.1
      ((agent.watch move seen).result world).2 := by
  by_cases polled : move = .poll
  · subst polled
    rw [watch_poll]
    exact chronicle.poll
  · rw [watch_of_ne_poll polled]
    exact {
      order := inOrder_perform chronicle.order move
      kind_eq := (kind_perform chronicle.order move).trans chronicle.kind_eq
      last := (lastStatus_perform polled agent world).trans chronicle.last
      sensible := chronicle.sensible
      gained := (World.Gained.lasting log _).perform_of_ne_poll polled agent world chronicle.gained }

theorem foldlM (chronicle : Chronicle log kind seen agent world) (moves : List Move) :
    let run := (moves.foldlM (fun state move => state.1.watch move state.2) (agent, seen) :
      Act (Agent × List Status)).result world
    Chronicle log kind run.1.2 run.1.1 run.2 := by
  induction moves generalizing agent seen world with
  | nil => exact chronicle
  | cons move rest ih =>
    rw [List.foldlM_cons, Act.result_bind]
    exact ih (chronicle.watch move)

theorem watchAll (untouched : world.Untouched) (settings : ConnectionSettings) (moves : List Move) :
    let run := ((ofConnection (.ofSettings settings)).watchAll moves).result world
    Chronicle world.log settings.kind run.1.2 run.1.1 run.2 := by
  refine foldlM ?_ moves
  exact {
    order := .start untouched settings
    kind_eq := Connection.kind_ofSettings settings
    last := rfl
    sensible := by simp
    gained := .refl world }

theorem isChain (chronicle : Chronicle log kind seen agent world) :
    ((seen.destutter (· ≠ ·)).map (transition kind)).IsChain fun first second => first.text ≠ second.text := by
  have apart : ∀ first ∈ seen, ∀ second ∈ seen,
      first ≠ second ↔ (transition kind first).text ≠ (transition kind second).text := by
    intro first member second memberSecond
    refine not_congr ⟨fun same => by rw [same], fun same => ?_⟩
    refine Status.text_inj (chronicle.sensible first member) (chronicle.sensible second memberSecond) ?_
    have texts := congrArg String.toList same
    simp only [transition, String.toList_append] at texts
    exact String.toList_inj.mp (List.append_cancel_left texts)
  have texts := List.map_destutter apart
  have chain := List.isChain_destutter (· ≠ ·) (seen.map fun status => (transition kind status).text)
  rw [← texts, List.isChain_map] at chain
  exact (List.isChain_map _).mpr chain

end Chronicle
end Agent

/-- After any run, the transitions that the log has gained are the statuses that the polls have returned, without
repetitions: one line for each, at the same level, with the kind and the text of the status. The next poll adds one line
when it is the first or returns another status than the one before, and none else. So the last line shows the status that
was returned last, and no two lines in a row have the same text. -/
theorem transitions_are_returned_statuses {world : World} (untouched : world.Untouched) (settings : ConnectionSettings)
    (moves : List Move) :
    let run := ((Agent.ofConnection (.ofSettings settings)).watchAll moves).result world
    let agent := run.1.1
    let seen := run.1.2
    let later := run.2
    let line := fun status : Status => LogEntry.mk .info .agent (settings.kind.name ++ " connection: " ++ status.text)
    let lines := (seen.destutter (· ≠ ·)).map line
    (agent, later) = (Agent.performAll moves (.ofConnection (.ofSettings settings))).result world ∧
    later.Gained world.log lines ∧
    (let status := (agent.poll.result later).1.2
     (agent.poll.result later).2.Gained later.log (if seen.getLast? = some status then [] else [line status])) ∧
    lines.getLast? = seen.getLast?.map line ∧
    lines.IsChain fun first second => first.text ≠ second.text := by
  intro run agent seen later line lines
  have chronicle := Agent.Chronicle.watchAll untouched settings moves
  refine ⟨Agent.watchAll_performAll moves _ world, chronicle.gained, ?_, ?_, chronicle.isChain⟩
  · have next := Agent.gained_poll chronicle.order (.refl later)
    rw [chronicle.last, chronicle.kind_eq] at next
    exact next
  · rw [List.getLast?_map, getLast?_destutter]

def servedForAWhile : List Move :=
  [.poll, .event .refuseIdle, .event (.serve ⟨.v4 .localhost, 4001⟩ 1 true), .askStatus, .poll, .poll, .disconnect .command,
    .poll, .event (.close 1), .poll]

def servedClient : (Agent × List Status) × World :=
  ((Agent.ofConnection (.ofSettings (.tcp ⟨"127.0.0.1", 4001, "", 0⟩))).watchAll servedForAWhile).result
    (.ofRoutes .loopback)

/-- Five polls return three statuses, and the log shows that it was down, up, and down again. -/
theorem transitions_are_returned_statuses_served :
    servedClient.1.2.length = 5 ∧
      servedClient.2.Gained []
        [⟨.info, .agent, "tcp connection: data: disconnected, command: unconfigured"⟩,
          ⟨.info, .agent, "tcp connection: data: connected, command: unconfigured"⟩,
          ⟨.info, .agent, "tcp connection: data: disconnected, command: unconfigured"⟩] := by
  have seen : servedClient.1.2 =
      [⟨⟨true, true, false⟩, ⟨true, false, false⟩, none⟩, ⟨⟨true, true, true⟩, ⟨true, false, false⟩, none⟩,
        ⟨⟨true, true, true⟩, ⟨true, false, false⟩, none⟩, ⟨⟨true, true, true⟩, ⟨true, false, false⟩, none⟩,
        ⟨⟨true, true, false⟩, ⟨true, false, false⟩, none⟩] := by decide +kernel
  have lines : (servedClient.1.2.destutter (· ≠ ·)).map (fun status => LogEntry.mk .info .agent
      ((ConnectionSettings.tcp ⟨"127.0.0.1", 4001, "", 0⟩).kind.name ++ " connection: " ++ status.text)) =
      [⟨.info, .agent, "tcp connection: data: disconnected, command: unconfigured"⟩,
        ⟨.info, .agent, "tcp connection: data: connected, command: unconfigured"⟩,
        ⟨.info, .agent, "tcp connection: data: disconnected, command: unconfigured"⟩] := by
    rw [seen]
    decide +kernel
  have gained := (transitions_are_returned_statuses (.ofRoutes .loopback) (.tcp ⟨"127.0.0.1", 4001, "", 0⟩)
    servedForAWhile).2.1
  refine ⟨by rw [seen]; rfl, ?_⟩
  rw [← lines, servedClient]
  exact gained

end InstrumentLink
