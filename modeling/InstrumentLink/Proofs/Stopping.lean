import InstrumentLink.Proofs.Connection.Parting
import InstrumentLink.Proofs.Lasting

/-!
How the loop of an agent ends. The loop goes in steps: it looks whether it has been asked to stop, waits for its next
tick, polls, and looks again. Between any two steps somebody may ask it to stop, and anything may happen around it. Once
it has been asked, it polls once more at most, and only if it had looked before.
-/

namespace InstrumentLink

inductive Loop where
  /-- It is about to look whether it has been asked to stop. -/
  | looking (agent : Agent)
  /-- It has looked, and waits for its next tick. -/
  | waiting (agent : Agent)
  /-- Its tick has come, and it is about to poll. -/
  | due (agent : Agent)
  | stopped

namespace Loop

def agent? : Loop → Option Agent
  | looking agent | waiting agent | due agent => some agent
  | stopped => none

/-- How many polls begin without another look. -/
def passed : Loop → Nat
  | looking _ | stopped => 0
  | waiting _ | due _ => 1

def stepsLeft : Loop → Nat
  | waiting _ => 3
  | due _ => 2
  | looking _ => 1
  | stopped => 0

theorem stepsLeft_eq_zero {loop : Loop} : loop.stepsLeft = 0 ↔ loop = stopped := by
  cases loop <;> simp [stepsLeft]

theorem stepsLeft_le (loop : Loop) : loop.stepsLeft ≤ 3 := by
  cases loop <;> simp [stepsLeft]

theorem agent?_eq_none {loop : Loop} : loop.agent? = none ↔ loop = stopped := by
  cases loop <;> simp [agent?]

end Loop

structure Running where
  asked : Bool
  loop : Loop
  statuses : List Status

inductive Pulse where
  /-- The loop takes its next step. -/
  | own
  /-- Somebody asks it to stop. -/
  | ask
  | event (event : Event)
  deriving DecidableEq

namespace Running

def start (asked : Bool) (agent : Agent) : Running := ⟨asked, .looking agent, []⟩

/-- The next step of a loop. Its agent ends when the loop does. -/
def advance (running : Running) : Act Running :=
  match running.loop with
  | .looking agent =>
    if running.asked then do
      agent.stop
      return { running with loop := .stopped }
    else return { running with loop := .waiting agent }
  | .waiting agent => return { running with loop := .due agent }
  | .due agent => do
    let (agent, status) ← agent.poll
    return { running with loop := .looking agent, statuses := running.statuses ++ [status] }
  | .stopped => return running

def step (pulse : Pulse) (running : Running) : Act Running :=
  match pulse with
  | .own => running.advance
  | .ask => return { running with asked := true }
  | .event event => do
    modify (·.after event)
    return running

def stepAll (pulses : List Pulse) (running : Running) : Act Running :=
  pulses.foldlM (fun running pulse => running.step pulse) running

variable {running : Running} {world : World}

theorem stepAll_cons (pulse : Pulse) (pulses : List Pulse) (running : Running) (world : World) :
    (running.stepAll (pulse :: pulses)).result world =
      (((running.step pulse).result world).1.stepAll pulses).result ((running.step pulse).result world).2 := by
  rw [stepAll, List.foldlM_cons, Act.result_bind]
  rfl

theorem stepAll_append (first second : List Pulse) (running : Running) (world : World) :
    (running.stepAll (first ++ second)).result world =
      (((running.stepAll first).result world).1.stepAll second).result ((running.stepAll first).result world).2 := by
  rw [stepAll, List.foldlM_append, Act.result_bind]
  rfl

theorem stepAll_keeps {P : Running → World → Prop}
    (keeps : ∀ {running world}, P running world → ∀ pulse,
      P ((running.step pulse).result world).1 ((running.step pulse).result world).2)
    (holds : P running world) (pulses : List Pulse) :
    P ((running.stepAll pulses).result world).1 ((running.stepAll pulses).result world).2 := by
  induction pulses generalizing running world with
  | nil => exact holds
  | cons pulse rest ih =>
    rw [stepAll_cons]
    exact ih (keeps holds pulse)

inductive Stepped (running : Running) (world : World) : Pulse → Running × World → Prop
  | asked : Stepped running world .ask ({ running with asked := true }, world)
  | event (event : Event) : Stepped running world (.event event) (running, world.after event)
  | ended {agent : Agent} (at_ : running.loop = .looking agent) (asked : running.asked = true) :
    Stepped running world .own ({ running with loop := .stopped }, (agent.stop.result world).2)
  | passed {agent : Agent} (at_ : running.loop = .looking agent) (unasked : running.asked = false) :
    Stepped running world .own ({ running with loop := .waiting agent }, world)
  | ticked {agent : Agent} (at_ : running.loop = .waiting agent) :
    Stepped running world .own ({ running with loop := .due agent }, world)
  | polled {agent : Agent} (at_ : running.loop = .due agent) :
    Stepped running world .own
      ({ running with
          loop := .looking (agent.poll.result world).1.1
          statuses := running.statuses ++ [(agent.poll.result world).1.2] }, (agent.poll.result world).2)
  | idle (at_ : running.loop = .stopped) : Stepped running world .own (running, world)

theorem step_spec (pulse : Pulse) (running : Running) (world : World) :
    Stepped running world pulse ((running.step pulse).result world) := by
  cases pulse with
  | ask => exact .asked
  | event event => exact .event event
  | own =>
    obtain ⟨asked, loop, statuses⟩ := running
    cases loop with
    | looking agent =>
      cases asked with
      | true => exact .ended rfl rfl
      | false => exact .passed rfl rfl
    | waiting agent => exact .ticked rfl
    | due agent => exact .polled rfl
    | stopped => exact .idle rfl

theorem asked_step (asked : running.asked = true) (pulse : Pulse) (world : World) :
    ((running.step pulse).result world).1.asked = true ∧
      ((running.step pulse).result world).1.statuses.length + ((running.step pulse).result world).1.loop.passed =
        running.statuses.length + running.loop.passed := by
  have stepped := step_spec pulse running world
  generalize (running.step pulse).result world = outcome at stepped ⊢
  cases stepped with
  | asked => exact ⟨rfl, rfl⟩
  | event event => exact ⟨asked, rfl⟩
  | ended at_ _ => exact ⟨asked, by rw [at_]; rfl⟩
  | passed at_ unasked =>
    rw [asked] at unasked
    cases unasked
  | ticked at_ => exact ⟨asked, by rw [at_]; rfl⟩
  | polled at_ => exact ⟨asked, by rw [at_, List.length_append]; rfl⟩
  | idle at_ => exact ⟨asked, rfl⟩

theorem stepsLeft_step (asked : running.asked = true) (pulse : Pulse) (world : World) :
    ((running.step pulse).result world).1.loop.stepsLeft =
      running.loop.stepsLeft - if pulse = .own then 1 else 0 := by
  have stepped := step_spec pulse running world
  generalize (running.step pulse).result world = outcome at stepped ⊢
  cases stepped with
  | asked => rfl
  | event event => rfl
  | ended at_ _ => rw [at_]; rfl
  | passed at_ unasked =>
    rw [asked] at unasked
    cases unasked
  | ticked at_ => rw [at_]; rfl
  | polled at_ => rw [at_]; rfl
  | idle at_ => rw [at_]; rfl

theorem asked_stepAll (asked : running.asked = true) (pulses : List Pulse) (world : World) :
    ((running.stepAll pulses).result world).1.statuses.length +
        ((running.stepAll pulses).result world).1.loop.passed = running.statuses.length + running.loop.passed ∧
      ((running.stepAll pulses).result world).1.loop.stepsLeft = running.loop.stepsLeft - pulses.count .own := by
  induction pulses generalizing running world with
  | nil => exact ⟨rfl, rfl⟩
  | cons pulse rest ih =>
    obtain ⟨still, polls⟩ := asked_step asked pulse world
    have steps := stepsLeft_step asked pulse world
    obtain ⟨pollsRest, stepsRest⟩ := ih still ((running.step pulse).result world).2
    rw [stepAll_cons, stepsRest, pollsRest, polls, steps, List.count_cons]
    refine ⟨rfl, ?_⟩
    by_cases own : pulse = .own
    · simp [own]
      omega
    · simp [own]

theorem idle_step (ended : running.loop = .stopped) (pulse : Pulse) (world : World) :
    ((running.step pulse).result world).1.loop = .stopped ∧
      ((running.step pulse).result world).1.statuses = running.statuses ∧
      ((running.step pulse).result world).2.log = world.log ∧
      ((running.step pulse).result world).2.journal = world.journal := by
  have stepped := step_spec pulse running world
  generalize (running.step pulse).result world = outcome at stepped ⊢
  cases stepped with
  | asked => exact ⟨ended, rfl, rfl, rfl⟩
  | event event => exact ⟨ended, rfl, rfl, rfl⟩
  | idle at_ => exact ⟨ended, rfl, rfl, rfl⟩
  | ended at_ _ | passed at_ _ | ticked at_ | polled at_ =>
    rw [ended] at at_
    cases at_

theorem idle_stepAll (ended : running.loop = .stopped) (pulses : List Pulse) (world : World) :
    ((running.stepAll pulses).result world).1.loop = .stopped ∧
      ((running.stepAll pulses).result world).1.statuses = running.statuses ∧
      ((running.stepAll pulses).result world).2.log = world.log ∧
      ((running.stepAll pulses).result world).2.journal = world.journal := by
  apply stepAll_keeps (P := fun now later => now.loop = .stopped ∧ now.statuses = running.statuses ∧
    later.log = world.log ∧ later.journal = world.journal)
  · rintro now later ⟨still, statuses, log, journal⟩ pulse
    obtain ⟨after, more, said, noted⟩ := idle_step still pulse later
    exact ⟨after, more.trans statuses, said.trans log, noted.trans journal⟩
  · exact ⟨ended, rfl, rfl, rfl⟩

end Running

/-- Since the log was so, no agent has said that it ends. -/
def World.Unparted (log : List LogEntry) (world : World) : Prop :=
  ∃ told, world.log = log ++ told ∧ Agent.farewell ∉ told

/-- Since the log was so, an agent has said once that it ends, and nothing but talk has followed. -/
def World.Parted (log : List LogEntry) (world : World) : Prop :=
  ∃ before after, world.log = log ++ before ++ Agent.farewell :: after ∧ Agent.farewell ∉ before ∧
    ∀ entry ∈ after, entry.isTalk = true

theorem World.Unparted.lasting (log : List LogEntry) : World.Lasting (World.Unparted log) := by
  apply World.Lasting.of_log (P := fun now => ∃ told, now = log ++ told ∧ Agent.farewell ∉ told)
  rintro _ entries talk ⟨told, rfl, silent⟩
  refine ⟨told ++ entries, List.append_assoc .., ?_⟩
  intro member
  rcases List.mem_append.mp member with earlier | later
  · exact silent earlier
  · exact LogEntry.ne_farewell_of_isTalk (talk _ later) rfl

namespace Agent

variable {agent : Agent} {world : World} {log : List LogEntry}

theorem unparted_poll (unparted : world.Unparted log) : (agent.poll.result world).2.Unparted log := by
  obtain ⟨before, ⟨told, grown, silent⟩, last⟩ := (World.Unparted.lasting log).poll_but_last agent unparted
  rw [last]
  refine ⟨told ++ _, by rw [World.tell_log, grown, List.append_assoc], ?_⟩
  intro member
  rcases List.mem_append.mp member with earlier | now
  · exact silent earlier
  · split at now
    · cases now
    · exact LogEntry.farewell_ne_transition _ _ (List.mem_singleton.mp now)

theorem stop_result (agent : Agent) (world : World) :
    (agent.stop.result world).2 = (agent.connection.dispose.result (world.tell [farewell])).2 := rfl

theorem parted_stop (order : agent.connection.InOrder world) (unparted : world.Unparted log) :
    agent.connection.duplicate.InOrder (agent.stop.result world).2 ∧ (agent.stop.result world).2.Parted log ∧
      (agent.stop.result world).2.journal = world.journal ++ agent.connection.closings := by
  obtain ⟨told, grown, silent⟩ := unparted
  have spoken := order.of_kept (.tell order.sound [farewell])
  obtain ⟨after, journal, more, quiet, said⟩ := Connection.parted_dispose spoken
  rw [stop_result]
  refine ⟨after, ⟨told, more, ?_, silent, ?_⟩, journal⟩
  · rw [said, World.tell_log, grown]
    simp
  · exact fun entry member => LogEntry.isTalk_of_debug (quiet entry member)

end Agent

inductive Stands (log : List LogEntry) : Option Agent → World → Prop
  | running {agent : Agent} {world : World} (order : agent.connection.InOrder world) (unparted : world.Unparted log) :
    Stands log (some agent) world
  | stopped {connection : Connection} {world : World} (order : connection.duplicate.InOrder world)
      (parted : world.Parted log) : Stands log none world

namespace Stands

variable {log : List LogEntry} {running : Running} {world : World}

theorem event {left : Option Agent} (stands : Stands log left world) (event : Event) :
    Stands log left (world.after event) := by
  cases stands with
  | running order unparted => exact .running (order.of_kept (World.kept_after order.sound event)) unparted
  | stopped order parted => exact .stopped (order.of_kept (World.kept_after order.sound event)) parted

theorem unparted (stands : Stands log running.loop.agent? world) (runs : running.loop ≠ .stopped) :
    world.Unparted log := by
  cases left : running.loop.agent? with
  | none => exact absurd (Loop.agent?_eq_none.mp left) runs
  | some agent =>
    rw [left] at stands
    cases stands with
    | running order unparted => exact unparted

theorem parted (stands : Stands log running.loop.agent? world) (ended : running.loop = .stopped) :
    world.Parted log ∧ ∀ asset, world.own? asset = none ∧ ¬StillOpen world.journal asset := by
  rw [ended] at stands
  cases stands with
  | stopped order parted => exact ⟨parted, order.nothing⟩

theorem step (stands : Stands log running.loop.agent? world) (pulse : Pulse) :
    Stands log ((running.step pulse).result world).1.loop.agent? ((running.step pulse).result world).2 := by
  have stepped := Running.step_spec pulse running world
  generalize (running.step pulse).result world = outcome at stepped ⊢
  cases stepped with
  | asked => exact stands
  | event event => exact stands.event event
  | idle at_ => exact stands
  | passed at_ _ | ticked at_ =>
    rw [at_] at stands
    exact stands
  | ended at_ _ =>
    rw [at_] at stands
    cases stands with
    | running order unparted =>
      obtain ⟨after, parted, _⟩ := Agent.parted_stop order unparted
      exact .stopped after parted
  | polled at_ =>
    rw [at_] at stands
    cases stands with
    | running order unparted => exact .running (Agent.poll_inOrder order) (Agent.unparted_poll unparted)

theorem stepAll (stands : Stands log running.loop.agent? world) (pulses : List Pulse) :
    Stands log ((running.stepAll pulses).result world).1.loop.agent? ((running.stepAll pulses).result world).2 :=
  Running.stepAll_keeps (P := fun running world => Stands log running.loop.agent? world) step stands pulses

end Stands

/-- A run that was asked to stop before it began: it has closed nothing, or all that its agent owned. -/
inductive Unpolled (agent : Agent) (world : World) : Running → World → Prop
  | looking {later : World} (order : agent.connection.InOrder later) (journal : later.journal = world.journal) :
    Unpolled agent world ⟨true, .looking agent, []⟩ later
  | stopped {later : World} (journal : later.journal = world.journal ++ agent.connection.closings) :
    Unpolled agent world ⟨true, .stopped, []⟩ later

namespace Unpolled

variable {agent : Agent} {world later : World} {running : Running}

theorem step (unpolled : Unpolled agent world running later) (pulse : Pulse) :
    Unpolled agent world ((running.step pulse).result later).1 ((running.step pulse).result later).2 := by
  cases unpolled with
  | looking order journal =>
    cases pulse with
    | ask => exact .looking order journal
    | event event => exact .looking (order.of_kept (World.kept_after order.sound event)) journal
    | own =>
      have spoken := order.of_kept (.tell order.sound [Agent.farewell])
      have closed := (Connection.parted_dispose spoken).journal
      rw [World.tell_journal, journal] at closed
      exact .stopped closed
  | stopped journal => cases pulse <;> exact .stopped journal

theorem stepAll (unpolled : Unpolled agent world running later) (pulses : List Pulse) :
    Unpolled agent world ((running.stepAll pulses).result later).1 ((running.stepAll pulses).result later).2 :=
  Running.stepAll_keeps step unpolled pulses

theorem nothing_opened (unpolled : Unpolled agent world running later) : running.statuses = [] ∧
    (later.journal = world.journal ∨ later.journal = world.journal ++ agent.connection.closings) := by
  cases unpolled with
  | looking order journal => exact ⟨rfl, .inl journal⟩
  | stopped journal => exact ⟨rfl, .inr journal⟩

end Unpolled

def Turn.schedule (asked : Bool) : List Turn → List Pulse
  | [] => []
  | turn :: rest =>
    (if turn.stopBefore then [.ask] else []) ++ .own ::
      if asked || turn.stopBefore then []
      else
        turn.outside.map .event ++ (if turn.stopWhileWaiting then [.ask] else []) ++
          .own :: .own :: schedule turn.stopWhileWaiting rest

namespace Running

variable {world : World}

theorem stepAll_events (events : List Event) (running : Running) (world : World) :
    (running.stepAll (events.map .event)).result world = (running, world.afterAll events) := by
  induction events generalizing world with
  | nil => rfl
  | cons event rest ih =>
    rw [List.map_cons, stepAll_cons]
    exact ih (world.after event)

theorem stepAll_ask (asks : Bool) (running : Running) (world : World) :
    (running.stepAll (if asks then [.ask] else [])).result world =
      ({ running with asked := running.asked || asks }, world) := by
  cases asks with
  | false =>
    rw [Bool.or_false]
    rfl
  | true =>
    rw [Bool.or_true]
    rfl

theorem stepAll_schedule (turns : List Turn) (asked : Bool) (agent : Agent) (statuses : List Status) (world : World) :
    ((Running.stepAll (Turn.schedule asked turns) ⟨asked, .looking agent, statuses⟩).result world).1.loop =
        ((agent.run asked turns).result world).1.elim .stopped .looking ∧
      ((Running.stepAll (Turn.schedule asked turns) ⟨asked, .looking agent, statuses⟩).result world).2 =
        ((agent.run asked turns).result world).2 := by
  induction turns generalizing asked agent statuses world with
  | nil => exact ⟨rfl, rfl⟩
  | cons turn rest ih =>
    rw [Turn.schedule, stepAll_append, stepAll_ask, stepAll_cons]
    unfold Agent.run
    dsimp only
    cases asks : asked || turn.stopBefore with
    | true => exact ⟨rfl, rfl⟩
    | false =>
      rw [if_neg Bool.false_ne_true, if_neg Bool.false_ne_true, List.append_assoc, stepAll_append, stepAll_append,
        stepAll_events, stepAll_ask, stepAll_cons, stepAll_cons]
      exact ih turn.stopWhileWaiting _ _ _

end Running

/-- Whatever has happened before, whenever the loop of an agent is asked to stop and whatever happens around it, at any
moment of the run: once it has been asked, it begins at most one more poll, and none unless it had looked before; three more
steps, and it has stopped. If it was asked before it began, it never polls, and all that it does is to give up what it
owned.
Its end is told once, when it has stopped, and no transition is told after that; by then nothing that the agent opened or
took is open, and the loop neither polls, tells nor does anything any more. The program goes by turns, and comes to what the
steps of its turns come to. -/
theorem stops_when_asked {agent : Agent} {world : World} (reached : Reachable agent world) (asked : Bool)
    (pulses : List Pulse) :
    let run := ((Running.start asked agent).stepAll pulses).result world
    let now := run.1
    let later := run.2
    (now.asked = true → ∀ more,
      let next := ((now.stepAll more).result later).1
      next.statuses.length ≤ now.statuses.length + now.loop.passed ∧
        (3 ≤ more.count .own → next.loop = .stopped)) ∧
    (asked = true → now.statuses = [] ∧
      (later.journal = world.journal ∨ later.journal = world.journal ++ agent.connection.closings)) ∧
    (now.loop ≠ .stopped → ∃ told, later.log = world.log ++ told ∧ Agent.farewell ∉ told) ∧
    (now.loop = .stopped →
      (∃ before after, later.log = world.log ++ before ++ Agent.farewell :: after ∧ Agent.farewell ∉ before ∧
        Agent.farewell ∉ after ∧ ∀ entry ∈ after, entry.isTransition = false) ∧
      (∀ asset, later.own? asset = none ∧ ¬StillOpen later.journal asset) ∧
      ∀ more,
        let next := (now.stepAll more).result later
        next.1.loop = .stopped ∧ next.1.statuses = now.statuses ∧ next.2.log = later.log ∧
          next.2.journal = later.journal) ∧
    ∀ turns,
      let stepped := ((Running.start asked agent).stepAll (Turn.schedule asked turns)).result world
      let ran := (agent.run asked turns).result world
      stepped.1.loop = ran.1.elim .stopped .looking ∧ stepped.2 = ran.2 := by
  have order := inOrder_of_reachable reached
  -- `Stands` is what each pulse preserves: an agent in order until the loop ends, and nothing open after.
  have start : Stands world.log (Running.start asked agent).loop.agent? world :=
    .running order ⟨[], (List.append_nil _).symm, List.not_mem_nil⟩
  have stands := start.stepAll pulses
  intro run now later
  refine ⟨?_, ?_, ?_, ?_, ?_⟩
  · intro wasAsked more next
    obtain ⟨polls, steps⟩ : next.statuses.length + next.loop.passed = now.statuses.length + now.loop.passed ∧
        next.loop.stepsLeft = now.loop.stepsLeft - more.count .own := Running.asked_stepAll wasAsked more later
    refine ⟨by omega, fun enough => ?_⟩
    have few := now.loop.stepsLeft_le
    apply Loop.stepsLeft_eq_zero.mp
    omega
  · rintro rfl
    have unpolled : Unpolled agent world (Running.start true agent) world := .looking order rfl
    exact (unpolled.stepAll pulses).nothing_opened
  · exact stands.unparted
  · intro ended
    obtain ⟨⟨before, after, said, silent, talk⟩, nothing⟩ := stands.parted ended
    refine ⟨⟨before, after, said, silent, ?_, ?_⟩, nothing, fun more => Running.idle_stepAll ended more later⟩
    · exact fun member => LogEntry.ne_farewell_of_isTalk (talk _ member) rfl
    · exact fun entry member => LogEntry.not_isTransition_of_isTalk (talk entry member)
  · exact fun turns => Running.stepAll_schedule turns asked agent [] world

def freshListener : Agent := .ofConnection (.ofSettings (.rsn ⟨"", 4001, "", 0⟩))

/-- It is asked to stop while it waits for its first tick: it polls once, which binds its port, and stops when it looks
again, which closes it. -/
theorem stops_when_asked_waiting :
    let turns : List Turn := [⟨false, true, []⟩, .quiet]
    let ran := (freshListener.run false turns).result (.ofRoutes .loopback)
    ran.1 = none ∧ (∀ asset, ran.2.own? asset = none) ∧
      ran.2.journal = [.listen ⟨.v4 ⟨0, 0, 0, 0⟩, 4001⟩ (some 0), .close 0] ∧ ran.2.log.count Agent.farewell = 1 := by
  have reached : Reachable freshListener (.ofRoutes .loopback) := .start (.ofRoutes .loopback) _
  have stopped : ((freshListener.run false [⟨false, true, []⟩, .quiet]).result (.ofRoutes .loopback)).1 = none := by
    decide +kernel
  intro turns ran
  obtain ⟨-, -, -, -, byTurns⟩ := stops_when_asked reached false []
  obtain ⟨loop, world⟩ := byTurns turns
  have ended : ((Running.start false freshListener).stepAll (Turn.schedule false turns)).result
      (.ofRoutes .loopback) |>.1.loop = .stopped := by
    rw [loop, stopped]
    rfl
  obtain ⟨-, -, -, closed, -⟩ := stops_when_asked reached false (Turn.schedule false turns)
  have nothing := (closed ended).2.1
  rw [world] at nothing
  exact ⟨stopped, fun asset => (nothing asset).1, by decide +kernel, by decide +kernel⟩

end InstrumentLink
