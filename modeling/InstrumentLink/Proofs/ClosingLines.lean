import InstrumentLink.Proofs.Endpoint.History
import InstrumentLink.Proofs.Endpoint.Words
import InstrumentLink.Proofs.Targets

/-!
What an endpoint says when it lets go. The line names the address that the endpoint has by then. That is the address
that the thing was opened for, except where the thing goes because the address changes: the new address is stored first.
-/

namespace InstrumentLink

theorem Channel.log_read (channel : Channel) (count : Nat) (world : World) :
    ((channel.read count).result world).2.log = world.log := by
  cases channel with
  | listener held =>
    unfold read
    dsimp only
    cases held.peer <;> rfl
  | stream id | udp id | serial id => rfl

theorem Channel.log_write (channel : Channel) (bytes : List UInt8) (world : World) :
    ((channel.write bytes).result world).2.log = world.log := by
  cases channel with
  | listener held =>
    unfold write
    dsimp only
    cases held.peer <;> rfl
  | stream id | udp id | serial id => rfl

namespace Endpoint

variable {transport : Transport} {endpoint : Endpoint transport} {world : World}

structure Step (transport : Transport) where
  before : Endpoint transport
  world : World
  move : Move transport

namespace Step

def after (step : Step transport) : Endpoint transport := ((step.before.perform step.move).result step.world).1

def later (step : Step transport) : World := ((step.before.perform step.move).result step.world).2

/-- Whether a move closes the thing that the endpoint had opened itself and held. -/
def letsGo (step : Step transport) : Bool :=
  step.before.handle.any fun handle =>
    (step.later.journal.drop step.world.journal.length).contains (transport.asset (transport.number handle)).closing

end Step

def Step.closingTexts (step : Step transport) : List String :=
  if step.letsGo then [transport.closingText step.after.target] else []

theorem said_of_release {step : Step transport} {texts : List String} {rest : List Deed}
    (told : World.Told transport texts (step.before.closings ++ rest) step.world step.later)
    (line : texts = if step.before.hasHandle then [transport.closingText step.after.target] else []) :
    step.later.closings transport = step.world.closings transport ++ step.closingTexts := by
  have same : step.letsGo = step.before.hasHandle := by
    rw [Step.letsGo, told.noted, List.drop_left, hasHandle]
    cases held : step.before.handle with
    | none => rfl
    | some handle =>
      have own : ⟨transport.asset (transport.number handle), transport.ways?⟩ ∈ step.before.partings := by
        rw [partings_of_handle held, Transport.partings]
        exact List.mem_append_right _ (List.mem_singleton.mpr rfl)
      simp only [Option.any_some, List.contains_iff_mem, Option.isSome_some]
      exact List.mem_append_left _ (List.mem_flatMap.mpr ⟨_, own, Parting.closing_mem_deeds _⟩)
  rw [told.said, line, Step.closingTexts, same]

theorem said_of_keep {step : Step transport} {deeds : List Deed}
    (told : World.Told transport [] deeds step.world step.later)
    (kept : ∀ handle, step.before.handle = some handle → (transport.asset (transport.number handle)).closing ∉ deeds) :
    step.later.closings transport = step.world.closings transport ++ step.closingTexts := by
  have stays : step.letsGo = false := by
    rw [Step.letsGo, told.noted, List.drop_left]
    cases held : step.before.handle with
    | none => rfl
    | some handle => simpa using kept handle held
  rw [told.said, Step.closingTexts, stays]
  rfl

theorem said_disconnect (endpoint : Endpoint transport) (world : World) :
    let step : Step transport := ⟨endpoint, world, .disconnect⟩
    step.later.closings transport = world.closings transport ++ step.closingTexts := by
  intro step
  have result : (endpoint.disconnect.result world) = (step.after, step.later) := rfl
  rw [disconnect_result] at result
  have told := told_afterRelease endpoint world
  rw [show endpoint.afterRelease world = step.later from congrArg Prod.snd result,
    ← List.append_nil endpoint.closings] at told
  refine said_of_release told ?_
  rw [← show endpoint.released = step.after from congrArg Prod.fst result]
  rfl

variable (sound : world.Sound) (fits : endpoint.Fits world)

include sound

theorem said_change (target : transport.Target) :
    let step : Step transport := ⟨endpoint, world, .change target⟩
    step.later.closings transport = world.closings transport ++ step.closingTexts := by
  intro step
  have moved : step.after.target = target := target_change sound.network endpoint target
  have result : ((endpoint.change target).result world).2 = step.later := rfl
  rw [change_result sound.network] at result
  split at result
  next same =>
    have told : World.Told transport [] [] world step.later := result ▸ .refl world
    exact said_of_keep told (by simp)
  next other =>
    have gone := told_afterMove target endpoint world
    split at result
    next up =>
      obtain ⟨deeds, raised⟩ := told_raiseMoved (endpoint.moved target).released (endpoint.afterMove target world)
      have told := gone.trans raised
      rw [result, List.append_nil] at told
      exact said_of_release told (by rw [moved]; rfl)
    next down =>
      dsimp only at result
      rw [result, ← List.append_nil endpoint.closings] at gone
      exact said_of_release gone (by rw [moved]; rfl)

include fits

theorem said_establish :
    let step : Step transport := ⟨endpoint, world, .establish⟩
    step.later.closings transport = world.closings transport ++ step.closingTexts := by
  intro step
  have attempt := establish_attempt sound fits
  have after : step.after = (endpoint.establish.result world).1.1 := rfl
  have later : step.later = (endpoint.establish.result world).2 := rfl
  generalize endpoint.establish.result world = outcome at attempt after later
  cases attempt with
  | settled unbroken held | lacking unset =>
    have told : World.Told transport [] [] world step.later := later ▸ .refl world
    exact said_of_keep told (by simp)
  | @renewed set looked words kept log about =>
    have quiet : ∀ entry ∈ words, entry.isClosing transport = false := by
      intro entry member
      obtain ⟨what, text⟩ := about entry member
      obtain ⟨level, origin, _⟩ := entry
      cases text
      exact LogEntry.isClosing_describe level origin endpoint.target what
    have spoken : World.Told transport [] [] world looked :=
      .of_entries log quiet (kept.journal.trans (List.append_nil _).symm)
    obtain ⟨rest, reopened⟩ := told_reopen endpoint looked
    have told := spoken.trans reopened
    rw [← later, List.nil_append, List.nil_append] at told
    refine said_of_release told ?_
    rw [after, target_reopen]
    rfl

omit sound fits in
theorem said_of_same {step : Step transport} (log : step.later.log = step.world.log)
    (journal : step.later.journal = step.world.journal) :
    step.later.closings transport = step.world.closings transport ++ step.closingTexts :=
  said_of_keep (.of_log log (journal.trans (List.append_nil _).symm)) (by simp)

omit sound in
theorem said_onListener {act : Listener → Act Listener} {move : Move transport}
    (is : endpoint.perform move = endpoint.onListener act)
    (minor : ∀ listener : Listener, listener.Minor world ((act listener).result world).2) :
    let step : Step transport := ⟨endpoint, world, move⟩
    step.later.closings transport = world.closings transport ++ step.closingTexts := by
  intro step
  have later : step.later = ((endpoint.onListener act).result world).2 := by rw [← is]; rfl
  rcases endpoint.onListener_cases act with ⟨listener, held, rfl⟩ | idle
  · obtain ⟨target, _⟩ := endpoint
    cases held
    obtain ⟨deeds, told, closes⟩ := minor listener
    have acted : step.later = ((act listener).result world).2 :=
      later.trans (congrArg Prod.snd (onListener_of_listener act target listener world))
    rw [← acted] at told
    refine said_of_keep told fun handle holds closed => ?_
    cases holds
    exact Fits.peer_apart fits (closes _ closed) rfl
  · rw [idle] at later
    exact said_of_same (congrArg World.log later) (congrArg World.journal later)

theorem said_perform (move : Move transport) :
    let step : Step transport := ⟨endpoint, world, move⟩
    step.later.closings transport = world.closings transport ++ step.closingTexts := by
  cases move with
  | change target => exact said_change sound target
  | establish => exact said_establish sound fits
  | disconnect => exact said_disconnect endpoint world
  | askConnected =>
    have same : (endpoint.isConnected.result world).2 = world := by rw [isConnected_result sound.network]
    exact said_of_same (congrArg World.log same) (congrArg World.journal same)
  | lend =>
    have same := world_lend sound endpoint
    exact said_of_same (congrArg World.log same) (congrArg World.journal same)
  | read count =>
    have silent : let later := ((endpoint.perform (.read count)).result world).2
        later.log = world.log ∧ later.journal = world.journal := by
      rw [perform, Act.result_bind, world_lend sound]
      split
      · exact ⟨rfl, rfl⟩
      next channel _ => exact ⟨channel.log_read count world, (channel.read_kept sound count).journal⟩
    exact said_of_same silent.1 silent.2
  | write bytes =>
    have silent : let later := ((endpoint.perform (.write bytes)).result world).2
        later.log = world.log ∧ later.journal = world.journal := by
      rw [perform, Act.result_bind, world_lend sound]
      split
      · exact ⟨rfl, rfl⟩
      next channel _ => exact ⟨channel.log_write bytes world, (channel.write_kept sound bytes).journal⟩
    exact said_of_same silent.1 silent.2
  | askPeer => exact said_onListener fits rfl fun listener => listener.minor_livePeer? world
  | acceptPeer => exact said_onListener fits rfl fun listener => listener.minor_acceptPeer world sound
  | releasePeer => exact said_onListener fits rfl fun listener => listener.minor_releaseClosedPeer world
  | dropPeer => exact said_onListener fits rfl fun listener => listener.minor_dropPeer world
  | event event => exact said_of_same rfl rfl

omit sound fits

def Move.target? : Move transport → Option transport.Target
  | .change target => some target
  | _ => none

theorem target_perform (sound : world.Sound) (fits : endpoint.Fits world) (move : Move transport) :
    ((endpoint.perform move).result world).1.target = move.target?.getD endpoint.target := by
  have acted : ∀ act : Listener → Act Listener,
      ((endpoint.onListener act).result world).1.target = endpoint.target := by
    intro act
    rcases endpoint.onListener_cases act with ⟨listener, held, rfl⟩ | idle
    · obtain ⟨target, _⟩ := endpoint
      cases held
      exact congrArg (fun outcome => outcome.1.target) (onListener_of_listener act target listener world)
    · rw [idle]
  cases move with
  | change target => exact target_change sound.network endpoint target
  | establish =>
    have attempt := establish_attempt sound fits
    change (endpoint.establish.result world).1.1.target = endpoint.target
    generalize endpoint.establish.result world = outcome at attempt
    cases attempt with
    | settled unbroken held | lacking unset => rfl
    | renewed set kept log about => exact endpoint.target_reopen _
  | disconnect =>
    change (endpoint.disconnect.result world).1.target = endpoint.target
    rw [disconnect_result]
    rfl
  | read count | write bytes =>
    rw [perform, Act.result_bind]
    split <;> rfl
  | askPeer | acceptPeer | releasePeer | dropPeer => exact acted _
  | askConnected | lend | event event => rfl

def steps : List (Move transport) → Endpoint transport → World → List (Step transport)
  | [], _, _ => []
  | move :: rest, endpoint, world =>
    let step : Step transport := ⟨endpoint, world, move⟩
    step :: steps rest step.after step.later

theorem flatMap_closingTexts (run : List (Step transport)) :
    run.flatMap Step.closingTexts =
      (run.filter Step.letsGo).map fun step => transport.closingText step.after.target := by
  induction run with
  | nil => rfl
  | cons step rest ih =>
    rw [List.flatMap_cons, ih, Step.closingTexts]
    cases gone : step.letsGo with
    | true => simp [gone]
    | false => simp [gone]

theorem reached_of_mem_steps {moves : List (Move transport)} (reached : endpoint.Reached world) {step : Step transport}
    (member : step ∈ steps moves endpoint world) : step.before.Reached step.world := by
  induction moves generalizing endpoint world with
  | nil => cases member
  | cons move rest ih =>
    rcases List.mem_cons.mp member with rfl | later
    · exact reached
    · exact ih (reached.step move) later

theorem said_performAll {moves : List (Move transport)} (reached : endpoint.Reached world) :
    ((endpoint.performAll moves).result world).2.closings transport =
      world.closings transport ++ (steps moves endpoint world).flatMap Step.closingTexts := by
  induction moves generalizing endpoint world with
  | nil => exact (List.append_nil _).symm
  | cons move rest ih =>
    obtain ⟨sound, fits⟩ := reached.inOrder
    have first := said_perform sound fits move
    have later := ih (reached.step move)
    calc ((endpoint.performAll (move :: rest)).result world).2.closings transport
        = ((endpoint.perform move).result world).2.closings transport ++
            (steps rest _ _).flatMap Step.closingTexts := later
      _ = world.closings transport ++ (steps (move :: rest) endpoint world).flatMap Step.closingTexts := by
        rw [show ((endpoint.perform move).result world).2.closings transport = _ from first, List.append_assoc]
        rfl

theorem said_dispose (endpoint : Endpoint transport) (world : World) :
    (endpoint.dispose.result world).2.closings transport =
      world.closings transport ++ if transport = .client then endpoint.closingTexts else [] := by
  obtain ⟨target, _ | handle⟩ := endpoint
  · have idle : ((⟨target, none⟩ : Endpoint transport).dispose.result world).2 = world := rfl
    rw [idle]
    simp [closingTexts, hasHandle]
  · cases transport with
    | client =>
      have same : ((⟨target, some handle⟩ : Endpoint .client).dispose.result world).2 =
          ((⟨target, some handle⟩ : Endpoint .client).disconnect.result world).2 := rfl
      rw [same, disconnect_result]
      exact (told_afterRelease _ world).said
    | listener | udp | serial =>
      have shut : ((Endpoint.dispose ⟨target, some handle⟩).result world).2.log = world.log :=
        (congrArg (fun outcome => outcome.2.log) (Transport.discard_result _ handle world)).trans (World.log_shutAll ..)
      rw [World.closings, shut, if_neg (by decide), List.append_nil]
      rfl

end Endpoint

/-- In every run of any operations, whatever has happened before, an endpoint says that it lets go just as often as it
does, and the line names the address that it is set to after the move. What it held before a move was opened for the
address before the move, and no move but a change gives it another address. So each line names what was open, unless
the thing goes because the address changes: that line names the new address. A client also says so at its end, of the
address that it was opened for; no other endpoint speaks then. -/
theorem closing_lines_name_present_target {transport : Transport} {endpoint : Endpoint transport} {world : World}
    (reached : endpoint.Reached world) (moves : List (Endpoint.Move transport)) :
    let run := Endpoint.steps moves endpoint world
    let last := (endpoint.performAll moves).result world
    last.2.closings transport = world.closings transport ++
        (run.filter Endpoint.Step.letsGo).map (fun step => transport.closingText step.after.target) ∧
      (∀ step ∈ run,
        (∀ handle, step.before.handle = some handle → transport.OpenedFor step.world step.before.target handle) ∧
        step.after.target = step.move.target?.getD step.before.target) ∧
      (last.1.dispose.result last.2).2.closings transport =
        last.2.closings transport ++ if transport = .client then last.1.closingTexts else [] := by
  intro run last
  refine ⟨?_, fun step member => ?_, Endpoint.said_dispose last.1 last.2⟩
  · rw [Endpoint.said_performAll reached, Endpoint.flatMap_closingTexts]
  · obtain ⟨sound, fits⟩ := (Endpoint.reached_of_mem_steps reached member).inOrder
    exact ⟨fun handle held => fits.openedFor sound held, Endpoint.target_perform sound fits step.move⟩

def movedPort : List (Endpoint.Move .listener) :=
  [.change (⟨"", 4001⟩ : HostPort), .establish, .change (⟨"", 4002⟩ : HostPort), .disconnect]

/-- It says twice that it lets go, both times of the second port. -/
theorem closing_lines_name_present_target_moved :
    (((Endpoint.ofTarget (Transport.unset .listener)).performAll movedPort).result
        (World.ofRoutes .loopback)).2.closings .listener =
      ["Closed listener on port 4002", "Closed listener on port 4002"] := by
  have reached : (Endpoint.ofTarget (Transport.unset .listener)).Reached (World.ofRoutes .loopback) :=
    .new (.ofRoutes .loopback)
  have lines := (closing_lines_name_present_target reached movedPort).1
  rw [lines]
  decide +kernel

/-- So it is not true that every line names what was open. -/
theorem closing_lines_may_name_another_target :
    ¬ ∀ {transport : Transport} {endpoint : Endpoint transport} {world : World}, endpoint.Reached world →
      ∀ moves : List (Endpoint.Move transport),
        ((endpoint.performAll moves).result world).2.closings transport = world.closings transport ++
          ((Endpoint.steps moves endpoint world).filter Endpoint.Step.letsGo).map
            (fun step => transport.closingText step.before.target) := by
  intro truthful
  have claimed := truthful (.new (.ofRoutes .loopback)) movedPort
  have said : (((Endpoint.ofTarget (Transport.unset .listener)).performAll movedPort).result
      (World.ofRoutes .loopback)).2.closings .listener =
        ["Closed listener on port 4002", "Closed listener on port 4002"] := by decide +kernel
  rw [said] at claimed
  revert claimed
  decide +kernel

end InstrumentLink
