import InstrumentLink.Proofs.Endpoint.Swap

/-!
A listening socket that has broken looks as if it were up, and only an attempt to bring its endpoint up asks it for the
error. `establish_attempt` says what such an attempt comes to, whatever the endpoint holds.
-/

namespace InstrumentLink

namespace Network

def fault? (network : Network) (id : SocketId) : Option IoError := (network.idle? id).bind Idle.error

variable {network : Network} {id : SocketId}

theorem state_of_idle? {idle : Idle} (found : network.idle? id = some idle) :
    (network.socket? id).map Socket.state = some (.idle idle) := by
  obtain ⟨⟨owner, state⟩, there, shown⟩ := Option.bind_eq_some_iff.mp found
  cases state <;> cases shown
  rw [there]
  rfl

theorem takeError_idle {idle : Idle} (found : network.idle? id = some idle) :
    network.takeError id = (idle.error, network.modify id (Socket.mapIdle fun idle => { idle with error := none })) := by
  rw [takeError, state_of_idle? found]

/-- Asked for an error that is not there, a socket that was made to listen stays as it is. -/
theorem takeError_unbroken {address : SocketAddress} (own : network.own? id = some (.listening address))
    (quiet : network.fault? id = none) : network.takeError id = (none, network) := by
  rcases own?_listening own with ⟨listening, there, _⟩ | ⟨error, shares, there⟩
  · rw [takeError, there]
    rfl
  · have found : network.idle? id = some ⟨some address, error, shares⟩ := by
      rw [idle?, there]
      rfl
    rw [fault?, found] at quiet
    obtain rfl : error = none := quiet
    rw [takeError_idle found, modify, Registry.modify_same]
    intro socket shown
    obtain rfl := Option.some.inj (there.symm.trans shown)
    rfl

end Network

theorem World.Kept.takeError {world : World} (sound : world.Sound) {id : SocketId} {error : IoError}
    (broken : world.network.fault? id = some error) :
    world.Kept { world with network := (world.network.takeError id).2 } := by
  obtain ⟨idle, found, _⟩ := Option.bind_eq_some_iff.mp broken
  rw [Network.takeError_idle found]
  exact .withNetwork sound (sound.network.mapIdle id _) (Network.own?_mapIdle (by intro _; rfl) world.network id) rfl

def Transport.fault? : (transport : Transport) → transport.Handle → World → Option IoError
  | .listener, held, world => world.network.fault? (Listener.socket held)
  | .client, _, _ => none
  | .udp, _, _ => none
  | .serial, _, _ => none

namespace Endpoint

variable {transport : Transport}

def fault? (endpoint : Endpoint transport) (world : World) : Option IoError :=
  endpoint.handle.bind fun handle => transport.fault? handle world

def faultLine (endpoint : Endpoint transport) (error : IoError) : LogEntry :=
  ⟨.warn, .transport .listener, endpoint.describe ++ ": listener error: " ++ error.message⟩

def afterFault (endpoint : Endpoint transport) (socket : SocketId) (error : IoError) (world : World) : World :=
  ({ world with network := (world.network.takeError socket).2 } : World).tell [endpoint.faultLine error]

variable {endpoint : Endpoint transport} {world : World}

theorem listener_of_fault? {error : IoError} (broken : endpoint.fault? world = some error) :
    ∃ handle, endpoint.handle = some handle ∧ transport = .listener := by
  obtain ⟨handle, held, shown⟩ := Option.bind_eq_some_iff.mp broken
  cases transport with
  | listener => exact ⟨handle, held, rfl⟩
  | client | udp | serial => cases shown

theorem Fits.listens {endpoint : Endpoint .listener} (fits : endpoint.Fits world) (sound : world.Sound)
    {held : Listener} (holds : endpoint.handle = some held) :
    ∃ address, world.network.own? held.socket = some (.listening address) := by
  obtain ⟨request, asked, own⟩ := fits.own? sound holds
  obtain ⟨address, _, rfl⟩ := map_eq_ok asked
  exact ⟨address, own⟩

theorem Fits.peer_apart {target : HostPort} {listener : Listener} (fits : (ofListener target listener).Fits world)
    {peer : SocketId} (had : listener.peer = some peer) : peer ≠ listener.socket := by
  have once := fits.once
  rw [assets_ofListener, had] at once
  simpa using once

theorem dropFaulty_unbroken (sound : world.Sound) (fits : endpoint.Fits world)
    (unbroken : endpoint.fault? world = none) :
    endpoint.dropFaulty.result world = (endpoint, world) := by
  cases transport with
  | client | udp | serial => rfl
  | listener =>
    obtain ⟨target, _ | held⟩ := endpoint
    · rfl
    · obtain ⟨address, own⟩ := fits.listens sound rfl
      have asked := Network.takeError_unbroken own unbroken
      simp only [dropFaulty, Act.result_bind, Act.result_takeError, asked, Act.result_pure]

theorem fault?_listener {endpoint : Endpoint .listener} {held : Listener} (holds : endpoint.handle = some held) :
    endpoint.fault? world = world.network.fault? held.socket := by
  rw [fault?, holds]
  rfl

theorem dropFaulty_broken {endpoint : Endpoint .listener} {held : Listener} (holds : endpoint.handle = some held)
    {error : IoError} (broken : endpoint.fault? world = some error) :
    endpoint.dropFaulty.result world = (endpoint.released,
      endpoint.afterRelease (endpoint.afterFault held.socket error world)) := by
  rw [fault?_listener holds] at broken
  obtain ⟨idle, found, told⟩ := Option.bind_eq_some_iff.mp broken
  have asked : (world.network.takeError held.socket).1 = some error := by rw [Network.takeError_idle found, ← told]
  obtain ⟨target, _⟩ := endpoint
  cases holds
  unfold afterFault
  simp only [dropFaulty, Act.result_bind, Act.result_takeError]
  generalize world.network.takeError held.socket = outcome at asked
  obtain ⟨_, looked⟩ := outcome
  cases asked
  simp only [Transport.say, Act.result_bind, Act.result_say, disconnect_result]
  rfl

inductive Attempt (endpoint : Endpoint transport) (world : World) :
    (Endpoint transport × Except Failure Unit) × World → Prop
  /-- It is up, or on its way. -/
  | settled (unbroken : endpoint.fault? world = none) (held : endpoint.handle.isSome = true) :
    Attempt endpoint world ((endpoint, .ok ()), world)
  /-- It lacks a field, and is not touched. -/
  | lacking (unset : endpoint.isConfigured = false) :
    Attempt endpoint world ((endpoint, .error (.notConfigured endpoint.describe)), world)
  /-- What it holds is of no use and goes before something new is asked for; a word on what was wrong comes first. -/
  | renewed (set : endpoint.isConfigured = true) {looked : World} {told : List LogEntry} (kept : world.Kept looked)
      (log : looked.log = world.log ++ told)
      (about : ∀ entry ∈ told, ∃ what, entry.text = endpoint.describe ++ what) :
    Attempt endpoint world (endpoint.reopen.result looked)

theorem establish_broken {endpoint : Endpoint .listener} {held : Listener} (holds : endpoint.handle = some held)
    (set : endpoint.isConfigured = true) {error : IoError} (broken : endpoint.fault? world = some error) :
    endpoint.establish.result world = endpoint.reopen.result (endpoint.afterFault held.socket error world) := by
  have empty : endpoint.released.handle = none := rfl
  have again := establish_of_handle_eq_none empty set
    (endpoint.afterRelease (endpoint.afterFault held.socket error world))
  rw [reopen_result, ← again, establish, establish, Act.result_bind, Act.result_bind, dropFaulty_broken holds broken]
  rfl

theorem establish_attempt (sound : world.Sound) (fits : endpoint.Fits world) :
    Attempt endpoint world (endpoint.establish.result world) := by
  cases set : endpoint.isConfigured with
  | false =>
    obtain ⟨target, handle⟩ := endpoint
    cases fits.handle_eq_none set
    have untouched : (⟨target, none⟩ : Endpoint transport).dropFaulty.result world = (⟨target, none⟩, world) := by
      cases transport <;> rfl
    have result : (⟨target, none⟩ : Endpoint transport).establish.result world =
        ((⟨target, none⟩, .error (.notConfigured (describe ⟨target, none⟩))), world) := by
      rw [establish, Act.result_bind, untouched]
      simp [isConnected, isUnderWay, set]
    rw [result]
    exact .lacking set
  | true =>
    cases broken : endpoint.fault? world with
    | some error =>
      obtain ⟨held, holds, rfl⟩ := listener_of_fault? broken
      have kept := World.Kept.takeError sound ((fault?_listener holds).symm.trans broken)
      rw [establish_broken holds set broken]
      refine .renewed set (kept.trans (.tell kept.sound _)) rfl fun entry member => ?_
      rw [List.mem_singleton.mp member]
      exact ⟨_, String.append_assoc⟩
    | none =>
      cases up : endpoint.live world with
      | true =>
        have result : endpoint.establish.result world = ((endpoint, .ok ()), world) := by
          rw [establish, Act.result_bind, dropFaulty_unbroken sound fits broken, Act.result_bind,
            isConnected_result sound.network, up]
          rfl
        rw [result]
        exact .settled broken (hasHandle_of_live up)
      | false =>
        rcases establish_result sound fits set up with ⟨connecting, result⟩ | ⟨_, told, about, result⟩
        · rw [result]
          exact .settled broken (client_of_underWay connecting).2
        · rw [result]
          exact .renewed set (.tell sound told) rfl fun entry member => (about entry member).2

theorem Handover.after_kept {before after : Endpoint transport} {middle later : World} (kept : world.Kept middle)
    (handover : Handover before after middle later) : Handover before after world later := by
  obtain ⟨deeds, exchange, journal⟩ := handover.exchange
  refine ⟨⟨deeds, ?_, by rw [journal, kept.journal]⟩, handover.sound, handover.routes.trans kept.routes⟩
  cases exchange with
  | keep same => exact .keep same
  | release down => exact .release down
  | replace request made asked configured held new =>
    exact .replace request made (kept.routes ▸ asked) configured held fun id got =>
      (new id got).imp_right fun absent => kept.ledger (transport.asset id) ▸ absent

theorem Fits.of_kept {later : World} (fits : endpoint.Fits world) (kept : world.Kept later) : endpoint.Fits later :=
  fits.of_same kept.routes fun asset _ => kept.ledger asset

theorem establish_handover (sound : world.Sound) (fits : endpoint.Fits world) :
    Handover endpoint (endpoint.establish.result world).1.1 world (endpoint.establish.result world).2 := by
  have attempt := establish_attempt sound fits
  generalize endpoint.establish.result world = outcome at attempt ⊢
  cases attempt with
  | settled unbroken held => exact .refl sound endpoint
  | lacking unset => exact .refl sound endpoint
  | renewed set kept log about => exact (reopen_handover kept.sound (fits.of_kept kept) set).after_kept kept

end Endpoint
end InstrumentLink
