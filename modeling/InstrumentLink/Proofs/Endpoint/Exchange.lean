import InstrumentLink.Proofs.Endpoint.Liveness

/-!
How an endpoint passes from what it held to what it holds. Whatever is done to it, it keeps what it has, or lets all of
it go, or lets all of it go and then asks for one new thing, for the address that it has by then: an `Exchange`.
-/

namespace InstrumentLink
namespace Endpoint

variable {transport : Transport}

/-- How an endpoint changes what it holds, with all that is noted on the way. -/
inductive Exchange (world : World) (before after : Endpoint transport) : List Deed → Prop
  | keep (same : after = before) : Exchange world before after []
  | release (down : after.handle = none) : Exchange world before after before.closings
  | replace (request : Request) (made : Option Nat)
      (asked : transport.request? world.network.routes.names after.target = .ok request)
      (configured : after.isConfigured = true)
      (held : after.handle = made.map transport.fresh)
      (new : ∀ id, made = some id →
        transport.asset id ∈ before.assets ∨ world.ledger (transport.asset id) = none) :
      Exchange world before after (before.closings ++ [request.deed made])

theorem Exchange.first {world : World} {before after : Endpoint transport} (down : before.handle = none)
    (request : Request) (made : Option Nat)
    (asked : transport.request? world.network.routes.names after.target = .ok request)
    (configured : after.isConfigured = true) (held : after.handle = made.map transport.fresh)
    (new : ∀ id, made = some id → world.ledger (transport.asset id) = none) :
    Exchange world before after [request.deed made] := by
  have exchange : Exchange world before after (before.closings ++ [request.deed made]) :=
    .replace request made asked configured held fun id got => .inr (new id got)
  rwa [closings_eq_nil down] at exchange

theorem Exchange.after_release {world closed : World} {before middle after : Endpoint transport} {deeds : List Deed}
    (exchange : Exchange closed middle after deeds) (down : middle.handle = none)
    (routes : closed.network.routes = world.network.routes)
    (journal : closed.journal = world.journal ++ before.closings) :
    Exchange world before after (before.closings ++ deeds) := by
  cases exchange with
  | keep same =>
    rw [List.append_nil, same]
    exact .release down
  | release afterDown =>
    rw [closings_eq_nil down, List.append_nil]
    exact .release afterDown
  | replace request made asked configured held new =>
    rw [closings_eq_nil down, List.nil_append]
    refine .replace request made (routes ▸ asked) configured held fun id got => ?_
    have absent : closed.ledger (transport.asset id) = none := by
      rcases new id got with member | absent
      · rw [assets_eq_nil down] at member
        cases member
      · exact absent
    rw [World.ledger, journal, ledger_closings] at absent
    split at absent
    next member => exact .inl member
    next => exact .inr absent

theorem Exchange.tidy {world : World} {before after : Endpoint transport} {deeds : List Deed}
    (exchange : Exchange world before after deeds) (fits : before.Fits world) (tidy : Tidy world.journal) :
    Tidy (world.journal ++ deeds) := by
  cases exchange with
  | keep same => rwa [List.append_nil]
  | release down => exact fits.tidy tidy
  | replace request made asked configured held new =>
    rw [← List.append_assoc]
    refine (fits.tidy tidy).get (request.ended?_deed made) fun asset got => ?_
    rw [request.made?_deed] at got
    obtain ⟨id, isMade, rfl⟩ := Option.map_eq_some_iff.mp got
    rw [Transport.asset_of_request? asked, ledger_closings]
    rcases new id isMade with here | absent
    · exact if_pos here
    · rw [← World.ledger, absent, ite_self]

structure Handover (before after : Endpoint transport) (world later : World) : Prop where
  exchange : ∃ deeds, Exchange world before after deeds ∧ later.journal = world.journal ++ deeds
  sound : later.Sound
  routes : later.network.routes = world.network.routes

theorem Handover.refl {world : World} (sound : world.Sound) (endpoint : Endpoint transport) :
    Handover endpoint endpoint world world :=
  ⟨⟨[], .keep rfl, (List.append_nil _).symm⟩, sound, rfl⟩

theorem Handover.tell {before after : Endpoint transport} {world later : World}
    (handover : Handover before after world later) (entries : List LogEntry) :
    Handover before after world (later.tell entries) :=
  ⟨handover.exchange, handover.sound.tell entries, handover.routes⟩

theorem Handover.of_tell {before after : Endpoint transport} {world later : World} {entries : List LogEntry}
    (handover : Handover before after (world.tell entries) later) : Handover before after world later := by
  obtain ⟨deeds, exchange, journal⟩ := handover.exchange
  refine ⟨⟨deeds, ?_, journal⟩, handover.sound, handover.routes⟩
  cases exchange with
  | keep same => exact .keep same
  | release down => exact .release down
  | replace request made asked configured held new => exact .replace request made asked configured held new

def released (endpoint : Endpoint transport) : Endpoint transport := { endpoint with handle := none }

def closingLines (endpoint : Endpoint transport) : List LogEntry :=
  if endpoint.hasHandle then [⟨.debug, .transport transport, transport.closingText endpoint.target⟩] else []

theorem disconnect_result (endpoint : Endpoint transport) (world : World) :
    endpoint.disconnect.result world =
      (endpoint.released, ((Act.shutAll endpoint.partings).result (world.tell endpoint.closingLines)).2) := by
  obtain ⟨target, handle⟩ := endpoint
  cases handle with
  | none =>
    simp [disconnect, released, closingLines, hasHandle, partings, Act.shutAll]
  | some handle =>
    simp [disconnect, released, closingLines, hasHandle, partings, Transport.discard_result, Transport.say]

def afterRelease (endpoint : Endpoint transport) (world : World) : World :=
  ((Act.shutAll endpoint.partings).result (world.tell endpoint.closingLines)).2

section Release

variable {endpoint : Endpoint transport} {world : World}

theorem journal_afterRelease (endpoint : Endpoint transport) (world : World) :
    (endpoint.afterRelease world).journal = world.journal ++ endpoint.closings := by
  rw [afterRelease, World.journal_shutAll, World.tell_journal, closings]

theorem log_afterRelease (endpoint : Endpoint transport) (world : World) :
    (endpoint.afterRelease world).log = world.log ++ endpoint.closingLines := by
  rw [afterRelease, World.log_shutAll, World.tell_log]

theorem routes_afterRelease (endpoint : Endpoint transport) (world : World) :
    (endpoint.afterRelease world).network.routes = world.network.routes := by
  rw [afterRelease, World.routes_shutAll, World.tell_network]

theorem sound_shutAll (sound : world.Sound) (fits : endpoint.Fits world) :
    ((Act.shutAll endpoint.partings).result world).2.Sound := by
  refine sound.shutAll (fun asset member => fits.isOpen ?_) ?_
  · rwa [map_asset_partings] at member
  · rw [map_asset_partings]
    exact fits.once

theorem sound_afterRelease (sound : world.Sound) (fits : endpoint.Fits world) : (endpoint.afterRelease world).Sound :=
  sound_shutAll (sound.tell endpoint.closingLines) fits

theorem afterRelease_of_handle_eq_none (down : endpoint.handle = none) (world : World) :
    endpoint.afterRelease world = world := by
  simp [afterRelease, closingLines, hasHandle, partings, down, Act.shutAll]

end Release

def raise (endpoint : Endpoint transport) : Act (Endpoint transport × Except Failure Unit) := do
  match ← transport.openHandle endpoint.target with
  | .error failure => return (endpoint, .error failure)
  | .ok handle => return ({ endpoint with handle := some handle }, .ok ())

theorem raise_result (endpoint : Endpoint transport) (world : World) :
    endpoint.raise.result world =
      match transport.request? world.network.routes.names endpoint.target with
      | .error failure => ((endpoint, .error failure), world)
      | .ok request =>
        match (request.act.result world).1 with
        | .error error => ((endpoint, .error (transport.refusal endpoint.target error)), (request.act.result world).2)
        | .ok id =>
          (({ endpoint with handle := some (transport.fresh id) }, .ok ()),
            (request.act.result world).2.tell [⟨.debug, .transport transport, request.text⟩]) := by
  rw [raise, Act.result_bind, transport.openHandle_result]
  cases transport.request? world.network.routes.names endpoint.target with
  | error failure => rfl
  | ok request =>
    dsimp only
    cases (request.act.result world).1 <;> rfl

theorem raise_handover {endpoint : Endpoint transport} {world : World} (sound : world.Sound)
    (configured : endpoint.isConfigured = true) (down : endpoint.handle = none) :
    Handover endpoint (endpoint.raise.result world).1.1 world (endpoint.raise.result world).2 := by
  rw [endpoint.raise_result]
  cases asked : transport.request? world.network.routes.names endpoint.target with
  | error failure => exact .refl sound endpoint
  | ok request =>
    have kept := sound.request request
    have journal := World.journal_request request world
    have routes := World.routes_request request world
    dsimp only
    cases made : (request.act.result world).1 with
    | error error =>
      refine ⟨⟨[request.deed none], ?_, by rw [journal, made]; rfl⟩, kept, routes⟩
      exact .first down request none asked configured (by simp [down]) (by simp)
    | ok id =>
      refine Handover.tell ⟨⟨[request.deed (some id)], ?_, by rw [journal, made]; rfl⟩, kept, routes⟩ _
      refine .first down request (some id) asked configured rfl fun other same => ?_
      cases same
      rw [← Transport.asset_of_request? asked]
      exact sound.ledger_of_own? (World.own?_request_made made)

def reopen (endpoint : Endpoint transport) : Act (Endpoint transport × Except Failure Unit) := do
  let endpoint ← endpoint.disconnect
  endpoint.raise

theorem reopen_result (endpoint : Endpoint transport) (world : World) :
    endpoint.reopen.result world = endpoint.released.raise.result (endpoint.afterRelease world) := by
  rw [reopen, Act.result_bind, disconnect_result]
  rfl

theorem disconnect_handover {endpoint : Endpoint transport} {world : World} (sound : world.Sound)
    (fits : endpoint.Fits world) :
    Handover endpoint (endpoint.disconnect.result world).1 world (endpoint.disconnect.result world).2 := by
  rw [disconnect_result]
  exact ⟨⟨_, .release rfl, journal_afterRelease endpoint world⟩, sound_afterRelease sound fits,
    routes_afterRelease endpoint world⟩

theorem raise_after_release {before middle : Endpoint transport} {world closed : World} (sound : closed.Sound)
    (configured : middle.isConfigured = true) (down : middle.handle = none)
    (routes : closed.network.routes = world.network.routes)
    (journal : closed.journal = world.journal ++ before.closings) :
    Handover before (middle.raise.result closed).1.1 world (middle.raise.result closed).2 := by
  have raised := raise_handover sound configured down
  obtain ⟨deeds, exchange, noted⟩ := raised.exchange
  refine ⟨⟨_, exchange.after_release down routes journal, ?_⟩, raised.sound, raised.routes.trans routes⟩
  rw [noted, journal, List.append_assoc]

theorem reopen_handover {endpoint : Endpoint transport} {world : World} (sound : world.Sound)
    (fits : endpoint.Fits world) (configured : endpoint.isConfigured = true) :
    Handover endpoint (endpoint.reopen.result world).1.1 world (endpoint.reopen.result world).2 := by
  rw [reopen_result]
  exact raise_after_release (sound_afterRelease sound fits) configured rfl (routes_afterRelease endpoint world)
    (journal_afterRelease endpoint world)

/-- Only a listening socket is asked for an error before it is seen to be down, and a listener that has one is up. -/
theorem dropFaulty_result {endpoint : Endpoint transport} {world : World} (sound : world.Sound)
    (fits : endpoint.Fits world) (down : endpoint.live world = false) :
    endpoint.dropFaulty.result world = (endpoint, world) := by
  cases transport with
  | client => rfl
  | udp => rfl
  | serial => rfl
  | listener =>
    obtain ⟨target, _ | held⟩ := endpoint
    · rfl
    · rw [fits.live_listener sound rfl] at down
      cases down

theorem establish_looked {endpoint : Endpoint transport} {world : World} (sound : world.Sound)
    (fits : endpoint.Fits world) (configured : endpoint.isConfigured = true) (down : endpoint.live world = false) :
    endpoint.establish.result world =
      if (endpoint.isUnderWay.result world).1 then ((endpoint, .ok ()), (endpoint.isUnderWay.result world).2)
      else endpoint.reopen.result (endpoint.isUnderWay.result world).2 := by
  rw [establish, Act.result_bind, dropFaulty_result sound fits down, Act.result_bind,
    isConnected_result sound.network, down]
  simp only [Bool.false_eq_true, if_false, Act.result_bind]
  cases (endpoint.isUnderWay.result world).1 with
  | true => rfl
  | false =>
    simp only [Bool.false_eq_true, if_false, configured, Bool.not_true]
    rfl

theorem reopen_looked (endpoint : Endpoint .client) {id : SocketId} (held : endpoint.handle = some id)
    {world : World} {looked : Network} (same : ∀ ways, looked.part ways id = world.network.part ways id)
    (told : List LogEntry) :
    endpoint.reopen.result (({ world with network := looked } : World).tell told) =
      endpoint.reopen.result (world.tell told) := by
  have partings : endpoint.partings = [⟨.socket id, some .sending⟩] := partings_of_handle held
  have closed : endpoint.afterRelease (({ world with network := looked } : World).tell told) =
      endpoint.afterRelease (world.tell told) := by
    unfold afterRelease
    rw [partings]
    change (({ network := looked.part (some .sending) id, devices := _, log := _, journal := _ } : World)) =
      { network := world.network.part (some .sending) id, devices := _, log := _, journal := _ }
    rw [same]
    rfl
  rw [reopen_result, reopen_result, closed]

/-- Bringing up an endpoint that is set and not up: nothing while its handshake is under way, else letting go and
opening again, with some talk before. -/
theorem establish_result {endpoint : Endpoint transport} {world : World} (sound : world.Sound)
    (fits : endpoint.Fits world) (configured : endpoint.isConfigured = true) (down : endpoint.live world = false) :
    endpoint.underWay world = true ∧ endpoint.establish.result world = ((endpoint, .ok ()), world) ∨
      endpoint.underWay world = false ∧ ∃ told,
        (∀ entry ∈ told, entry.level = .debug ∧ ∃ what, entry.text = endpoint.describe ++ what) ∧
        endpoint.establish.result world = endpoint.reopen.result (world.tell told) := by
  rw [establish_looked sound fits configured down]
  cases held : endpoint.handle with
  | none =>
    refine .inr ⟨by simp [underWay, held], [], by simp, ?_⟩
    simp [isUnderWay, held]
  | some handle =>
    cases transport with
    | client =>
      obtain ⟨stream, found⟩ := fits.stream sound held
      have looks : endpoint.isUnderWay.result world =
          (Transport.isUnderWay .client endpoint.target handle).result world := by
        simp [isUnderWay, held]
      have shown : endpoint.underWay world = world.network.isConnecting handle := by simp [underWay, held]; rfl
      rw [looks, shown]
      rcases Transport.isUnderWay_client sound.network found endpoint.target with
        ⟨result, connecting⟩ | ⟨settled, told, looked, result, quiet, same⟩
      · exact .inl ⟨connecting, by rw [result]; rfl⟩
      · refine .inr ⟨settled, told, quiet, ?_⟩
        rw [result]
        exact endpoint.reopen_looked held same told
    | listener =>
      rw [fits.live_listener sound held] at down
      cases down
    | udp =>
      refine .inr ⟨by simp [underWay, held, Transport.underWay], [], by simp, ?_⟩
      simp [isUnderWay, held, Transport.isUnderWay]
    | serial =>
      refine .inr ⟨by simp [underWay, held, Transport.underWay], [], by simp, ?_⟩
      simp [isUnderWay, held, Transport.isUnderWay]

theorem Fits.tell {endpoint : Endpoint transport} {world : World} (fits : endpoint.Fits world)
    (entries : List LogEntry) : endpoint.Fits (world.tell entries) := fits

theorem raise_handle {endpoint : Endpoint transport} {world : World} (down : endpoint.handle = none) :
    (endpoint.raise.result world).1.1.handle.isSome = (endpoint.raise.result world).1.2.isOk := by
  rw [raise_result]
  cases transport.request? world.network.routes.names endpoint.target with
  | error failure => simp [down]; rfl
  | ok request =>
    dsimp only
    cases (request.act.result world).1 with
    | error error => simp [down]; rfl
    | ok id => rfl

theorem reopen_handle (endpoint : Endpoint transport) (world : World) :
    (endpoint.reopen.result world).1.1.handle.isSome = (endpoint.reopen.result world).1.2.isOk := by
  rw [reopen_result]
  exact raise_handle rfl

theorem establish_of_handle_eq_none {endpoint : Endpoint transport} (down : endpoint.handle = none)
    (configured : endpoint.isConfigured = true) (world : World) :
    endpoint.establish.result world = endpoint.raise.result world := by
  obtain ⟨target, handle⟩ := endpoint
  cases down
  have unfaulty : (⟨target, none⟩ : Endpoint transport).dropFaulty.result world = (⟨target, none⟩, world) := by
    cases transport <;> rfl
  rw [establish, Act.result_bind, unfaulty]
  simp [isConnected, isUnderWay, configured, disconnect]
  rfl

def moved (target : transport.Target) (endpoint : Endpoint transport) : Endpoint transport := { endpoint with target }

def changedLines (endpoint : Endpoint transport) : List LogEntry :=
  if endpoint.hasHandle then
    [⟨.debug, .endpoint, endpoint.describe ++ ": configuration changed, releasing handle"⟩]
  else []

def afterMove (target : transport.Target) (endpoint : Endpoint transport) (world : World) : World :=
  (endpoint.moved target).afterRelease (world.tell (endpoint.moved target).changedLines)

def raiseMoved (endpoint : Endpoint transport) : Act (Endpoint transport) :=
  if !endpoint.isConfigured then do
    say .debug (endpoint.describe ++ ": not configured after change, left down")
    return endpoint
  else do
    let (endpoint, result) ← endpoint.raise
    match result with
    | .ok _ => return endpoint
    | .error failure =>
      say .warn (endpoint.describe ++ ": re-initialization failed: " ++ failure.message)
      return endpoint

def settle (connected : Bool) (endpoint : Endpoint transport) : Act (Endpoint transport) :=
  if !connected then return endpoint
  else if !endpoint.isConfigured then do
    say .debug (endpoint.describe ++ ": not configured after change, left down")
    return endpoint
  else do
    let (endpoint, result) ← endpoint.establish
    match result with
    | .ok _ => return endpoint
    | .error failure =>
      say .warn (endpoint.describe ++ ": re-initialization failed: " ++ failure.message)
      return endpoint

theorem change_eq (endpoint : Endpoint transport) (target : transport.Target) :
    endpoint.change target = (do
      let connected ← endpoint.isConnected
      if target = endpoint.target then return endpoint
      else if (endpoint.moved target).hasHandle then do
        say .debug ((endpoint.moved target).describe ++ ": configuration changed, releasing handle")
        let endpoint ← (endpoint.moved target).disconnect
        endpoint.settle connected
      else (endpoint.moved target).settle connected) := rfl

theorem settle_result {endpoint : Endpoint transport} (down : endpoint.handle = none) (connected : Bool)
    (world : World) :
    (endpoint.settle connected).result world =
      if connected then endpoint.raiseMoved.result world else (endpoint, world) := by
  unfold settle raiseMoved
  cases connected with
  | false => rfl
  | true =>
    cases configured : endpoint.isConfigured with
    | false => rfl
    | true =>
      simp only [Bool.not_true, Bool.false_eq_true, if_false, if_true, Act.result_bind]
      rw [establish_of_handle_eq_none down configured]

theorem change_result {endpoint : Endpoint transport} {world : World} (sound : world.network.Sound)
    (target : transport.Target) :
    (endpoint.change target).result world =
      if target = endpoint.target then (endpoint, world)
      else if endpoint.live world then
        (endpoint.moved target).released.raiseMoved.result (endpoint.afterMove target world)
      else ((endpoint.moved target).released, endpoint.afterMove target world) := by
  rw [change_eq, Act.result_bind, isConnected_result sound]
  by_cases same : target = endpoint.target
  · simp [same]
  · have gone : (endpoint.moved target).released.handle = none := rfl
    rw [if_neg same, if_neg same]
    cases held : (endpoint.moved target).hasHandle with
    | true =>
      rw [if_pos rfl, Act.result_bind, Act.result_bind, disconnect_result, settle_result gone]
      simp [say, afterMove, afterRelease, changedLines, held]
    | false =>
      have down : (endpoint.moved target).handle = none := by simpa [hasHandle] using held
      have empty : (endpoint.moved target).released = endpoint.moved target := by rw [released, ← down]
      rw [if_neg (by simp), settle_result down, empty]
      simp [afterMove, changedLines, held, afterRelease_of_handle_eq_none down]

theorem change_of_handle_eq_none {endpoint : Endpoint transport} (down : endpoint.handle = none)
    (target : transport.Target) (world : World) :
    (endpoint.change target).result world = (⟨target, none⟩, world) := by
  obtain ⟨own, _⟩ := endpoint
  cases down
  rw [change_eq]
  by_cases same : target = own
  · simp [isConnected, same]
  · simp [isConnected, same, moved, hasHandle, settle]

theorem raiseMoved_handover {before endpoint : Endpoint transport} {world closed : World} (sound : closed.Sound)
    (down : endpoint.handle = none) (routes : closed.network.routes = world.network.routes)
    (journal : closed.journal = world.journal ++ before.closings) :
    Handover before (endpoint.raiseMoved.result closed).1 world (endpoint.raiseMoved.result closed).2 := by
  unfold raiseMoved
  cases configured : endpoint.isConfigured with
  | false => exact ⟨⟨_, .release down, journal⟩, sound.tell _, routes⟩
  | true =>
    have raised := raise_after_release sound configured down routes journal
    simp only [Bool.not_true, Bool.false_eq_true, if_false, Act.result_bind]
    cases (endpoint.raise.result closed).1.2 with
    | ok _ => exact raised
    | error failure => exact raised.tell _

theorem change_handover {endpoint : Endpoint transport} {world : World} (sound : world.Sound)
    (fits : endpoint.Fits world) (target : transport.Target) :
    Handover endpoint ((endpoint.change target).result world).1 world ((endpoint.change target).result world).2 := by
  rw [change_result sound.network]
  have closedSound : (endpoint.afterMove target world).Sound := by
    have shut := sound_shutAll ((sound.tell (endpoint.moved target).changedLines).tell (endpoint.moved target).closingLines)
      (fits : endpoint.Fits (World.tell _ (World.tell _ world)))
    exact shut
  have routes : (endpoint.afterMove target world).network.routes = world.network.routes :=
    routes_afterRelease _ _
  have journal : (endpoint.afterMove target world).journal = world.journal ++ endpoint.closings :=
    journal_afterRelease _ _
  split
  · exact .refl sound endpoint
  · split
    · exact raiseMoved_handover closedSound rfl routes journal
    · exact ⟨⟨_, .release rfl, journal⟩, closedSound, routes⟩

/-! The address of an endpoint is what it was last set to, whatever becomes of what it holds. -/

theorem target_raise (endpoint : Endpoint transport) (world : World) :
    (endpoint.raise.result world).1.1.target = endpoint.target := by
  rw [raise_result]
  split
  · rfl
  · split <;> rfl

theorem target_reopen (endpoint : Endpoint transport) (world : World) :
    (endpoint.reopen.result world).1.1.target = endpoint.target := by
  rw [reopen_result, target_raise]
  rfl

theorem target_raiseMoved (endpoint : Endpoint transport) (world : World) :
    (endpoint.raiseMoved.result world).1.target = endpoint.target := by
  unfold raiseMoved
  split
  · rfl
  · have kept := endpoint.target_raise world
    simp only [Act.result_bind]
    generalize endpoint.raise.result world = outcome at kept ⊢
    obtain ⟨⟨after, answer⟩, later⟩ := outcome
    cases answer with
    | ok _ => exact kept
    | error failure => exact kept

theorem target_change {world : World} (sound : world.network.Sound) (endpoint : Endpoint transport)
    (target : transport.Target) : ((endpoint.change target).result world).1.target = target := by
  rw [change_result sound]
  split
  next same => exact same.symm
  next =>
    split
    · rw [target_raiseMoved]
      rfl
    · rfl

end Endpoint
end InstrumentLink
