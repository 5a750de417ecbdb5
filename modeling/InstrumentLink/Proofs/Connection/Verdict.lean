import InstrumentLink.Proofs.Connection.Apart

/-!
What an attempt comes to: `bringUp_verdict` says for each outcome what it tells of the endpoint before and after,
`warnings_bringUp` what is warned of, and `establish_verdict` that this still holds when both roles have had their turn.
-/

namespace InstrumentLink

def World.warnings (world : World) : List LogEntry := world.log.filter fun entry => entry.level = .warn

theorem World.warnings_tell (entries : List LogEntry) (world : World) :
    (world.tell entries).warnings = world.warnings ++ entries.filter fun entry => entry.level = .warn :=
  List.filter_append ..

theorem World.warnings_tell_debug {entries : List LogEntry} (quiet : ∀ entry ∈ entries, entry.level = .debug)
    (world : World) : (world.tell entries).warnings = world.warnings := by
  have none : (entries.filter fun entry => entry.level = .warn) = [] := by
    refine List.filter_eq_nil_iff.mpr fun entry member => ?_
    simp [quiet entry member]
  rw [warnings_tell, none, List.append_nil]

namespace Endpoint

variable {transport : Transport} {endpoint : Endpoint transport} {world : World}

theorem closingLines_debug (endpoint : Endpoint transport) : ∀ entry ∈ endpoint.closingLines, entry.level = .debug := by
  intro entry member
  unfold closingLines at member
  split at member
  · rw [List.mem_singleton.mp member]
  · cases member

theorem warnings_afterRelease (endpoint : Endpoint transport) (world : World) :
    (endpoint.afterRelease world).warnings = world.warnings := by
  rw [World.warnings, log_afterRelease]
  exact World.warnings_tell_debug endpoint.closingLines_debug world

theorem warnings_raise (endpoint : Endpoint transport) (world : World) :
    (endpoint.raise.result world).2.warnings = world.warnings := by
  rw [raise_result]
  split
  · rfl
  · split
    · rw [World.warnings, World.log_request]
      rfl
    next request _ _ _ _ =>
      rw [World.warnings_tell_debug (by simp), World.warnings, World.log_request request]
      rfl

theorem warnings_reopen (endpoint : Endpoint transport) (world : World) {told : List LogEntry}
    (quiet : ∀ entry ∈ told, entry.level = .debug) :
    (endpoint.reopen.result (world.tell told)).2.warnings = world.warnings := by
  rw [reopen_result, warnings_raise, warnings_afterRelease, World.warnings_tell_debug quiet]

/-- A failure is about the address of the endpoint: either it stands for nothing, or the system has refused. -/
def CanFailWith (names : HostNames) (endpoint : Endpoint transport) (failure : Failure) : Prop :=
  transport.request? names endpoint.target = .error failure ∨
    ∃ error, failure = transport.refusal endpoint.target error

theorem raise_error {failure : Failure} (failed : (endpoint.raise.result world).1.2 = .error failure) :
    endpoint.CanFailWith world.network.routes.names failure := by
  rw [raise_result] at failed
  split at failed
  next other asked =>
    cases failed
    exact .inl asked
  · split at failed
    · cases failed
      exact .inr ⟨_, rfl⟩
    · cases failed

theorem reopen_error {failure : Failure} (failed : (endpoint.reopen.result world).1.2 = .error failure) :
    endpoint.CanFailWith world.network.routes.names failure := by
  rw [reopen_result] at failed
  have blamed := raise_error failed
  rw [routes_afterRelease] at blamed
  exact blamed

theorem own?_granted {request : Request} {id : Nat} (made : (request.act.result world).1 = .ok id) :
    (request.act.result world).2.own? (request.asset id) = some request.purpose := by
  rw [World.own?_request, made]
  exact if_pos rfl

theorem raise_live (sound : world.Sound) (settled : transport ≠ .client)
    (good : (endpoint.raise.result world).1.2 = .ok ()) :
    (endpoint.raise.result world).1.1.live (endpoint.raise.result world).2 = true := by
  rw [raise_result] at good ⊢
  cases asked : transport.request? world.network.routes.names endpoint.target with
  | error failure =>
    rw [asked] at good
    cases good
  | ok request =>
    rw [asked] at good
    dsimp only at good ⊢
    cases made : (request.act.result world).1 with
    | error error =>
      rw [made] at good
      cases good
    | ok id =>
      have own := own?_granted made
      obtain ⟨target, _⟩ := endpoint
      cases transport with
      | client => exact absurd rfl settled
      | listener =>
        obtain ⟨address, _, rfl⟩ := map_eq_ok asked
        exact Option.isSome_of_eq_some (Network.localAddress?_of_own? own)
      | udp =>
        obtain ⟨remote, _, rfl⟩ := map_eq_ok asked
        have there := Network.own?_datagram own
        have known : ((Request.associate remote).act.result world).2.network.peerAddress? id = some remote := by
          rw [Network.peerAddress?, there]
          rfl
        exact Option.isSome_of_eq_some known
      | serial =>
        cases asked
        exact Devices.isAlive_openLine sound.devices made

theorem reopen_live (endpoint : Endpoint transport) (sound : world.Sound) (fits : endpoint.Fits world)
    (settled : transport ≠ .client) (good : (endpoint.reopen.result world).1.2 = .ok ()) :
    (endpoint.reopen.result world).1.1.live (endpoint.reopen.result world).2 = true := by
  rw [reopen_result] at good ⊢
  exact raise_live (sound_afterRelease sound fits) settled good

end Endpoint

namespace Connection

variable {transport : Transport} {before : Endpoint transport} {world : World}

/-- What an outcome tells of an endpoint before and after the attempt. -/
inductive Verdict (before after : Endpoint transport) (world later : World) : Outcome → Prop
  | unconfigured (unset : before.isConfigured = false) (same : after = before) :
    Verdict before after world later .unconfigured
  | alreadyConnected (set : before.isConfigured = true) (wasUp : before.live world = true) (same : after = before)
      (up : after.live later = true) : Verdict before after world later .alreadyConnected
  | connected (set : before.isConfigured = true) (wasDown : before.live world = false)
      (up : after.live later = true) : Verdict before after world later .connected
  | pending (set : before.isConfigured = true) (wasDown : before.live world = false) (client : transport = .client)
      (holds : after.handle.isSome) (down : after.live later = false) : Verdict before after world later .pending
  | failed (set : before.isConfigured = true) (wasDown : before.live world = false) (empty : after.handle = none) :
    Verdict before after world later .failed

theorem Verdict.of_live {after : Endpoint transport} {later otherWorld otherLater : World} {outcome : Outcome}
    (verdict : Verdict before after world later outcome) (was : before.live otherWorld = before.live world)
    (is : after.live otherLater = after.live later) : Verdict before after otherWorld otherLater outcome := by
  cases verdict with
  | unconfigured unset same => exact .unconfigured unset same
  | alreadyConnected set wasUp same up => exact .alreadyConnected set (was.trans wasUp) same (is.trans up)
  | connected set wasDown up => exact .connected set (was.trans wasDown) (is.trans up)
  | pending set wasDown client holds down => exact .pending set (was.trans wasDown) client holds (is.trans down)
  | failed set wasDown empty => exact .failed set (was.trans wasDown) empty

theorem bringUp_verdict (sound : world.Sound) (fits : before.Fits world) (role : Role) :
    Verdict before ((bringUp role before).result world).1.1 world ((bringUp role before).result world).2
      ((bringUp role before).result world).1.2 := by
  have brought := bringUp_spec sound fits role
  generalize (bringUp role before).result world = outcome at brought ⊢
  cases brought with
  | unconfigured unset => exact .unconfigured unset rfl
  | alreadyConnected set up => exact .alreadyConnected set up rfl up
  | underWay set down connecting =>
    obtain ⟨client, holds⟩ := Endpoint.client_of_underWay connecting
    exact .pending set down client holds (by rw [Endpoint.live_tell, down])
  | @attempted set down settled told quiet after answer later reopened =>
    have handle := before.reopen_handle (world.tell told)
    have live := before.reopen_live (sound.tell told) (fits.tell told)
    rw [reopened] at handle live
    cases answer with
    | error failure =>
      exact .failed set down (Option.not_isSome_iff_eq_none.mp (by rw [handle]; exact Bool.false_ne_true))
    | ok _ =>
      dsimp only [failureLines]
      rw [World.tell_nil]
      cases up : after.live later with
      | true => exact .connected set down up
      | false =>
        refine .pending set down ?_ handle up
        by_contra other
        rw [live other rfl] at up
        cases up

theorem warnings_bringUp (sound : world.Sound) (fits : before.Fits world) (role : Role) :
    (((bringUp role before).result world).1.2 ≠ .failed →
      ((bringUp role before).result world).2.warnings = world.warnings) ∧
    (((bringUp role before).result world).1.2 = .failed →
      ∃ failure, before.CanFailWith world.network.routes.names failure ∧
        ((bringUp role before).result world).2.warnings = world.warnings ++ [failureLine role failure]) := by
  have brought := bringUp_spec sound fits role
  generalize (bringUp role before).result world = outcome at brought ⊢
  cases brought with
  | unconfigured unset =>
    refine ⟨fun _ => World.warnings_tell_debug ?_ world, fun failed => by cases failed⟩
    simp [unconfiguredLine]
  | alreadyConnected set up => exact ⟨fun _ => rfl, fun failed => by cases failed⟩
  | underWay set down connecting =>
    refine ⟨fun _ => World.warnings_tell_debug ?_ world, fun failed => by cases failed⟩
    simp [attemptLine]
  | @attempted set down settled told quiet after answer later reopened =>
    have silent := before.warnings_reopen world quiet
    cases answer with
    | error failure =>
      have blamed := @Endpoint.reopen_error _ before (world.tell told) failure
      rw [reopened] at silent blamed
      refine ⟨fun other => absurd rfl other, fun _ => ⟨failure, blamed rfl, ?_⟩⟩
      rw [World.warnings_tell, silent]
      rfl
    | ok _ =>
      rw [reopened] at silent
      dsimp only [failureLines]
      rw [World.tell_nil]
      refine ⟨fun _ => silent, fun failed => ?_⟩
      cases up : after.live later <;> rw [up] at failed <;> cases failed

section Whole

variable {connection : Connection}

theorem establishRole_verdict (order : connection.InOrder world) (role : Role) :
    (connection.endpoint? role = none ∧ ((connection.establishRole role).result world).1.2 = .unsupported) ∨
    ∃ (transport : Transport) (before after : Endpoint transport),
      connection.endpoint? role = some ⟨transport, before⟩ ∧
      ((connection.establishRole role).result world).1.1.endpoint? role = some ⟨transport, after⟩ ∧
      Verdict before after world ((connection.establishRole role).result world).2
        ((connection.establishRole role).result world).1.2 := by
  rcases connection.establishRole_result role with ⟨transport, place, before, rfl, carries, result⟩ | ⟨none, result⟩
  · refine .inr ⟨transport, before, ((bringUp role before).result world).1.1, Place.endpoint?_fill carries before, ?_, ?_⟩
    · rw [result]
      exact Place.endpoint?_fill carries _
    · rw [result]
      exact bringUp_verdict order.sound order.fits_fill role
  · exact .inl ⟨none, by rw [result]⟩

/-- Every outcome of the report tells the truth of the time before both attempts and the time after both. -/
theorem establish_verdict (order : connection.InOrder world) (role : Role) :
    (connection.endpoint? role = none ∧ (connection.establish.result world).1.2.outcome role = .unsupported) ∨
    ∃ (transport : Transport) (before after : Endpoint transport),
      connection.endpoint? role = some ⟨transport, before⟩ ∧
      (connection.establish.result world).1.1.endpoint? role = some ⟨transport, after⟩ ∧
      Verdict before after world (connection.establish.result world).2
        ((connection.establish.result world).1.2.outcome role) := by
  rw [establish_result]
  have orderFirst := order.establishRole .data
  cases role with
  | data =>
    dsimp only [Report.outcome]
    rcases establishRole_verdict order .data with unsupported | ⟨transport, before, after, found, foundAfter, verdict⟩
    · exact .inl unsupported
    · have stays := live_establishRole_other orderFirst (show Role.data ≠ .command by decide)
      rw [live_of_endpoint? foundAfter, live_of_endpoint? (by rw [endpoint?_establishRole (by decide)]; exact foundAfter)]
        at stays
      refine .inr ⟨transport, before, after, found, ?_, verdict.of_live rfl stays⟩
      rw [endpoint?_establishRole (by decide)]
      exact foundAfter
  | command =>
    dsimp only [Report.outcome]
    rcases establishRole_verdict orderFirst .command with
      ⟨absent, unsupported⟩ | ⟨transport, before, after, found, foundAfter, verdict⟩
    · rw [endpoint?_establishRole (by decide)] at absent
      exact .inl ⟨absent, unsupported⟩
    · have was := live_establishRole_other order (show Role.command ≠ .data by decide)
      rw [live_of_endpoint? found] at was
      rw [endpoint?_establishRole (by decide)] at found
      rw [live_of_endpoint? found] at was
      exact .inr ⟨transport, before, after, found, foundAfter, verdict.of_live was.symm rfl⟩

end Whole

end Connection
end InstrumentLink
