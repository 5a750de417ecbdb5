import InstrumentLink.Proofs.Endpoint.History

/-!
What a failed attempt to bring an endpoint up says and what it leaves behind. An endpoint that lacks a field says so and
is not touched. Any other lets go of what it held first; then its host is looked up, and then the system is asked for
one thing.
-/

namespace InstrumentLink

theorem resolve_eq_error {names : HostNames} {host : String} {port : UInt16} {failure : Failure}
    (unknown : resolve names host port = .error failure) : failure = .resolve host port := by
  unfold resolve at unknown
  split at unknown <;> cases unknown
  rfl

namespace Transport

def Lacks : (transport : Transport) → transport.Target → Prop
  | .client, ⟨host, port⟩ => host = "" ∨ port = 0
  | .listener, ⟨_, port⟩ => port = 0
  | .udp, ⟨host, port⟩ => host = "" ∨ port = 0
  | .serial, ⟨path, baudRate⟩ => path = "" ∨ baudRate = 0

/-- The host and the port that are looked up before anything is opened. Nothing is looked up for a serial line. -/
def sought? : (transport : Transport) → transport.Target → Option (String × UInt16)
  | .client, ⟨host, port⟩ => some (host, port)
  | .listener, ⟨host, port⟩ => some (if host = "" then "0.0.0.0" else host, port)
  | .udp, ⟨host, port⟩ => some (host, port)
  | .serial, _ => none

variable {transport : Transport} {target : transport.Target}

theorem lacks_iff : transport.Lacks target ↔ transport.isConfigured target = false := by
  cases transport with
  | client | udp =>
    obtain ⟨host, port⟩ := target
    simp [Lacks, isConfigured, HostPort.hasHost, HostPort.hasPort, or_iff_not_imp_left]
  | listener =>
    obtain ⟨host, port⟩ := target
    simp [Lacks, isConfigured, HostPort.hasPort]
  | serial =>
    obtain ⟨path, baudRate⟩ := target
    simp [Lacks, isConfigured, or_iff_not_imp_left]

theorem request?_eq_error {names : HostNames} {failure : Failure} :
    transport.request? names target = .error failure ↔
      ∃ host port, transport.sought? target = some (host, port) ∧
        InstrumentLink.resolve names host port = .error failure := by
  cases transport with
  | client | udp =>
    obtain ⟨host, port⟩ := target
    cases found : InstrumentLink.resolve names host port <;> simp [request?, sought?, found, Except.map]
  | listener =>
    obtain ⟨host, port⟩ := target
    have any : listenerHost ⟨host, port⟩ = if host = "" then "0.0.0.0" else host := by
      simp [listenerHost, HostPort.hasHost, anyHost]
    cases found : InstrumentLink.resolve names (if host = "" then "0.0.0.0" else host) port <;>
      simp [request?, sought?, any, found, Except.map]
  | serial =>
    obtain ⟨path, baudRate⟩ := target
    simp [request?, sought?]

theorem resolve_of_request? {names : HostNames} {failure : Failure}
    (refused : transport.request? names target = .error failure) :
    ∃ host port, failure = .resolve host port ∧ transport.sought? target = some (host, port) ∧
      InstrumentLink.resolve names host port = .error (.resolve host port) := by
  obtain ⟨host, port, sought, unknown⟩ := request?_eq_error.mp refused
  have told := resolve_eq_error unknown
  exact ⟨host, port, told, sought, told ▸ unknown⟩

theorem cause?_refusal (target : transport.Target) (error : IoError) :
    (transport.refusal target error).cause? = some error := by
  cases transport <;> rfl

theorem refusal_ne_resolve (target : transport.Target) (error : IoError) (host : String) (port : UInt16) :
    transport.refusal target error ≠ .resolve host port := by
  cases transport <;> exact Failure.noConfusion

theorem refusal_ne_notConfigured (target : transport.Target) (error : IoError) (name : String) :
    transport.refusal target error ≠ .notConfigured name := by
  cases transport <;> exact Failure.noConfusion

end Transport

namespace Endpoint

variable {transport : Transport}

/-- What is told of an attempt that has failed, and the world that the attempt has left. -/
structure Failed (endpoint : Endpoint transport) (world : World) (failure : Failure) (later : World) : Prop where
  /-- What was held is given up first, and nothing of it is left. -/
  closed : endpoint.closings <+: later.journal.drop world.journal.length ∧
    ∀ asset ∈ endpoint.assets, later.own? asset = none
  lacking : (∃ name, failure = .notConfigured name) ↔ transport.Lacks endpoint.target
  unresolved : ¬ transport.Lacks endpoint.target → ∀ host port, failure = .resolve host port ↔
    transport.sought? endpoint.target = some (host, port) ∧
      resolve world.network.routes.names host port = .error (.resolve host port)
  /-- Else the system has refused the one thing that it was asked for, and the failure has its reason. -/
  refused : ¬ transport.Lacks endpoint.target → (∀ host port, failure ≠ .resolve host port) →
    ∃ request error empty, transport.request? world.network.routes.names endpoint.target = .ok request ∧
      empty.journal = world.journal ++ endpoint.closings ∧
      request.act.result empty = (.error error, later) ∧
      failure = transport.refusal endpoint.target error ∧ failure.cause? = some error

variable {endpoint : Endpoint transport} {world : World}

theorem failed_of_lacks (fits : endpoint.Fits world) (lacks : transport.Lacks endpoint.target) :
    endpoint.Failed world (.notConfigured endpoint.describe) world where
  closed := by
    have down := fits.handle_eq_none (Transport.lacks_iff.mp lacks)
    rw [closings_eq_nil down, assets_eq_nil down]
    exact ⟨List.nil_prefix, nofun⟩
  lacking := ⟨fun _ => lacks, fun _ => ⟨_, rfl⟩⟩
  unresolved complete := absurd lacks complete
  refused complete := absurd lacks complete

theorem closed_of_swap {after : Endpoint transport} {later : World} (swap : Swap endpoint after world later)
    (down : after.handle = none) {rest : List Deed}
    (journal : later.journal = world.journal ++ endpoint.closings ++ rest) :
    endpoint.closings <+: later.journal.drop world.journal.length ∧ ∀ asset ∈ endpoint.assets, later.own? asset = none := by
  refine ⟨?_, fun asset member => ?_⟩
  · rw [journal, List.append_assoc, List.drop_left]
    exact List.prefix_append endpoint.closings rest
  · have absent := swap.gone asset member (by simp [assets_eq_nil down])
    have shut := swap.sound.isSome_ledger asset
    rw [absent] at shut
    simpa using shut.symm

variable {later : World} (complete : ¬ transport.Lacks endpoint.target)
  (closed : endpoint.closings <+: later.journal.drop world.journal.length ∧
    ∀ asset ∈ endpoint.assets, later.own? asset = none)

include complete closed

theorem failed_of_unknown {failure : Failure}
    (unknown : transport.request? world.network.routes.names endpoint.target = .error failure) :
    endpoint.Failed world failure later := by
  obtain ⟨host, port, rfl, sought, unresolved⟩ := Transport.resolve_of_request? unknown
  refine ⟨closed, by simp [complete], fun _ other number => ?_, fun _ another => absurd rfl (another host port)⟩
  constructor
  · intro same
    cases same
    exact ⟨sought, unresolved⟩
  · rintro ⟨soughtToo, _⟩
    rw [sought] at soughtToo
    cases soughtToo
    rfl

theorem failed_of_refusal {request : Request} {error : IoError} {empty : World}
    (asked : transport.request? world.network.routes.names endpoint.target = .ok request)
    (emptied : empty.journal = world.journal ++ endpoint.closings)
    (answered : request.act.result empty = (.error error, later)) :
    endpoint.Failed world (transport.refusal endpoint.target error) later := by
  refine ⟨closed, by simp [complete, Transport.refusal_ne_notConfigured], fun _ host port => ?_, fun _ _ =>
    ⟨request, error, empty, asked, emptied, answered, rfl, Transport.cause?_refusal _ _⟩⟩
  constructor
  · intro same
    exact absurd same (Transport.refusal_ne_resolve _ _ _ _)
  · rintro ⟨sought, unknown⟩
    rw [Transport.request?_eq_error.mpr ⟨host, port, sought, unknown⟩] at asked
    cases asked

omit complete closed

/-- Letting go and not getting anything new leaves an endpoint empty, and what it says is why. -/
theorem failed_of_reopen (fits : endpoint.Fits world) (set : endpoint.isConfigured = true) {looked : World}
    (kept : world.Kept looked) {after : Endpoint transport} {failure : Failure}
    (failed : endpoint.reopen.result looked = ((after, .error failure), later)) :
    after = ⟨endpoint.target, none⟩ ∧ endpoint.Failed world failure later := by
  have complete : ¬ transport.Lacks endpoint.target := by
    rw [Transport.lacks_iff, ← isConfigured, set]
    decide
  have swap := ((reopen_handover kept.sound (fits.of_kept kept) set).after_kept kept).swap fits
  rw [failed] at swap
  have routes : (endpoint.afterRelease looked).network.routes = world.network.routes :=
    (routes_afterRelease endpoint looked).trans kept.routes
  have emptied : (endpoint.afterRelease looked).journal = world.journal ++ endpoint.closings := by
    rw [journal_afterRelease, kept.journal]
  have target : endpoint.released.target = endpoint.target := rfl
  rw [reopen_result, raise_result, routes, target] at failed
  cases asked : transport.request? world.network.routes.names endpoint.target with
  | error reason =>
    rw [asked] at failed
    cases failed
    have closed := closed_of_swap swap rfl (emptied.trans (List.append_nil _).symm)
    exact ⟨rfl, failed_of_unknown complete closed asked⟩
  | ok request =>
    rw [asked] at failed
    dsimp only at failed
    cases answered : (request.act.result (endpoint.afterRelease looked)).1 with
    | ok id =>
      rw [answered] at failed
      cases failed
    | error error =>
      rw [answered] at failed
      cases failed
      have journal := World.journal_request request (endpoint.afterRelease looked)
      rw [emptied] at journal
      have closed := closed_of_swap swap rfl journal
      exact ⟨rfl, failed_of_refusal complete closed asked emptied (Prod.ext answered rfl)⟩

end Endpoint

/-- An attempt to bring an endpoint up is good just where the endpoint holds something afterwards, and it changes no
field. An endpoint that lacks a field is not touched and nothing is asked for it. Whatever else goes wrong, the endpoint
is left empty, what it held is closed, and the failure tells the first thing that stood in the way. -/
theorem failures_are_complete_and_clean {transport : Transport} {endpoint : Endpoint transport} {world : World}
    (reached : endpoint.Reached world) {after : Endpoint transport} {answer : Except Failure Unit} {later : World}
    (attempt : endpoint.establish.result world = ((after, answer), later)) :
    (answer.isOk = true ↔ after.handle.isSome = true) ∧
      after.target = endpoint.target ∧
      (transport.Lacks endpoint.target →
        answer = .error (.notConfigured endpoint.describe) ∧ after = endpoint ∧ later = world) ∧
      ∀ failure, answer = .error failure → after = ⟨endpoint.target, none⟩ ∧ endpoint.Failed world failure later := by
  obtain ⟨sound, fits⟩ := reached.inOrder
  have outcome := Endpoint.establish_attempt sound fits
  generalize met : endpoint.establish.result world = result at outcome
  rw [attempt] at met
  cases outcome with
  | settled unbroken held =>
    cases met
    have complete : ¬ transport.Lacks endpoint.target := by
      intro lacks
      rw [fits.handle_eq_none (Transport.lacks_iff.mp lacks)] at held
      cases held
    exact ⟨by simp [Except.isOk, Except.toBool, held], rfl, fun lacks => absurd lacks complete, nofun⟩
  | lacking unset =>
    cases met
    have lacks : transport.Lacks endpoint.target := Transport.lacks_iff.mpr unset
    have down := fits.handle_eq_none unset
    refine ⟨by simp [Except.isOk, Except.toBool, down], rfl, fun _ => ⟨rfl, rfl, rfl⟩, ?_⟩
    rintro failure ⟨⟩
    exact ⟨by rw [← down], Endpoint.failed_of_lacks fits lacks⟩
  | @renewed set looked _ kept _ _ =>
    have complete : ¬ transport.Lacks endpoint.target := by
      rw [Transport.lacks_iff, ← Endpoint.isConfigured, set]
      decide
    have handle := endpoint.reopen_handle looked
    have target := endpoint.target_reopen looked
    rw [← met] at handle target
    refine ⟨by rw [handle], target, fun lacks => absurd lacks complete, ?_⟩
    rintro failure rfl
    exact Endpoint.failed_of_reopen fits set kept met.symm

def unpluggedSerial : Endpoint .serial × World :=
  let moves : List (Endpoint.Move .serial) :=
    [.change (⟨"/dev/ttyUSB0", 9600⟩ : SerialSettings), .event (.plug "/dev/ttyUSB0"), .establish, .event (.unplug 1)]
  ((Endpoint.ofTarget (Transport.unset .serial)).performAll moves).result (World.ofRoutes .loopback)

theorem reached_unpluggedSerial : unpluggedSerial.1.Reached unpluggedSerial.2 :=
  Endpoint.Reached.performAll (.new (.ofRoutes .loopback)) _

/-- It cannot come up again: the line that it held is closed, and it says what it could not open and why. -/
theorem failures_are_complete_and_clean_unplugged :
    unpluggedSerial.1 = ⟨⟨"/dev/ttyUSB0", 9600⟩, some (0 : Nat)⟩ ∧
      (unpluggedSerial.1.establish.result unpluggedSerial.2).1.2 =
        .error (.openDevice "/dev/ttyUSB0" (.other "No such file or directory")) ∧
      (unpluggedSerial.1.establish.result unpluggedSerial.2).1.1 = ⟨⟨"/dev/ttyUSB0", 9600⟩, none⟩ ∧
      (unpluggedSerial.1.establish.result unpluggedSerial.2).2.own? (.line 0) = none := by
  have held : unpluggedSerial.1 = ⟨⟨"/dev/ttyUSB0", 9600⟩, some (0 : Nat)⟩ := by decide +kernel
  have told : (unpluggedSerial.1.establish.result unpluggedSerial.2).1.2 =
      .error (.openDevice "/dev/ttyUSB0" (.other "No such file or directory")) := by decide +kernel
  have clean := (failures_are_complete_and_clean reached_unpluggedSerial rfl).2.2.2 _ told
  refine ⟨held, told, clean.1.trans (by rw [held]), clean.2.closed.2 (.line 0) ?_⟩
  rw [held]
  decide

end InstrumentLink
