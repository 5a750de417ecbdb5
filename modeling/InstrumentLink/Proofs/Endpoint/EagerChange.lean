import InstrumentLink.Proofs.Endpoint.Exchange

/-!
A new address taken at once. To let go, store the address and come up again in one go is the same as to do these one
after another: an endpoint ends as it would, and so do all sockets and devices. Only the talk on the way differs, as does
the look with which it begins, and that look is lost on a socket that is closed next.
-/

namespace InstrumentLink

structure World.SameButTalk (world other : World) : Prop where
  network : other.network = world.network
  devices : other.devices = world.devices
  journal : other.journal = world.journal

namespace World.SameButTalk

variable {world other third : World}

theorem refl (world : World) : world.SameButTalk world := ⟨rfl, rfl, rfl⟩

theorem symm (same : world.SameButTalk other) : other.SameButTalk world :=
  ⟨same.network.symm, same.devices.symm, same.journal.symm⟩

theorem trans (first : world.SameButTalk other) (second : other.SameButTalk third) : world.SameButTalk third :=
  ⟨second.network.trans first.network, second.devices.trans first.devices, second.journal.trans first.journal⟩

theorem tell (world : World) (entries : List LogEntry) : world.SameButTalk (world.tell entries) := ⟨rfl, rfl, rfl⟩

theorem exists_log (same : world.SameButTalk other) : ∃ log, other = { world with log } := by
  obtain ⟨network, devices, log, journal⟩ := other
  obtain ⟨rfl, rfl, rfl⟩ := same
  exact ⟨log, rfl⟩

theorem request (same : world.SameButTalk other) (request : Request) :
    (request.act.result other).1 = (request.act.result world).1 ∧
      (request.act.result world).2.SameButTalk (request.act.result other).2 := by
  obtain ⟨log, rfl⟩ := same.exists_log
  cases request <;> exact ⟨rfl, rfl, rfl, rfl⟩

theorem shut (same : world.SameButTalk other) (gone : Parting) :
    ((Act.shut gone).result world).2.SameButTalk ((Act.shut gone).result other).2 := by
  obtain ⟨log, rfl⟩ := same.exists_log
  obtain ⟨id | id, _ | ways⟩ := gone <;> exact ⟨rfl, rfl, rfl⟩

theorem shutAll (same : world.SameButTalk other) (gone : List Parting) :
    ((Act.shutAll gone).result world).2.SameButTalk ((Act.shutAll gone).result other).2 := by
  induction gone generalizing world other with
  | nil => exact same
  | cons first rest ih => exact ih (same.shut first)

end World.SameButTalk

namespace Network

theorem part_peek (network : Network) (id : SocketId) (ways : Option Ways) :
    (network.peek id).2.part ways id = network.part ways id := by
  have blind : ∀ stream : Stream, ∃ error, stream.afterPeek = { stream with error } := by
    intro stream
    rcases stream.afterPeek_cases with same | ⟨changed, _⟩
    · exact ⟨stream.error, same⟩
    · exact ⟨none, changed⟩
  unfold peek
  cases network.stream? id with
  | none => rfl
  | some stream => exact part_blind blind network id ways

end Network

theorem Transport.world_isUsable_client (id : SocketId) (world : World) :
    ((isUsable .client id).result world).2 = world ∨
      ((isUsable .client id).result world).2 = { world with network := (world.network.peek id).2 } := by
  unfold isUsable
  rw [Act.result_bind]
  split
  · exact .inr rfl
  · exact .inl rfl

namespace Endpoint

variable {transport : Transport} {endpoint : Endpoint transport} {world other : World}

theorem shutAll_isConnected (endpoint : Endpoint transport) (world : World) :
    ((Act.shutAll endpoint.partings).result world).2.SameButTalk
      ((Act.shutAll endpoint.partings).result (endpoint.isConnected.result world).2).2 := by
  obtain ⟨target, _ | handle⟩ := endpoint
  · exact .refl _
  cases transport with
  | listener | udp | serial => exact .refl _
  | client =>
    have looks := Transport.world_isUsable_client handle world
    change ((Act.hangUp handle .sending).result world).2.SameButTalk
      ((Act.hangUp handle .sending).result ((Transport.isUsable .client handle).result world).2).2
    rcases looks with same | looked
    · rw [same]
      exact .refl _
    · rw [looked]
      exact ⟨world.network.part_peek handle (some .sending), rfl, rfl⟩

theorem sameButTalk_afterRelease {moved : Endpoint transport} (partings : moved.partings = endpoint.partings)
    (same : ((Act.shutAll endpoint.partings).result world).2.SameButTalk ((Act.shutAll endpoint.partings).result other).2) :
    (endpoint.afterRelease world).SameButTalk (moved.afterRelease other) := by
  have spoken := (World.SameButTalk.tell world endpoint.closingLines).shutAll endpoint.partings
  have spokenToo := (World.SameButTalk.tell other moved.closingLines).shutAll endpoint.partings
  unfold afterRelease
  rw [partings]
  exact spoken.symm.trans (same.trans spokenToo)

theorem sameButTalk_raise (same : world.SameButTalk other) (endpoint : Endpoint transport) :
    (endpoint.raise.result other).1 = (endpoint.raise.result world).1 ∧
      (endpoint.raise.result world).2.SameButTalk (endpoint.raise.result other).2 := by
  rw [raise_result, raise_result, same.network]
  cases transport.request? world.network.routes.names endpoint.target with
  | error failure => exact ⟨rfl, same⟩
  | ok request =>
    obtain ⟨answer, later⟩ := same.request request
    dsimp only
    rw [answer]
    cases (request.act.result world).1 with
    | error error => exact ⟨rfl, later⟩
    | ok id => exact ⟨rfl, (World.SameButTalk.tell _ _).symm.trans (later.trans (.tell _ _))⟩

/-- What was up and has moved is raised if its new address is complete; whether that comes off is only talked about. -/
theorem sameButTalk_raiseMoved (endpoint : Endpoint transport) (world : World) :
    (endpoint.raiseMoved.result world).1 =
        (if endpoint.isConfigured then (endpoint.raise.result world).1.1 else endpoint) ∧
      (if endpoint.isConfigured then (endpoint.raise.result world).2 else world).SameButTalk
        (endpoint.raiseMoved.result world).2 := by
  unfold raiseMoved
  cases endpoint.isConfigured with
  | false => exact ⟨rfl, .tell _ _⟩
  | true =>
    simp only [Bool.not_true, Bool.false_eq_true, if_false, if_true, Act.result_bind]
    cases (endpoint.raise.result world).1.2 with
    | ok _ => exact ⟨rfl, .refl _⟩
    | error failure => exact ⟨rfl, .tell _ _⟩

theorem change_of_holds (holds : endpoint.hasHandle = true) {target : transport.Target}
    (different : target ≠ endpoint.target) (world : World) :
    (endpoint.change target).result world =
      let asked := endpoint.isConnected.result world
      let empty := (endpoint.moved target).released
      let later := endpoint.afterMove target asked.2
      if asked.1 then empty.raiseMoved.result later else (empty, later) := by
  have stillHolds : (endpoint.moved target).hasHandle = true := holds
  have gone : (endpoint.moved target).released.handle = none := rfl
  rw [change_eq, Act.result_bind, if_neg different, if_pos stillHolds, Act.result_bind, Act.result_bind,
    disconnect_result, settle_result gone]
  simp [say, afterMove, afterRelease, changedLines, stillHolds]

/-- A change comes to letting go, and to raising what was up, in a world that is as it should be but for the talk. -/
theorem change_releases {target : transport.Target} (different : target ≠ endpoint.target) (world : World) :
    ∃ later, (endpoint.afterRelease world).SameButTalk later ∧
      (endpoint.change target).result world =
        if (endpoint.isConnected.result world).1 then (⟨target, none⟩ : Endpoint transport).raiseMoved.result later
        else (⟨target, none⟩, later) := by
  cases held : endpoint.handle with
  | none =>
    have down : (endpoint.isConnected.result world).1 = false := by simp [isConnected, held]
    refine ⟨world, ?_, ?_⟩
    · rw [afterRelease_of_handle_eq_none held]
      exact .refl world
    · rw [change_of_handle_eq_none held, down]
      rfl
  | some handle =>
    have holds : endpoint.hasHandle = true := by simp [hasHandle, held]
    have looked := endpoint.shutAll_isConnected world
    have told := looked.trans ((World.SameButTalk.tell _ (endpoint.moved target).changedLines).shutAll endpoint.partings)
    have same : (endpoint.moved target).partings = endpoint.partings := rfl
    exact ⟨endpoint.afterMove target (endpoint.isConnected.result world).2, sameButTalk_afterRelease same told,
      change_of_holds holds different world⟩

theorem raise_of_error (down : endpoint.handle = none) {failure : Failure}
    (failed : (endpoint.raise.result world).1.2 = .error failure) : (endpoint.raise.result world).1.1 = endpoint := by
  have empty : (endpoint.raise.result world).1.1.handle.isSome = false := by
    rw [raise_handle down, failed]
    rfl
  have address := target_raise endpoint world
  obtain ⟨target, handle⟩ := endpoint
  cases down
  generalize ((⟨target, none⟩ : Endpoint transport).raise.result world).1.1 = after at empty address
  obtain ⟨newTarget, newHandle⟩ := after
  cases address
  cases newHandle with
  | none => rfl
  | some handle => cases empty

end Endpoint

/-- Whatever an endpoint is and holds, and whatever the world is like: to set it to another address leaves it, and every
socket and device, as they are after these steps. It lets go of what it holds; it is set to the address, with empty hands;
and if it was up and the address lacks nothing, it is brought up, whatever comes of that. What was not up before ends with
empty hands, and so does what cannot be brought up again; the new address is stored all the same. To set one field is the
case of an address that differs in that field alone. -/
theorem eager_change_is_slow_change {transport : Transport} (endpoint : Endpoint transport) (world : World)
    {target : transport.Target} (different : target ≠ endpoint.target) :
    let wasUp := (endpoint.isConnected.result world).1
    let eager := (endpoint.change target).result world
    let gone := endpoint.disconnect.result world
    let stored := (gone.1.change target).result gone.2
    let again := stored.1.establish.result stored.2
    let slow := if wasUp && stored.1.isConfigured then (again.1.1, again.2) else stored
    gone.1 = ⟨endpoint.target, none⟩ ∧
    stored = (⟨target, none⟩, gone.2) ∧
    eager.1 = slow.1 ∧
    slow.2.SameButTalk eager.2 ∧
    ((wasUp && stored.1.isConfigured) = false → eager.1 = ⟨target, none⟩) ∧
    ∀ failure, again.1.2 = .error failure → eager.1 = ⟨target, none⟩ := by
  have letGo := endpoint.disconnect_result world
  have storing : (endpoint.released.change target).result (endpoint.afterRelease world) =
      (⟨target, none⟩, endpoint.afterRelease world) := Endpoint.change_of_handle_eq_none rfl target _
  obtain ⟨later, same, changed⟩ := Endpoint.change_releases different world
  change endpoint.disconnect.result world = (endpoint.released, endpoint.afterRelease world) at letGo
  dsimp only
  rw [letGo, storing, changed]
  refine ⟨rfl, rfl, ?_⟩
  -- From here on both ways have let go, and differ only in what was said by then.
  generalize (endpoint.isConnected.result world).1 = wasUp
  generalize endpoint.afterRelease world = released at same
  have bare : (⟨target, none⟩ : Endpoint transport).handle = none := rfl
  cases configured : (⟨target, none⟩ : Endpoint transport).isConfigured with
  | false =>
    obtain ⟨left, told⟩ := Endpoint.sameButTalk_raiseMoved (⟨target, none⟩ : Endpoint transport) later
    rw [configured] at left told
    cases wasUp with
    | false => exact ⟨rfl, same, fun _ => rfl, fun _ _ => rfl⟩
    | true => exact ⟨left, same.trans told, fun _ => left, fun _ _ => left⟩
  | true =>
    rw [Endpoint.establish_of_handle_eq_none bare configured]
    cases wasUp with
    | false => exact ⟨rfl, same, fun _ => rfl, fun _ _ => rfl⟩
    | true =>
      obtain ⟨left, told⟩ := Endpoint.sameButTalk_raiseMoved (⟨target, none⟩ : Endpoint transport) later
      obtain ⟨answer, raised⟩ := Endpoint.sameButTalk_raise same (⟨target, none⟩ : Endpoint transport)
      rw [configured, if_pos rfl] at left told
      have outcome : ((⟨target, none⟩ : Endpoint transport).raiseMoved.result later).1 =
          ((⟨target, none⟩ : Endpoint transport).raise.result released).1.1 := by rw [left, answer]
      refine ⟨outcome, raised.trans told, ?_, ?_⟩
      · intro never
        cases never
      · intro failure failed
        exact outcome.trans (Endpoint.raise_of_error bare failed)

def anyHostListener : Endpoint .listener × World :=
  let raised := (Endpoint.ofTarget ⟨"", 4001⟩ : Endpoint .listener).establish.result (World.ofRoutes .loopback)
  (raised.1.1, raised.2)

/-- It is set to one of these addresses, at the port that it holds itself: the port is free again by the time it is asked
for, with the steps done one after another as in one go. -/
theorem eager_change_is_slow_change_samePort :
    let (up, world) := anyHostListener
    let narrowed : Transport.listener.Target := ⟨"127.0.0.1", 4001⟩
    let (eager, after) := (up.change narrowed).result world
    narrowed ≠ up.target ∧ (up.isConnected.result world).1 = true ∧ eager = ⟨narrowed, some ⟨1, none⟩⟩ ∧
      after.journal.drop 1 =
        [.close 0, .listen ⟨.v4 ⟨127, 0, 0, 1⟩, 4001⟩ (some 1)] := by
  have different : (⟨"127.0.0.1", 4001⟩ : Transport.listener.Target) ≠ anyHostListener.1.target :=
    fun same => absurd (congrArg HostPort.host same) (by decide +kernel)
  have slow := eager_change_is_slow_change anyHostListener.1 anyHostListener.2 different
  obtain ⟨-, -, same, world, -⟩ := slow
  refine ⟨different, by decide +kernel, same.trans ?_, (congrArg (List.drop 1) world.journal).trans ?_⟩
  · decide +kernel
  · decide +kernel

end InstrumentLink
