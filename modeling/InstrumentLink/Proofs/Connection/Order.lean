import InstrumentLink.Proofs.Connection.Place

/-!
A connection is `InOrder` in a world if it owns just what the agent has open, nothing twice, each of its endpoints fits,
and the journal is tidy. A swap in one place keeps it in order, and so does everything that is done to a connection.
-/

namespace InstrumentLink
namespace Connection

/-- The books of a connection are in order. -/
structure InOrder (connection : Connection) (world : World) : Prop where
  sound : world.Sound
  /-- What is open is what the connection owns. -/
  owned : ∀ asset, (world.ledger asset).isSome ↔ asset ∈ connection.assets
  once : connection.assets.Nodup
  fits : ∀ {transport} {endpoint : Endpoint transport}, ⟨transport, endpoint⟩ ∈ connection.endpoints →
    endpoint.Fits world
  /-- Where an address is only kept, nothing is held. -/
  stored : ∀ {data command}, connection = rsn data command → command.handle = none
  tidy : Tidy world.journal

theorem release_handover {transport : Transport} {endpoint : Endpoint transport} {world : World} (sound : world.Sound)
    (fits : endpoint.Fits world) (role : Role) :
    Endpoint.Handover endpoint ((release role endpoint).result world).1.1 world
      ((release role endpoint).result world).2 := by
  unfold release
  split
  · exact (Endpoint.disconnect_handover (sound.tell _) (fits.tell _)).of_tell
  · exact .refl sound endpoint

namespace InOrder

variable {connection : Connection} {world later : World} {transport : Transport} {place : Place transport}
  {before after : Endpoint transport}

theorem start (untouched : world.Untouched) (settings : ConnectionSettings) :
    (ofSettings settings).InOrder world := by
  have bare : (ofSettings settings).Bare := bare_ofSettings settings
  have empty : (ofSettings settings).assets = [] := bare.assets_eq_nil
  refine ⟨untouched.sound, fun asset => ?_, by rw [empty]; exact List.nodup_nil, fun member => ?_, ?_, ?_⟩
  · rw [untouched.sound.ledger_of_own? (untouched.nothing asset), empty]
    simp
  · exact Endpoint.fits_of_handle_eq_none (bare member) world
  · intro data command same
    cases settings <;> cases same
    rfl
  · rw [untouched.journal]
    exact .nil

theorem of_kept (order : connection.InOrder world) (kept : world.Kept later) : connection.InOrder later where
  sound := kept.sound
  owned asset := by
    rw [kept.ledger]
    exact order.owned asset
  once := order.once
  fits member := (order.fits member).of_same kept.routes fun asset _ => kept.ledger asset
  stored := order.stored
  tidy := by
    rw [kept.journal]
    exact order.tidy

theorem fits_fill (order : (place.fill before).InOrder world) : before.Fits world :=
  order.fits ((place.mem_endpoints_fill before _).mpr (.inl rfl))

theorem handle_eq_none (order : (place.fill before).InOrder world) (unused : place.role? = none) :
    before.handle = none := by
  cases place with
  | rsnCommand data => exact order.stored rfl
  | _ => cases unused

theorem swap (order : (place.fill before).InOrder world) (swap : Endpoint.Swap before after world later)
    (unused : place.role? = none → after.handle = none) : (place.fill after).InOrder later := by
  obtain ⟨_, restOnce, apart⟩ := (place.nodup_assets_fill before).mp order.once
  have notRest : ∀ asset ∈ after.assets, asset ∉ place.rest := by
    intro asset member there
    rcases swap.new asset member with old | absent
    · exact apart asset old there
    · have isOpen := (order.owned asset).mpr ((place.mem_assets_fill before asset).mpr (.inr there))
      rw [absent] at isOpen
      cases isOpen
  have restSame : ∀ asset ∈ place.rest, later.ledger asset = world.ledger asset := by
    intro asset there
    exact swap.others asset (fun here => apart asset here there) (fun here => notRest asset here there)
  refine ⟨swap.sound, fun asset => ?_, ?_, fun member => ?_, ?_, swap.tidy order.tidy⟩
  · rw [place.mem_assets_fill]
    -- A thing is in the place now, or with the rest, or was in the place before and is not any more.
    by_cases here : asset ∈ after.assets
    · simp [here, swap.fits.isOpen here]
    · by_cases there : asset ∈ place.rest
      · rw [restSame asset there, order.owned, place.mem_assets_fill]
        simp [there]
      · by_cases was : asset ∈ before.assets
        · simp [here, there, swap.gone asset was here]
        · rw [swap.others asset was here, order.owned, place.mem_assets_fill]
          simp [here, there, was]
  · exact (place.nodup_assets_fill after).mpr ⟨swap.fits.once, restOnce, notRest⟩
  · rcases (place.mem_endpoints_fill after _).mp member with same | other
    · cases same
      exact swap.fits
    · have fits := order.fits ((place.mem_endpoints_fill before _).mpr (.inr other))
      exact fits.of_same swap.routes fun asset inOther =>
        restSame asset (List.mem_flatMap.mpr ⟨_, other, inOther⟩)
  · intro data command same
    cases place with
    | rsnData kept =>
      cases same
      exact order.stored rfl
    | rsnCommand kept =>
      cases same
      exact unused rfl
    | _ => cases same

theorem handover (order : (place.fill before).InOrder world) (handover : Endpoint.Handover before after world later)
    (unused : place.role? = none → after.handle = none) : (place.fill after).InOrder later :=
  order.swap (handover.swap order.fits_fill) unused

theorem apply (order : connection.InOrder world) (change : Change) :
    ((connection.apply change).result world).1.InOrder ((connection.apply change).result world).2 := by
  cases connection.taken change with
  | stored place endpoint target filled applies addressed written result =>
    subst filled
    rw [result]
    have handover := Endpoint.change_handover order.sound order.fits_fill target
    refine order.handover handover fun unused => ?_
    have down : endpoint.handle = none := order.handle_eq_none unused
    rw [Endpoint.change_of_handle_eq_none down]
  | ignored foreign result =>
    rw [result]
    exact order.of_kept (.tell order.sound _)

theorem applyAll (order : connection.InOrder world) (changes : List Change) :
    ((connection.applyAll changes).result world).1.InOrder ((connection.applyAll changes).result world).2 := by
  induction changes generalizing connection world with
  | nil => exact order
  | cons change rest ih => exact ih (order.apply change)

/-- What is done by role keeps a connection in order if it hands over in the endpoint that it is done to. -/
theorem onRole {α : Type} (order : connection.InOrder world) (role : Role)
    (act : {transport : Transport} → Endpoint transport → Act (Endpoint transport × α))
    (handover : ∀ {transport : Transport} {endpoint : Endpoint transport}, endpoint.Fits world →
      Endpoint.Handover endpoint ((act endpoint).result world).1.1 world ((act endpoint).result world).2) :
    ((connection.onRole role act).result world).1.1.InOrder ((connection.onRole role act).result world).2 := by
  rcases connection.onRole_result role with ⟨transport, place, endpoint, rfl, carries, _, result⟩ | ⟨_, result⟩
  · rw [result]
    refine order.handover (handover order.fits_fill) fun unused => ?_
    rw [carries] at unused
    cases unused
  · rw [result]
    exact order

theorem disconnect (order : connection.InOrder world) (role : Role) :
    ((connection.disconnect role).result world).1.InOrder ((connection.disconnect role).result world).2 :=
  order.onRole role (release role) fun fits => release_handover order.sound fits role

end InOrder

end Connection
end InstrumentLink
