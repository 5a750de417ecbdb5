import InstrumentLink.Proofs.Act
import InstrumentLink.Proofs.Devices
import InstrumentLink.Proofs.Ledger
import InstrumentLink.Proofs.Network.Routes

/-!
Worlds whose journal tells the truth: what it shows as open is what the agent's sockets and lines are, each made for
what the journal says. Events keep that, and so does everything the agent does: what it asks for, what it closes and what
it takes.
-/

namespace InstrumentLink

namespace World

/-- For each thing of the agent's that is open the deed that it came from. -/
def ledger (world : World) : Asset → Option Deed := InstrumentLink.ledger world.journal

/-- What a thing of the agent's was made for, if there is such a thing. -/
def own? (world : World) : Asset → Option Purpose
  | .socket id => world.network.own? id
  | .line id => (world.devices.line? id).map fun line => .line line.path line.baudRate

/-- A world that could have come about. -/
structure Sound (world : World) : Prop where
  network : world.network.Sound
  devices : world.devices.Sound
  /-- The journal and the things themselves tell the same. -/
  truthful : ∀ asset, Option.Rel Deed.Explains (world.ledger asset) (world.own? asset)

structure Untouched (world : World) : Prop where
  network : world.network.Sound
  devices : world.devices.Sound
  nothing : ∀ asset, world.own? asset = none
  journal : world.journal = []

theorem Untouched.ofRoutes (routes : Routes) : (World.ofRoutes routes).Untouched where
  network := .ofRoutes routes
  devices := Devices.sound_standard
  nothing
    | .socket id => by
      have empty : (World.ofRoutes routes).network.socket? id = none := Registry.find?_empty id
      simp [own?, Network.own?, empty]
    | .line id => by
      have empty : (World.ofRoutes routes).devices.line? id = none := Registry.find?_empty id
      simp [own?, empty]
  journal := rfl

theorem Untouched.sound {world : World} (untouched : world.Untouched) : world.Sound where
  network := untouched.network
  devices := untouched.devices
  truthful asset := by
    rw [untouched.nothing, ledger, untouched.journal]
    exact .none

namespace Sound

variable {world : World}

theorem own?_of_ledger (sound : world.Sound) {asset : Asset} {deed : Deed} (found : world.ledger asset = some deed) :
    ∃ purpose, world.own? asset = some purpose ∧ deed.Explains purpose := by
  have truthful := sound.truthful asset
  rw [found] at truthful
  cases shown : world.own? asset with
  | none =>
    rw [shown] at truthful
    cases truthful
  | some purpose =>
    rw [shown] at truthful
    cases truthful with
    | some explains => exact ⟨purpose, rfl, explains⟩

theorem ledger_of_own? (sound : world.Sound) {asset : Asset} (absent : world.own? asset = none) :
    world.ledger asset = none := by
  cases found : world.ledger asset with
  | none => rfl
  | some deed =>
    obtain ⟨purpose, there, _⟩ := sound.own?_of_ledger found
    rw [absent] at there
    cases there

theorem isSome_ledger (sound : world.Sound) (asset : Asset) :
    (world.ledger asset).isSome = (world.own? asset).isSome := by
  have truthful := sound.truthful asset
  cases found : world.ledger asset with
  | none =>
    cases shown : world.own? asset with
    | none => rfl
    | some purpose => rw [found, shown] at truthful; cases truthful
  | some deed =>
    obtain ⟨purpose, there, _⟩ := sound.own?_of_ledger found
    rw [there]
    rfl

theorem tell (sound : world.Sound) (entries : List LogEntry) : (world.tell entries).Sound where
  network := sound.network
  devices := sound.devices
  truthful := sound.truthful

theorem withNetwork (sound : world.Sound) {network : Network} (kept : network.Sound)
    (same : ∀ id, network.own? id = world.network.own? id) : ({ world with network } : World).Sound where
  network := kept
  devices := sound.devices
  truthful
    | .socket id => by
      change Option.Rel Deed.Explains (world.ledger (.socket id)) (network.own? id)
      rw [same]
      exact sound.truthful (.socket id)
    | .line id => sound.truthful (.line id)

theorem withDevices (sound : world.Sound) {devices : Devices} (kept : devices.Sound)
    (same : ∀ id, devices.line? id = world.devices.line? id) : ({ world with devices } : World).Sound where
  network := sound.network
  devices := kept
  truthful
    | .socket id => sound.truthful (.socket id)
    | .line id => by
      change Option.Rel Deed.Explains (world.ledger (.line id)) ((devices.line? id).map _)
      rw [same]
      exact sound.truthful (.line id)

theorem event (sound : world.Sound) (event : Event) : (world.after event).Sound :=
  (sound.withNetwork (sound.network.event event) (Network.own?_event sound.network event)).withDevices
    (sound.devices.event event) (Devices.line?_event event world.devices)

end Sound
end World
end InstrumentLink
