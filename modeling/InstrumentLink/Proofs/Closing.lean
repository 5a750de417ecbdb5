import InstrumentLink.Proofs.World

/-!
How the agent closes what is its own. What is closed is noted, in the order in which it goes, and the world stays sound.
-/

namespace InstrumentLink

def Act.shut (parting : Parting) : Act Unit :=
  match parting.asset with
  | .socket id =>
    match parting.ways with
    | none => Act.close id
    | some ways => Act.hangUp id ways
  | .line id => Act.closeLine id

def Act.shutAll (partings : List Parting) : Act Unit := partings.forM Act.shut

namespace World

variable {world : World}

theorem result_stopWaiting (id : SocketId) (world : World) : ((Act.stopWaiting id).result world).2 = world := by
  rw [Act.result_stopWaiting, Network.adjust]
  split <;> rfl

theorem result_shut_socket (id : SocketId) (ways : Option Ways) (world : World) :
    (Act.shut ⟨.socket id, ways⟩).result world =
      ((), { world with
        network := world.network.part ways id
        journal := world.journal ++ Parting.deeds ⟨.socket id, ways⟩ }) := by
  cases ways with
  | none => rfl
  | some ways =>
    change (Act.hangUp id ways).result world = _
    rw [Act.result_hangUp, List.append_assoc]
    rfl

theorem own?_shut (sound : world.Sound) (gone : Parting) (asset : Asset) :
    ((Act.shut gone).result world).2.own? asset = if gone.asset = asset then none else world.own? asset := by
  obtain ⟨id | id, ways⟩ := gone
  · rw [result_shut_socket]
    cases asset with
    | socket other => simpa [own?] using Network.own?_part sound.network ways id other
    | line other => simp [own?]
  · cases asset with
    | socket other => simp [own?, Act.shut, Act.result_closeLine]
    | line other =>
      simp only [own?, Act.shut, Act.result_closeLine, Devices.line?_closeLine, Asset.line.injEq]
      split <;> rfl

theorem journal_shut (gone : Parting) (world : World) :
    ((Act.shut gone).result world).2.journal = world.journal ++ gone.deeds := by
  obtain ⟨id | id, ways⟩ := gone
  · rw [result_shut_socket]
  · rfl

theorem log_shut (gone : Parting) (world : World) : ((Act.shut gone).result world).2.log = world.log := by
  obtain ⟨id | id, ways⟩ := gone
  · rw [result_shut_socket]
  · rfl

theorem routes_shut (gone : Parting) (world : World) :
    ((Act.shut gone).result world).2.network.routes = world.network.routes := by
  obtain ⟨id | id, ways⟩ := gone
  · rw [result_shut_socket]
    exact world.network.routes_part ways id
  · rfl

theorem Sound.shut (sound : world.Sound) {gone : Parting} (own : (world.ledger gone.asset).isSome) :
    ((Act.shut gone).result world).2.Sound where
  network := by
    obtain ⟨id | id, ways⟩ := gone
    · rw [sound.isSome_ledger] at own
      obtain ⟨purpose, there⟩ := Option.isSome_iff_exists.mp own
      have owned : world.network.owner? id = some .agent := Network.owner?_of_own? there
      rw [result_shut_socket]
      exact sound.network.part (sound.network.free_of_owner (by simp [owned])) ways
    · exact sound.network
  devices := by
    obtain ⟨id | id, ways⟩ := gone
    · rw [result_shut_socket]
      exact sound.devices
    · exact sound.devices.closeLine id
  truthful asset := by
    rw [own?_shut sound, ledger, journal_shut, ledger_parting]
    split
    · exact .none
    · exact sound.truthful asset

theorem journal_shutAll (gone : List Parting) (world : World) :
    ((Act.shutAll gone).result world).2.journal = world.journal ++ gone.flatMap Parting.deeds := by
  induction gone generalizing world with
  | nil => exact (List.append_nil _).symm
  | cons first rest ih =>
    have split : ((Act.shutAll (first :: rest)).result world).2 =
        ((Act.shutAll rest).result ((Act.shut first).result world).2).2 := rfl
    rw [split, ih, journal_shut, List.flatMap_cons, List.append_assoc]

theorem log_shutAll (gone : List Parting) (world : World) :
    ((Act.shutAll gone).result world).2.log = world.log := by
  induction gone generalizing world with
  | nil => rfl
  | cons first rest ih => exact (ih _).trans (log_shut first world)

theorem routes_shutAll (gone : List Parting) (world : World) :
    ((Act.shutAll gone).result world).2.network.routes = world.network.routes := by
  induction gone generalizing world with
  | nil => rfl
  | cons first rest ih => exact (ih _).trans (routes_shut first world)

theorem Sound.shutAll (sound : world.Sound) {gone : List Parting}
    (own : ∀ asset ∈ gone.map Parting.asset, (world.ledger asset).isSome) (once : (gone.map Parting.asset).Nodup) :
    ((Act.shutAll gone).result world).2.Sound := by
  induction gone generalizing world with
  | nil => exact sound
  | cons first rest ih =>
    obtain ⟨notLater, restOnce⟩ := List.nodup_cons.mp once
    refine ih (sound.shut (own first.asset List.mem_cons_self)) (fun asset member => ?_) restOnce
    have different : first.asset ≠ asset := fun same => notLater (same ▸ member)
    change (InstrumentLink.ledger ((Act.shut first).result world).2.journal asset).isSome
    rw [journal_shut, ledger_parting, if_neg different]
    exact own asset (List.mem_cons_of_mem _ member)

end World
end InstrumentLink
