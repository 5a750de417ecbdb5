import InstrumentLink.World.Event

/-!
The serial devices of a machine: whatever a path leads to is there, so that a line that opens is alive at first.
What happens outside opens and closes no line.
-/

namespace InstrumentLink

namespace FileTree

theorem mem_of_walk {tree : FileTree} {kind : FileKind} {names front : List String}
    (found : tree.walk front names = .ok kind) : ∃ place, (place, kind) ∈ tree.entries := by
  induction names generalizing front with
  | nil =>
    simp only [walk] at found
    split at found
    next other there =>
      cases found
      obtain ⟨before, after, split, _⟩ := List.lookup_eq_some_iff.mp there
      exact ⟨front, by rw [split]; simp⟩
    next => cases found
  | cons name rest ih =>
    simp only [walk] at found
    split at found
    · cases found
    · split at found
      · cases found
      · exact ih found
    · cases found

theorem mem_of_find {tree : FileTree} {path : String} {kind : FileKind} (found : tree.find path = .ok kind) :
    ∃ place, (place, kind) ∈ tree.entries := by
  simp only [find] at found
  split at found
  · cases found
  · split at found
    · cases found
    · split at found
      · cases found
      · split at found
        · cases found
        next walked =>
          cases found
          exact mem_of_walk walked
        next other _ walked =>
          split at found
          · cases found
          · cases found
            exact mem_of_walk walked

end FileTree

namespace Terminal

theorem present_type (byte : UInt8) (terminal : Terminal) : (terminal.type byte).present = terminal.present := by
  unfold type erase
  repeat' split
  all_goals rfl

theorem present_typeAll (bytes : List UInt8) (terminal : Terminal) :
    (bytes.foldl (fun terminal byte => terminal.type byte) terminal).present = terminal.present := by
  induction bytes generalizing terminal with
  | nil => rfl
  | cons byte rest ih => rw [List.foldl_cons, ih, present_type]

theorem present_arrive (bytes : List UInt8) (terminal : Terminal) :
    (terminal.arrive bytes).present = terminal.present := by
  unfold arrive
  split
  · exact present_typeAll bytes terminal
  · rfl

end Terminal

namespace Devices

structure Sound (devices : Devices) : Prop where
  present : ∀ {place id}, (place, FileKind.terminal id) ∈ devices.files.entries →
    ∃ terminal, devices.terminal? id = some terminal ∧ terminal.present = true

theorem sound_standard : Devices.standard.Sound where
  present := by
    intro place id member
    have first : id = 0 := by
      simp only [standard, FileTree.standard, List.mem_append, List.mem_map] at member
      rcases member with (⟨_, _, same⟩ | ⟨⟨name, kind⟩, listed, same⟩) | ⟨_, _, same⟩
      · cases same
      · cases same
        have last : name = "ptmx" ∧ id = 0 := by simpa [FileTree.commonDevices] using listed
        exact last.2
      · cases same
    rw [first]
    exact ⟨.fresh, rfl, rfl⟩

theorem Sound.modifyTerminal {devices : Devices} (sound : devices.Sound) (id : Nat) {f : Terminal → Terminal}
    (keeps : ∀ terminal, (f terminal).present = terminal.present) : (devices.modifyTerminal id f).Sound where
  present := by
    intro place other member
    obtain ⟨terminal, there, present⟩ := sound.present member
    unfold terminal? Devices.modifyTerminal at *
    rw [Registry.find?_modify, there]
    split
    · exact ⟨f terminal, rfl, (keeps terminal).trans present⟩
    · exact ⟨terminal, rfl, present⟩

theorem Sound.closeLine {devices : Devices} (sound : devices.Sound) (id : Nat) : (devices.closeLine id).Sound :=
  ⟨sound.present⟩

/-- A line that does not open leaves nothing but a number that nobody gets again. -/
def skipLine (devices : Devices) : Devices := { devices with lines := devices.lines.skip }

/-- A path that opens as a line leads to a terminal; any other leaves at most a number behind. -/
theorem openLine_cases (path : String) (baudRate : UInt32) (devices : Devices) :
    (∃ terminal, devices.files.find path = .ok (.terminal terminal) ∧ devices.openLine path baudRate =
      (.ok devices.lines.next, (devices.addLine ⟨.terminal terminal, path, baudRate⟩).stopTyping terminal)) ∨
    ((∀ terminal, devices.files.find path ≠ .ok (.terminal terminal)) ∧ ∃ error,
      devices.openLine path baudRate = (.error error, devices) ∨
        devices.openLine path baudRate = (.error error, devices.skipLine)) := by
  have closed (line : Line) : (devices.addLine line).closeLine devices.lines.next = devices.skipLine := by
    rw [addLine, Devices.closeLine, Registry.remove_add_next, skipLine]
  have added (line : Line) : (devices.addLine line).line? devices.lines.next = some line :=
    Registry.find?_add_next ..
  unfold openLine
  cases devices.files.find path with
  | error error => exact .inr ⟨by simp, _, .inl rfl⟩
  | ok file =>
    cases file with
    | directory => exact .inr ⟨by simp, _, .inl rfl⟩
    | plain content =>
      dsimp only
      rw [openAndSetUp, setUp, added]
      exact .inr ⟨by simp, _, .inr (congrArg (Prod.mk _) (closed _))⟩
    | device error =>
      dsimp only
      rw [openAndSetUp, setUp, added]
      exact .inr ⟨by simp, _, .inr (congrArg (Prod.mk _) (closed _))⟩
    | terminal terminal =>
      dsimp only
      rw [openAndSetUp, setUp, added]
      exact .inl ⟨terminal, rfl, rfl⟩

theorem Sound.openLine {devices : Devices} (sound : devices.Sound) (path : String) (baudRate : UInt32) :
    (devices.openLine path baudRate).2.Sound := by
  rcases devices.openLine_cases path baudRate with ⟨terminal, _, opened⟩ | ⟨_, error, same | skipped⟩
  · rw [opened]
    exact ⟨(sound.modifyTerminal terminal (by intro _; rfl)).present⟩
  · rwa [same]
  · rw [skipped]
    exact ⟨sound.present⟩

theorem Sound.receive {devices : Devices} (sound : devices.Sound) (id count : Nat) :
    (devices.receive id count).2.Sound := by
  unfold Devices.receive
  split
  · exact sound
  · split
    · exact sound
    · split
      · exact sound
      · exact sound.modifyTerminal _ (by intro _; rfl)

theorem Sound.send {devices : Devices} (sound : devices.Sound) (id : Nat) (bytes : List UInt8) :
    (devices.send id bytes).2.Sound := by
  unfold Devices.send
  split
  · exact sound
  · split
    · exact sound.modifyTerminal _ (by intro _; rfl)
    · exact sound

theorem Sound.plug {devices : Devices} (sound : devices.Sound) (path : String) : (devices.plug path).2.Sound where
  present := by
    intro place id member
    have added : (place, FileKind.terminal id) ∈ devices.files.entries ∨ id = devices.terminals.next := by
      rcases List.mem_append.mp member with earlier | last
      · exact .inl earlier
      · cases List.mem_singleton.mp last
        exact .inr rfl
    unfold terminal?
    dsimp only [Devices.plug]
    rw [Registry.find?_add]
    split
    · exact ⟨.fresh, rfl, rfl⟩
    next old => exact sound.present (added.resolve_right old)

theorem Sound.unplug {devices : Devices} (sound : devices.Sound) (gone : Nat) : (devices.unplug gone).Sound where
  present := by
    intro place id member
    obtain ⟨earlier, different⟩ := List.mem_filter.mp member
    have different : gone ≠ id := fun same => by simp [same] at different
    obtain ⟨terminal, there, present⟩ := sound.present earlier
    refine ⟨terminal, ?_, present⟩
    unfold terminal?
    dsimp only [Devices.unplug, Devices.modifyTerminal]
    rw [Registry.find?_modify, if_neg different]
    exact there

theorem Sound.event {devices : Devices} (sound : devices.Sound) (event : Event) :
    (event.onDevices devices).Sound := by
  cases event with
  | plug path => exact sound.plug path
  | unplug gone => exact sound.unplug gone
  | deviceSend id bytes => exact sound.modifyTerminal id (Terminal.present_arrive bytes)
  | deviceReceive id count =>
    dsimp only [Event.onDevices, deviceReceive]
    split
    · exact sound
    · split
      · exact sound
      · exact sound.modifyTerminal id (by intro _; rfl)
  | serve _ _ _ | dial _ | take _ | send _ _ | receive _ _ | close _ | reset _ | answer _ | refuse _ _ | refuseIdle
  | fault _ _ | expire _ => exact sound

theorem isAlive_openLine {devices : Devices} (sound : devices.Sound) {path : String} {baudRate : UInt32} {id : Nat}
    (opened : (devices.openLine path baudRate).1 = .ok id) : (devices.openLine path baudRate).2.isAlive id = true := by
  rcases devices.openLine_cases path baudRate with ⟨terminal, found, granted⟩ | ⟨_, error, same | skipped⟩
  · rw [granted] at opened ⊢
    cases opened
    obtain ⟨place, member⟩ := FileTree.mem_of_find found
    obtain ⟨there, shown, present⟩ := sound.present member
    have line : ((devices.addLine ⟨.terminal terminal, path, baudRate⟩).stopTyping terminal).line? devices.lines.next =
        some ⟨.terminal terminal, path, baudRate⟩ :=
      Registry.find?_add_next ..
    have standing : ((devices.addLine ⟨.terminal terminal, path, baudRate⟩).stopTyping terminal).terminal? terminal =
        some { there with typing := false } := by
      unfold terminal? at shown ⊢
      dsimp only [stopTyping, modifyTerminal, addLine]
      rw [Registry.find?_modify, if_pos rfl, shown]
      rfl
    rw [isAlive, lineTerminal?, line]
    dsimp only [Option.map_some]
    rw [standing]
    exact present
  · rw [same] at opened
    cases opened
  · rw [skipped] at opened
    cases opened

theorem line?_closeLine (devices : Devices) (id other : Nat) :
    (devices.closeLine id).line? other = if id = other then none else devices.line? other :=
  Registry.find?_remove ..

theorem line?_openLine {devices : Devices} {path : String} {baudRate : UInt32} {id : Nat}
    (opened : (devices.openLine path baudRate).1 = .ok id) :
    id = devices.lines.next ∧ ∃ file, ∀ other, (devices.openLine path baudRate).2.line? other =
      if other = id then some ⟨file, path, baudRate⟩ else devices.line? other := by
  rcases devices.openLine_cases path baudRate with ⟨terminal, found, granted⟩ | ⟨_, error, same | skipped⟩
  · rw [granted] at opened ⊢
    cases opened
    exact ⟨rfl, .terminal terminal, fun other => Registry.find?_add ..⟩
  · rw [same] at opened
    cases opened
  · rw [skipped] at opened
    cases opened

theorem openLine_error {devices : Devices} {path : String} {baudRate : UInt32} {error : IoError}
    (failed : (devices.openLine path baudRate).1 = .error error) :
    (devices.openLine path baudRate).2 = devices ∨ (devices.openLine path baudRate).2 = devices.skipLine := by
  rcases devices.openLine_cases path baudRate with ⟨terminal, found, granted⟩ | ⟨_, _, same | skipped⟩
  · rw [granted] at failed
    cases failed
  · exact .inl (by rw [same])
  · exact .inr (by rw [skipped])

@[simp] theorem line?_skipLine (devices : Devices) (id : Nat) : devices.skipLine.line? id = devices.line? id :=
  Registry.find?_skip ..

theorem isOk_openLine (path : String) (baudRate : UInt32) (devices : Devices) :
    (devices.openLine path baudRate).1.isOk = true ↔ ∃ terminal, devices.files.find path = .ok (.terminal terminal) := by
  rcases devices.openLine_cases path baudRate with ⟨terminal, found, granted⟩ | ⟨none, error, same | skipped⟩
  · rw [granted]
    exact ⟨fun _ => ⟨terminal, found⟩, fun _ => rfl⟩
  · rw [same]
    exact ⟨fun ok => (Bool.false_ne_true ok).elim, fun ⟨terminal, found⟩ => absurd found (none terminal)⟩
  · rw [skipped]
    exact ⟨fun ok => (Bool.false_ne_true ok).elim, fun ⟨terminal, found⟩ => absurd found (none terminal)⟩

theorem isOk_openLine_closeLine (devices : Devices) (id : Nat) (path : String) (baudRate : UInt32) :
    ((devices.closeLine id).openLine path baudRate).1.isOk = (devices.openLine path baudRate).1.isOk := by
  rw [Bool.eq_iff_iff, isOk_openLine, isOk_openLine]
  exact Iff.rfl

theorem isOk_openLine_skipLine (devices : Devices) (path : String) (baudRate : UInt32) :
    (devices.skipLine.openLine path baudRate).1.isOk = (devices.openLine path baudRate).1.isOk := by
  rw [Bool.eq_iff_iff, isOk_openLine, isOk_openLine]
  exact Iff.rfl

theorem line?_event (event : Event) (devices : Devices) (id : Nat) :
    (event.onDevices devices).line? id = devices.line? id := by
  cases event with
  | deviceReceive terminal count =>
    dsimp only [Event.onDevices, deviceReceive]
    split
    · rfl
    · split <;> rfl
  | _ => rfl

theorem line?_receive (devices : Devices) (id count other : Nat) :
    (devices.receive id count).2.line? other = devices.line? other := by
  unfold receive
  split
  · rfl
  · split
    · rfl
    · split <;> rfl

theorem line?_send (devices : Devices) (id : Nat) (bytes : List UInt8) (other : Nat) :
    (devices.send id bytes).2.line? other = devices.line? other := by
  unfold send
  split
  · rfl
  · split <;> rfl

end Devices
end InstrumentLink
