import InstrumentLink.Proofs.Endpoint.Taking

/-!
What tells of letting go. Of all that an endpoint says only lines of one beginning do, and it says one when it lets go
of what it holds, whatever else it says.
-/

namespace InstrumentLink

namespace Transport

def closingHeading : Transport → String
  | .client => "Shutdown socket to "
  | .listener => "Closed listener on port "
  | .udp => "Closed UDP socket to "
  | .serial => "Closed serial device "

end Transport

def Request.transport : Request → Transport
  | listen _ => .listener
  | connect _ => .client
  | associate _ => .udp
  | openLine _ _ => .serial

theorem transport_of_request? {transport : Transport} {names : HostNames} {target : transport.Target}
    {request : Request} (asked : transport.request? names target = .ok request) : request.transport = transport := by
  cases transport with
  | client => obtain ⟨remote, _, rfl⟩ := map_eq_ok asked; rfl
  | listener => obtain ⟨address, _, rfl⟩ := map_eq_ok asked; rfl
  | udp => obtain ⟨remote, _, rfl⟩ := map_eq_ok asked; rfl
  | serial => cases asked; rfl

theorem not_isPrefixOf_append {heading word : String}
    (apart : ∀ rest, heading.toList.isPrefixOf (word.toList ++ rest) = false) (rest : String) :
    heading.toList.isPrefixOf (word ++ rest).toList = false := by
  rw [String.toList_append]
  exact apart _

def LogEntry.isClosing (transport : Transport) (entry : LogEntry) : Bool :=
  entry.level = .debug && entry.origin = .transport transport &&
    transport.closingHeading.toList.isPrefixOf entry.text.toList

namespace LogEntry

variable {transport : Transport}

theorem isClosing_closingText (target : transport.Target) :
    isClosing transport ⟨.debug, .transport transport, transport.closingText target⟩ = true := by
  have begins : transport.closingHeading.toList.isPrefixOf (transport.closingText target).toList = true := by
    rw [List.isPrefixOf_iff_prefix]
    cases transport <;> exact ⟨_, String.toList_append.symm⟩
  rw [isClosing, begins]
  simp

theorem isClosing_describe (level : Level) (origin : Origin) (target : transport.Target) (what : String) :
    isClosing transport ⟨level, origin, transport.describe target ++ what⟩ = false := by
  have apart : transport.closingHeading.toList.isPrefixOf (transport.describe target ++ what).toList = false := by
    cases transport <;>
      simp only [Transport.describe, String.append_assoc] <;>
      exact not_isPrefixOf_append (fun _ => rfl) _
  rw [isClosing, apart, Bool.and_false]

theorem isClosing_request (request : Request) (level : Level) (origin : Origin) :
    isClosing request.transport ⟨level, origin, request.text⟩ = false := by
  have apart : request.transport.closingHeading.toList.isPrefixOf request.text.toList = false := by
    cases request with
    | openLine path baudRate =>
      have text : (Request.openLine path baudRate).text =
          "Opened " ++ (path ++ (" @ " ++ (toString baudRate.toNat ++ " baud"))) := by
        change "Opened " ++ path ++ " @ " ++ toString baudRate.toNat ++ " baud" = _
        rw [String.append_assoc, String.append_assoc, String.append_assoc]
      rw [text]
      change "Closed serial device ".toList.isPrefixOf _ = false
      exact not_isPrefixOf_append (fun _ => rfl) _
    | listen address =>
      change "Closed listener on port ".toList.isPrefixOf _ = false
      exact not_isPrefixOf_append (fun _ => rfl) _
    | connect remote =>
      change "Shutdown socket to ".toList.isPrefixOf _ = false
      exact not_isPrefixOf_append (fun _ => rfl) _
    | associate remote =>
      change "Closed UDP socket to ".toList.isPrefixOf _ = false
      exact not_isPrefixOf_append (fun _ => rfl) _
  rw [isClosing, apart, Bool.and_false]

theorem isClosing_of_origin {entry : LogEntry} (other : entry.origin ≠ .transport transport) :
    entry.isClosing transport = false := by
  simp [isClosing, other]

end LogEntry

def World.closings (transport : Transport) (world : World) : List String :=
  (world.log.filter (·.isClosing transport)).map LogEntry.text

/-- What is said of letting go between two worlds, and what is noted. -/
structure World.Told (transport : Transport) (lines : List String) (deeds : List Deed) (world later : World) :
    Prop where
  said : later.closings transport = world.closings transport ++ lines
  noted : later.journal = world.journal ++ deeds

namespace World.Told

variable {transport : Transport} {world middle later : World} {lines more : List String} {deeds rest : List Deed}

theorem refl (world : World) : World.Told transport [] [] world world :=
  ⟨(List.append_nil _).symm, (List.append_nil _).symm⟩

theorem trans (first : World.Told transport lines deeds world middle)
    (second : World.Told transport more rest middle later) :
    World.Told transport (lines ++ more) (deeds ++ rest) world later where
  said := by rw [second.said, first.said, List.append_assoc]
  noted := by rw [second.noted, first.noted, List.append_assoc]

theorem of_log (log : later.log = world.log) (noted : later.journal = world.journal ++ deeds) :
    World.Told transport [] deeds world later :=
  ⟨by rw [World.closings, log, List.append_nil]; rfl, noted⟩

theorem of_entries {entries : List LogEntry} (log : later.log = world.log ++ entries)
    (other : ∀ entry ∈ entries, entry.isClosing transport = false)
    (noted : later.journal = world.journal ++ deeds) :
    World.Told transport [] deeds world later := by
  refine ⟨?_, noted⟩
  have none : entries.filter (·.isClosing transport) = [] := by
    refine List.filter_eq_nil_iff.mpr fun entry member => ?_
    simp [other entry member]
  rw [World.closings, log, List.filter_append, none, List.append_nil, List.append_nil]
  rfl

theorem of_talk {entries : List LogEntry} (other : ∀ entry ∈ entries, entry.isClosing transport = false)
    (world : World) : World.Told transport [] [] world (world.tell entries) :=
  .of_entries (world.tell_log entries) other (List.append_nil _).symm

theorem tell (told : World.Told transport lines deeds world later) {entries : List LogEntry}
    (other : ∀ entry ∈ entries, entry.isClosing transport = false) :
    World.Told transport lines deeds world (later.tell entries) := by
  simpa using told.trans (.of_talk other later)

theorem after_tell {entries : List LogEntry} (other : ∀ entry ∈ entries, entry.isClosing transport = false)
    (told : World.Told transport lines deeds (world.tell entries) later) :
    World.Told transport lines deeds world later := by
  simpa using (of_talk other world).trans told

end World.Told

namespace Listener

/-- What is done about a peer is said in other words, and closes no more than the peer. -/
def Minor (listener : Listener) (world later : World) : Prop :=
  ∃ deeds, World.Told .listener [] deeds world later ∧
    ∀ id, Deed.close id ∈ deeds → listener.peer = some id

variable (listener : Listener) (world : World)

theorem minor_livePeer? : listener.Minor world (listener.livePeer?.result world).2 := by
  refine ⟨[], ?_, by simp⟩
  unfold livePeer?
  cases listener.peer with
  | none => exact .refl world
  | some peer => exact .of_log rfl (List.append_nil _).symm

theorem minor_dropPeer : listener.Minor world (listener.dropPeer.result world).2 := by
  unfold dropPeer
  cases had : listener.peer with
  | none => exact ⟨[], .refl world, by simp⟩
  | some peer => exact ⟨_, .of_log (World.log_shut (.peer peer) world) (World.journal_shut (.peer peer) world),
      by simp [Parting.peer, Parting.deeds, had]⟩

theorem minor_releaseClosedPeer : listener.Minor world (listener.releaseClosedPeer.result world).2 := by
  rw [releaseClosedPeer_result]
  cases had : listener.peer with
  | none => exact ⟨[], .refl world, by simp⟩
  | some peer =>
    dsimp only
    split
    · exact ⟨_, .of_entries rfl (by decide) rfl, by simp [had]⟩
    · exact ⟨[], .refl world, by simp⟩

theorem isClosing_replacedLine (address : SocketAddress) : (replacedLine address).isClosing .listener = false := by
  have apart : Transport.listener.closingHeading.toList.isPrefixOf
      ("Replacing previous peer with " ++ address.text).toList = false := not_isPrefixOf_append (fun _ => rfl) _
  rw [LogEntry.isClosing, replacedLine, apart, Bool.and_false]

theorem isClosing_acceptedLine (address : SocketAddress) : (acceptedLine address).isClosing .listener = false := by
  simp [acceptedLine, LogEntry.isClosing]

theorem minor_acceptPeer (sound : world.Sound) : listener.Minor world (listener.acceptPeer.result world).2 := by
  rcases outcome : (world.network.accept .agent listener.socket).1 with error | _ | ⟨next, address⟩
  · rw [acceptPeer, Act.result_bind, Act.result_accept, outcome]
    exact ⟨[], .of_log rfl rfl, by simp⟩
  · rw [acceptPeer, Act.result_bind, Act.result_accept, outcome]
    exact ⟨[], .of_log rfl rfl, by simp⟩
  · rw [acceptPeer_result sound outcome]
    cases had : listener.peer with
    | none =>
      refine ⟨[.accept listener.socket next], .of_entries rfl ?_ rfl, by simp⟩
      simp [isClosing_acceptedLine]
    | some peer =>
      refine ⟨_, .of_entries rfl ?_ rfl, by simp [had]⟩
      simp [isClosing_replacedLine, isClosing_acceptedLine]

end Listener

namespace Endpoint

variable {transport : Transport} {endpoint : Endpoint transport} {world : World}

def closingTexts (endpoint : Endpoint transport) : List String :=
  if endpoint.hasHandle then [transport.closingText endpoint.target] else []

theorem closings_closingLines (endpoint : Endpoint transport) :
    (endpoint.closingLines.filter (·.isClosing transport)).map LogEntry.text = endpoint.closingTexts := by
  unfold closingLines closingTexts
  split
  · rw [List.filter_cons_of_pos (LogEntry.isClosing_closingText endpoint.target)]
    rfl
  · rfl

theorem told_afterRelease (endpoint : Endpoint transport) (world : World) :
    World.Told transport endpoint.closingTexts endpoint.closings world
      (endpoint.afterRelease world) := by
  refine ⟨?_, journal_afterRelease endpoint world⟩
  rw [World.closings, log_afterRelease, List.filter_append, List.map_append, closings_closingLines]
  rfl

theorem told_raise (endpoint : Endpoint transport) (world : World) :
    ∃ deeds, World.Told transport [] deeds world (endpoint.raise.result world).2 := by
  rw [raise_result]
  split
  · exact ⟨[], .refl world⟩
  next request asked =>
    have log := World.log_request request world
    have journal := World.journal_request request world
    split
    · exact ⟨_, .of_log log journal⟩
    · refine ⟨_, .of_entries (congrArg (· ++ _) log) (fun entry member => ?_) journal⟩
      rw [List.mem_singleton.mp member, ← transport_of_request? asked]
      exact LogEntry.isClosing_request request ..

theorem told_reopen (endpoint : Endpoint transport) (world : World) :
    ∃ rest, World.Told transport endpoint.closingTexts (endpoint.closings ++ rest) world
      (endpoint.reopen.result world).2 := by
  rw [reopen_result]
  obtain ⟨rest, raised⟩ := told_raise endpoint.released (endpoint.afterRelease world)
  exact ⟨rest, by simpa using (told_afterRelease endpoint world).trans raised⟩

theorem isClosing_endpoint {level : Level} {text : String} :
    ∀ entry ∈ [(⟨level, .endpoint, text⟩ : LogEntry)], entry.isClosing transport = false := by
  intro entry member
  rw [List.mem_singleton.mp member]
  exact LogEntry.isClosing_of_origin (by simp)

theorem told_raiseMoved (endpoint : Endpoint transport) (world : World) :
    ∃ deeds, World.Told transport [] deeds world (endpoint.raiseMoved.result world).2 := by
  unfold raiseMoved
  split
  · exact ⟨_, (World.Told.refl world).tell isClosing_endpoint⟩
  · obtain ⟨deeds, raised⟩ := endpoint.told_raise world
    simp only [Act.result_bind]
    split
    · exact ⟨deeds, raised⟩
    · exact ⟨deeds, raised.tell isClosing_endpoint⟩

theorem told_afterMove (target : transport.Target) (endpoint : Endpoint transport) (world : World) :
    World.Told transport (endpoint.moved target).closingTexts endpoint.closings world
      (endpoint.afterMove target world) := by
  refine World.Told.after_tell ?_ (told_afterRelease (endpoint.moved target) _)
  unfold changedLines
  split
  · exact isClosing_endpoint
  · simp

end Endpoint
end InstrumentLink
