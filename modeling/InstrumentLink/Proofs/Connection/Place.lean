import InstrumentLink.Proofs.Endpoint.Swap
import InstrumentLink.Proofs.Settings

/-!
The places in a connection where an endpoint can stand. Everything that is done to a connection is done to the endpoint
in one place: `onRole_result` says so for what is done by role, `taken` for changes.
-/

namespace InstrumentLink

inductive Place : Transport → Type where
  | rsnData (command : Endpoint .listener) : Place .listener
  /-- Where an address is only kept. -/
  | rsnCommand (data : Endpoint .listener) : Place .listener
  | tcpData (command : Endpoint .client) : Place .client
  | tcpCommand (data : Endpoint .client) : Place .client
  | udpData : Place .udp
  | serialData : Place .serial

namespace Place

variable {transport : Transport}

def fill : {transport : Transport} → Place transport → Endpoint transport → Connection
  | _, rsnData command, data => .rsn data command
  | _, rsnCommand data, command => .rsn data command
  | _, tcpData command, data => .tcp data command
  | _, tcpCommand data, command => .tcp data command
  | _, udpData, data => .udp data
  | _, serialData, data => .serial data

def role? : {transport : Transport} → Place transport → Option Role
  | _, rsnData _ => some .data
  | _, rsnCommand _ => none
  | _, tcpData _ => some .data
  | _, tcpCommand _ => some .command
  | _, udpData => some .data
  | _, serialData => some .data

def others : {transport : Transport} → Place transport → List (Σ transport, Endpoint transport)
  | _, rsnData command => [⟨_, command⟩]
  | _, rsnCommand data => [⟨_, data⟩]
  | _, tcpData command => [⟨_, command⟩]
  | _, tcpCommand data => [⟨_, data⟩]
  | _, udpData => []
  | _, serialData => []

def rest (place : Place transport) : List Asset := place.others.flatMap fun other => other.2.assets

end Place

namespace Connection

/-- Every endpoint of a connection, also one that only keeps an address. -/
def endpoints : Connection → List (Σ transport, Endpoint transport)
  | rsn data command => [⟨_, data⟩, ⟨_, command⟩]
  | tcp data command => [⟨_, data⟩, ⟨_, command⟩]
  | udp data => [⟨_, data⟩]
  | serial data => [⟨_, data⟩]

def assets (connection : Connection) : List Asset := connection.endpoints.flatMap fun endpoint => endpoint.2.assets

def closings (connection : Connection) : List Deed := connection.endpoints.flatMap fun endpoint => endpoint.2.closings

/-- No endpoint holds anything. -/
def Bare (connection : Connection) : Prop :=
  ∀ ⦃transport : Transport⦄ ⦃endpoint : Endpoint transport⦄,
    ⟨transport, endpoint⟩ ∈ connection.endpoints → endpoint.handle = none

theorem Bare.assets_eq_nil {connection : Connection} (bare : connection.Bare) : connection.assets = [] := by
  rw [assets, List.flatMap_eq_nil_iff]
  rintro ⟨transport, endpoint⟩ member
  exact Endpoint.assets_eq_nil (bare member)

theorem bare_ofSettings (settings : ConnectionSettings) : (ofSettings settings).Bare := by
  intro transport endpoint member
  cases settings with
  | rsn network | tcp network =>
    rcases List.mem_cons.mp member with same | rest
    · cases same
      rfl
    · cases List.mem_singleton.mp rest
      rfl
  | udp network | serial line =>
    cases List.mem_singleton.mp member
    rfl

end Connection

namespace Place

variable {transport : Transport}

theorem endpoint?_fill {place : Place transport} {role : Role} (carries : place.role? = some role)
    (endpoint : Endpoint transport) : (place.fill endpoint).endpoint? role = some ⟨transport, endpoint⟩ := by
  cases place <;> cases carries <;> rfl

theorem role?_ne {place : Place transport} {role other : Role} (carries : place.role? = some role)
    (different : other ≠ role) : place.role? ≠ some other := by
  rw [carries]
  exact fun same => different (Option.some.inj same).symm

theorem endpoint?_fill_apart {place : Place transport} {role : Role} (apart : place.role? ≠ some role)
    (before after : Endpoint transport) : (place.fill after).endpoint? role = (place.fill before).endpoint? role := by
  cases place <;> cases role <;> first | rfl | exact absurd rfl apart

theorem endpoint?_fill_other {place : Place transport} {role other : Role} (carries : place.role? = some role)
    (different : other ≠ role) (before after : Endpoint transport) :
    (place.fill after).endpoint? other = (place.fill before).endpoint? other :=
  endpoint?_fill_apart (role?_ne carries different) before after

theorem mem_endpoints_fill (place : Place transport) (endpoint : Endpoint transport)
    (some : Σ transport, Endpoint transport) :
    some ∈ (place.fill endpoint).endpoints ↔ some = ⟨transport, endpoint⟩ ∨ some ∈ place.others := by
  cases place <;> simp [fill, others, Connection.endpoints, or_comm]

theorem mem_assets_fill (place : Place transport) (endpoint : Endpoint transport) (asset : Asset) :
    asset ∈ (place.fill endpoint).assets ↔ asset ∈ endpoint.assets ∨ asset ∈ place.rest := by
  cases place <;> simp [fill, rest, others, Connection.assets, Connection.endpoints, or_comm]

theorem nodup_assets_fill (place : Place transport) (endpoint : Endpoint transport) :
    (place.fill endpoint).assets.Nodup ↔
      endpoint.assets.Nodup ∧ place.rest.Nodup ∧ ∀ asset ∈ endpoint.assets, asset ∉ place.rest := by
  have apart : ∀ first second : List Asset,
      (first ++ second).Nodup ↔ first.Nodup ∧ second.Nodup ∧ ∀ asset ∈ first, asset ∉ second := by
    intro first second
    rw [List.nodup_append]
    refine and_congr_right fun _ => and_congr_right fun _ => ?_
    exact ⟨fun different asset here there => different asset here asset there rfl,
      fun away asset here other there same => away asset here (same ▸ there)⟩
  have swapped : ∀ first second : List Asset,
      (first ++ second).Nodup ↔ second.Nodup ∧ first.Nodup ∧ ∀ asset ∈ second, asset ∉ first := by
    intro first second
    rw [List.perm_append_comm.nodup_iff]
    exact apart second first
  cases place with
  | rsnData command => simpa [fill, rest, others, Connection.assets, Connection.endpoints] using apart ..
  | rsnCommand data => simpa [fill, rest, others, Connection.assets, Connection.endpoints] using swapped ..
  | tcpData command => simpa [fill, rest, others, Connection.assets, Connection.endpoints] using apart ..
  | tcpCommand data => simpa [fill, rest, others, Connection.assets, Connection.endpoints] using swapped ..
  | udpData => simp [fill, rest, others, Connection.assets, Connection.endpoints]
  | serialData => simp [fill, rest, others, Connection.assets, Connection.endpoints]

end Place

namespace Connection

theorem onRole_result (role : Role) (connection : Connection) :
    (∃ (transport : Transport) (place : Place transport) (endpoint : Endpoint transport),
      connection = place.fill endpoint ∧ place.role? = some role ∧
      connection.endpoint? role = some ⟨transport, endpoint⟩ ∧
      ∀ {α : Type} (act : {transport : Transport} → Endpoint transport → Act (Endpoint transport × α)) (world : World),
        (connection.onRole role act).result world =
          ((place.fill ((act endpoint).result world).1.1, some ((act endpoint).result world).1.2),
            ((act endpoint).result world).2)) ∨
    (connection.endpoint? role = none ∧
      ∀ {α : Type} (act : {transport : Transport} → Endpoint transport → Act (Endpoint transport × α)) (world : World),
        (connection.onRole role act).result world = ((connection, none), world)) := by
  cases connection with
  | rsn data command =>
    cases role with
    | data => exact .inl ⟨_, .rsnData command, data, rfl, rfl, rfl, fun _ _ => rfl⟩
    | command => exact .inr ⟨rfl, fun _ _ => rfl⟩
  | tcp data command =>
    cases role with
    | data => exact .inl ⟨_, .tcpData command, data, rfl, rfl, rfl, fun _ _ => rfl⟩
    | command => exact .inl ⟨_, .tcpCommand data, command, rfl, rfl, rfl, fun _ _ => rfl⟩
  | udp data =>
    cases role with
    | data => exact .inl ⟨_, .udpData, data, rfl, rfl, rfl, fun _ _ => rfl⟩
    | command => exact .inr ⟨rfl, fun _ _ => rfl⟩
  | serial data =>
    cases role with
    | data => exact .inl ⟨_, .serialData, data, rfl, rfl, rfl, fun _ _ => rfl⟩
    | command => exact .inr ⟨rfl, fun _ _ => rfl⟩

theorem onRole_of_absent {role : Role} {connection : Connection} (absent : connection.endpoint? role = none) {α : Type}
    (act : {transport : Transport} → Endpoint transport → Act (Endpoint transport × α)) (world : World) :
    (connection.onRole role act).result world = ((connection, none), world) := by
  rcases connection.onRole_result role with ⟨transport, place, endpoint, rfl, _, found, _⟩ | ⟨_, result⟩
  · rw [found] at absent
    cases absent
  · exact result act world

def ignoredLine (change : Change) (kind : Kind) : LogEntry :=
  ⟨.debug, .connection, change.name ++ " does not apply to " ++ kind.name ++ " connections, ignored"⟩

inductive Taken (change : Change) (connection : Connection) : Prop
  /-- One endpoint is set to another address, and the settings show it. -/
  | stored {transport : Transport} (place : Place transport) (endpoint : Endpoint transport)
      (target : transport.Target) (filled : connection = place.fill endpoint)
      (applies : change.appliesTo connection.kind = true)
      (addressed : ∀ role, place.role? = some role → change.role = role)
      (written : ∀ handle, (place.fill ⟨target, handle⟩).settings = connection.settings.set change)
      (result : ∀ world, (connection.apply change).result world =
        (place.fill ((endpoint.change target).result world).1, ((endpoint.change target).result world).2))
  /-- It is only talked about. -/
  | ignored (foreign : change.appliesTo connection.kind = false)
      (result : ∀ world, (connection.apply change).result world =
        (connection, world.tell [ignoredLine change connection.kind]))

theorem taken (change : Change) (connection : Connection) : connection.Taken change := by
  have isData : ∀ role, some Role.data = some role → Role.data = role := fun _ => Option.some.inj
  have isCommand : ∀ role, some Role.command = some role → Role.command = role := fun _ => Option.some.inj
  -- By kind and field, as the settings of a connection are sent on; only here are all the pairs gone through.
  cases connection with
  | rsn data command =>
    have kept : ∀ role, (Place.rsnCommand data).role? = some role → Role.command = role := fun _ none => nomatch none
    cases change with
    | dataHost host =>
      exact .stored (.rsnData command) data (HostPort.withHost host data.target) rfl rfl isData (fun _ => rfl) fun _ => rfl
    | dataPort port =>
      exact .stored (.rsnData command) data (HostPort.withPort port data.target) rfl rfl isData (fun _ => rfl) fun _ => rfl
    | commandHost host =>
      exact .stored (.rsnCommand data) command (HostPort.withHost host command.target) rfl rfl kept (fun _ => rfl)
        fun _ => rfl
    | commandPort port =>
      exact .stored (.rsnCommand data) command (HostPort.withPort port command.target) rfl rfl kept (fun _ => rfl)
        fun _ => rfl
    | devicePath path => exact .ignored rfl fun _ => rfl
    | baudRate rate => exact .ignored rfl fun _ => rfl
  | tcp data command =>
    cases change with
    | dataHost host =>
      exact .stored (.tcpData command) data (HostPort.withHost host data.target) rfl rfl isData (fun _ => rfl) fun _ => rfl
    | dataPort port =>
      exact .stored (.tcpData command) data (HostPort.withPort port data.target) rfl rfl isData (fun _ => rfl) fun _ => rfl
    | commandHost host =>
      exact .stored (.tcpCommand data) command (HostPort.withHost host command.target) rfl rfl isCommand (fun _ => rfl)
        fun _ => rfl
    | commandPort port =>
      exact .stored (.tcpCommand data) command (HostPort.withPort port command.target) rfl rfl isCommand (fun _ => rfl)
        fun _ => rfl
    | devicePath path => exact .ignored rfl fun _ => rfl
    | baudRate rate => exact .ignored rfl fun _ => rfl
  | udp data =>
    cases change with
    | dataHost host =>
      exact .stored .udpData data (HostPort.withHost host data.target) rfl rfl isData (fun _ => rfl) fun _ => rfl
    | dataPort port =>
      exact .stored .udpData data (HostPort.withPort port data.target) rfl rfl isData (fun _ => rfl) fun _ => rfl
    | commandHost host => exact .ignored rfl fun _ => rfl
    | commandPort port => exact .ignored rfl fun _ => rfl
    | devicePath path => exact .ignored rfl fun _ => rfl
    | baudRate rate => exact .ignored rfl fun _ => rfl
  | serial data =>
    cases change with
    | devicePath path =>
      exact .stored .serialData data (SerialSettings.withPath path data.target) rfl rfl isData (fun _ => rfl) fun _ => rfl
    | baudRate rate =>
      exact .stored .serialData data (SerialSettings.withRate rate data.target) rfl rfl isData (fun _ => rfl) fun _ => rfl
    | dataHost host => exact .ignored rfl fun _ => rfl
    | dataPort port => exact .ignored rfl fun _ => rfl
    | commandHost host => exact .ignored rfl fun _ => rfl
    | commandPort port => exact .ignored rfl fun _ => rfl

theorem apply_foreign {change : Change} {connection : Connection} (foreign : change.appliesTo connection.kind = false)
    (world : World) :
    (connection.apply change).result world = (connection, world.tell [ignoredLine change connection.kind]) := by
  cases connection.taken change with
  | stored place endpoint target filled applies addressed written result =>
    rw [foreign] at applies
    cases applies
  | ignored foreign result => exact result world

end Connection
end InstrumentLink
