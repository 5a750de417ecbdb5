import InstrumentLink.Proofs.Connection.Settings

/-!
The settings that a run ends with do not depend on the network: each field shows what was set last, whatever was opened,
closed, refused or lost in between.
-/

namespace InstrumentLink

def connectionAfter (settings : ConnectionSettings) (moves : List Move) (world : World) : Connection :=
  ((Agent.performAll moves (.ofConnection (.ofSettings settings))).result world).1.connection

variable {settings : ConnectionSettings} {moves : List Move} {world : World}

theorem settings_connectionAfter (untouched : world.Untouched) (settings : ConnectionSettings) (moves : List Move) :
    (connectionAfter settings moves world).settings = settings.kept.setAll (moves.flatMap Move.changes) := by
  have order : (Agent.ofConnection (.ofSettings settings)).connection.InOrder world := .start untouched settings
  calc
    _ = (Connection.ofSettings settings).settings.setAll (moves.flatMap Move.changes) :=
      Agent.settings_performAll order moves
    _ = _ := by rw [Connection.settings_ofSettings]

theorem kind_connectionAfter (untouched : world.Untouched) (settings : ConnectionSettings) (moves : List Move) :
    (connectionAfter settings moves world).kind = settings.kind := by
  rw [← Connection.kind_settings, settings_connectionAfter untouched, ConnectionSettings.kind_setAll,
    ConnectionSettings.kind_kept]

/-- A field that the kind keeps shows its last change, or what the run has started with; any other shows as unset. -/
theorem value?_connectionAfter (untouched : world.Untouched) (settings : ConnectionSettings) (moves : List Move)
    (field : Field) :
    (connectionAfter settings moves world).settings.value? field =
      if settings.kind.keeps field then (Change.lastOf field (moves.flatMap Move.changes)).or (settings.value? field)
      else (ConnectionSettings.unset settings.kind).value? field := by
  rw [settings_connectionAfter untouched, ConnectionSettings.value?_setAll, ConnectionSettings.value?_kept,
    ConnectionSettings.kind_kept]
  by_cases keeps : settings.kind.keeps field = true
  · simp only [keeps, if_true]
  · simp only [keeps, if_false, Bool.false_eq_true]

/-- After any run, in any world, each field that the kind keeps shows the last change of it, or what the run has started
with where it was never changed, and the other fields show as unset. Two runs that agree in this, over whatever networks
and devices and in whatever order, end with the same settings, and the same roles are configured and initialized. -/
theorem settings_are_what_was_set_last (untouched : world.Untouched) (settings : ConnectionSettings)
    (moves : List Move) :
    let final := connectionAfter settings moves world
    final.kind = settings.kind ∧
    (∀ field, final.settings.value? field =
      if settings.kind.keeps field then (Change.lastOf field (moves.flatMap Move.changes)).or (settings.value? field)
      else (ConnectionSettings.unset settings.kind).value? field) ∧
    ∀ {otherWorld : World}, otherWorld.Untouched → ∀ (otherSettings : ConnectionSettings) (otherMoves : List Move),
      otherSettings.kind = settings.kind →
      (∀ field, settings.kind.keeps field = true →
        (Change.lastOf field (otherMoves.flatMap Move.changes)).or (otherSettings.value? field) =
          (Change.lastOf field (moves.flatMap Move.changes)).or (settings.value? field)) →
      let other := connectionAfter otherSettings otherMoves otherWorld
      other.settings = final.settings ∧
        ∀ role, other.isConfigured role = final.isConfigured role ∧ other.isInitialized role = final.isInitialized role := by
  intro final
  refine ⟨kind_connectionAfter untouched settings moves, value?_connectionAfter untouched settings moves, ?_⟩
  intro otherWorld otherUntouched otherSettings otherMoves sameKind agree other
  have kinds : other.settings.kind = final.settings.kind := by
    rw [Connection.kind_settings, Connection.kind_settings, kind_connectionAfter otherUntouched,
      kind_connectionAfter untouched, sameKind]
  have same : other.settings = final.settings := by
    apply ConnectionSettings.ext_value? kinds
    intro field
    rw [value?_connectionAfter otherUntouched, value?_connectionAfter untouched, sameKind]
    by_cases keeps : settings.kind.keeps field = true
    · rw [if_pos keeps, if_pos keeps, agree field keeps]
    · rw [if_neg keeps, if_neg keeps]
  refine ⟨same, fun role => ?_⟩
  have configured := Connection.isConfigured_of_settings same role
  exact ⟨configured, configured⟩

def changedWhileUp : List Move :=
  [.event (.serve ⟨.v4 .localhost, 4001⟩ 1 true), .establish, .change (.dataPort 4002), .change (.commandHost "nowhere"), .poll]

def changedWhileDown : List Move :=
  [.change (.commandHost "elsewhere"), .disconnect .data, .change (.commandHost "nowhere"),
    .override { Options.default with dataPort := some 4002 }]

/-- Both runs end alike. -/
theorem settings_are_what_was_set_last_changed :
    (connectionAfter (.tcp ⟨"127.0.0.1", 4001, "", 0⟩) changedWhileUp (.ofRoutes .loopback)).settings =
        .tcp ⟨"127.0.0.1", 4002, "nowhere", 0⟩ ∧
      (connectionAfter (.tcp ⟨"127.0.0.1", 4001, "", 0⟩) changedWhileDown (.ofRoutes .loopback)).settings =
        .tcp ⟨"127.0.0.1", 4002, "nowhere", 0⟩ := by
  have last := settings_are_what_was_set_last (.ofRoutes .loopback) (.tcp ⟨"127.0.0.1", 4001, "", 0⟩) changedWhileUp
  have final : (connectionAfter (.tcp ⟨"127.0.0.1", 4001, "", 0⟩) changedWhileUp (.ofRoutes .loopback)).settings =
      .tcp ⟨"127.0.0.1", 4002, "nowhere", 0⟩ := by
    apply ConnectionSettings.ext_value?
    · rw [Connection.kind_settings, last.1]
      rfl
    · intro field
      rw [last.2.1]
      cases field <;> decide
  refine ⟨final, final ▸ (last.2.2 (.ofRoutes .loopback) _ changedWhileDown rfl fun field _ => ?_).1⟩
  cases field <;> decide

end InstrumentLink
