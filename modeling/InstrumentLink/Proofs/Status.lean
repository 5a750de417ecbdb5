import InstrumentLink.Proofs.Report

/-!
What a status looks like as text. A status that makes sense can be told from its text, and the status of a connection
whose books are in order makes sense.
-/

namespace InstrumentLink

theorem append_comma_inj {first second rest other : List Char} (plain : ',' ∉ first) (plainSecond : ',' ∉ second)
    (same : first ++ ',' :: rest = second ++ ',' :: other) : first = second ∧ rest = other := by
  have upTo : ∀ {word : List Char} (tail : List Char), ',' ∉ word →
      (word ++ ',' :: tail).takeWhile (· ≠ ',') = word := by
    intro word tail absent
    rw [List.takeWhile_append_of_pos fun char member => decide_eq_true (by rintro rfl; exact absent member)]
    simp
  have words : first = second := by rw [← upTo rest plain, same, upTo other plainSecond]
  subst words
  exact ⟨rfl, (List.cons.inj (List.append_cancel_left same)).2⟩

/-- What is connected is configured, and what is configured is supported. -/
structure RoleState.Sensible (state : RoleState) : Prop where
  configured : state.connected = true → state.configured = true
  supported : state.configured = true → state.supported = true

namespace RoleState

theorem comma_notMem_text (state : RoleState) : ',' ∉ state.text.toList := by
  obtain ⟨supported, configured, connected⟩ := state
  cases supported <;> cases configured <;> cases connected <;> decide

theorem text_inj {first second : RoleState} (sensible : first.Sensible) (sensibleSecond : second.Sensible)
    (same : first.text = second.text) : first = second := by
  obtain ⟨supported, configured, connected⟩ := first
  obtain ⟨supportedSecond, configuredSecond, connectedSecond⟩ := second
  obtain ⟨first, middle⟩ := sensible
  obtain ⟨last, other⟩ := sensibleSecond
  revert first middle last other same
  cases supported <;> cases configured <;> cases connected <;> cases supportedSecond <;> cases configuredSecond <;>
    cases connectedSecond <;> decide

end RoleState

/-- Each role makes sense by itself. -/
def Status.Sensible (status : Status) : Prop := ∀ role, (status.role role).Sensible

namespace Status

theorem peerText_inj {first second : Option Bool}
    (same : (peerText first).toList ++ [','] = (peerText second).toList ++ [',']) : first = second := by
  revert same
  rcases first with _ | _ | _ <;> rcases second with _ | _ | _ <;> decide

theorem exists_peerText (peer : Option Bool) : ∃ rest, (peerText peer).toList ++ [','] = ',' :: rest := by
  rcases peer with _ | _ | _ <;> exact ⟨_, rfl⟩

theorem text_inj {first second : Status} (sensible : first.Sensible) (sensibleSecond : second.Sensible)
    (same : first.text = second.text) : first = second := by
  obtain ⟨data, command, peer⟩ := first
  obtain ⟨dataSecond, commandSecond, peerSecond⟩ := second
  have chars : data.text.toList ++ ',' :: (" command: ".toList ++ command.text.toList ++ (peerText peer).toList) =
      dataSecond.text.toList ++ ',' ::
        (" command: ".toList ++ commandSecond.text.toList ++ (peerText peerSecond).toList) := by
    have whole := congrArg String.toList same
    simp only [text, String.toList_append, List.append_assoc] at whole
    simpa using List.append_cancel_left whole
  obtain ⟨sameData, rest⟩ := append_comma_inj data.comma_notMem_text dataSecond.comma_notMem_text chars
  obtain ⟨tail, shown⟩ := exists_peerText peer
  obtain ⟨tailSecond, shownSecond⟩ := exists_peerText peerSecond
  have closed : command.text.toList ++ ',' :: tail = commandSecond.text.toList ++ ',' :: tailSecond := by
    rw [List.append_assoc, List.append_assoc] at rest
    rw [← shown, ← shownSecond, ← List.append_assoc, ← List.append_assoc, List.append_cancel_left rest]
  obtain ⟨sameCommand, sameTail⟩ := append_comma_inj command.comma_notMem_text commandSecond.comma_notMem_text closed
  have dataSame : data = dataSecond :=
    RoleState.text_inj (sensible .data) (sensibleSecond .data) (String.toList_inj.mp sameData)
  have commandSame : command = commandSecond :=
    RoleState.text_inj (sensible .command) (sensibleSecond .command) (String.toList_inj.mp sameCommand)
  have peerSame : peer = peerSecond := peerText_inj (by rw [shown, shownSecond, sameTail])
  rw [dataSame, commandSame, peerSame]

end Status

namespace Connection

variable {connection : Connection} {world : World}

theorem role_status (order : connection.InOrder world) (role : Role) :
    (connection.status.result world).1.role role =
      ⟨connection.kind.supports role, connection.isConfigured role,
        connection.live role (connection.peerAttached.result world).2⟩ := by
  have kept := order.peerAttached_kept
  rw [Connection.status, Act.result_bind, Act.result_bind, isConnected_result kept.sound.network, Act.result_bind,
    isConnected_result kept.sound.network]
  cases role <;> rfl

theorem sensible_status (order : connection.InOrder world) : (connection.status.result world).1.Sensible := by
  intro role
  rw [role_status order]
  have later := order.of_kept order.peerAttached_kept
  constructor
  · intro up
    obtain ⟨transport, endpoint, handle, found, held⟩ := exists_of_live up
    rw [isConfigured_of_endpoint? found]
    exact (later.fits (mem_endpoints found)).isConfigured held
  · intro set
    change connection.kind.supports role = true
    rw [supports_eq]
    cases found : connection.endpoint? role with
    | none =>
      rw [isConfigured, found] at set
      cases set
    | some endpoint => rfl

end Connection
end InstrumentLink
