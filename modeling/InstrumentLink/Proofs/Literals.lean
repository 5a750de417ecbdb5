import InstrumentLink.Address.Socket
import InstrumentLink.Proofs.Address.IPv6

/-!
A host that is an address in its usual form means that address, and nobody is asked for it. Where the system reads
such a host as well, in four plain numbers, it reads the same.
-/

namespace InstrumentLink

theorem IPv4.toList_text (ip : IPv4) : ip.text.toList = ip.chars := String.toList_ofList

theorem IPv6.toList_text (ip : IPv6) : ip.text.toList = ip.chars := String.toList_ofList

namespace IpAddress

theorem ofLiteral?_v4 (ip : IPv4) : ofLiteral? ip.text = some (.v4 ip) := by
  rw [ofLiteral?, ip.toList_text, IPv4.read?_eq_some_iff.mpr rfl]
  rfl

theorem ofLiteral?_v6 (ip : IPv6) : ofLiteral? ip.text = some (.v6 ip 0) := by
  have notV4 : IPv4.read? ip.chars = none := by
    refine Option.eq_none_iff_forall_ne_some.mpr fun other read => other.colon_notMem_chars ?_
    rw [← IPv4.read?_eq_some_iff.mp read]
    exact ip.colon_mem_chars
  rw [ofLiteral?, ip.toList_text, notV4, ip.read?_chars]
  rfl

/-- Four plain numbers are the same address as a literal and for the system, or no address for both. -/
theorem ofLiteral?_of_isDottedQuad {host : String} (quad : IPv4.IsDottedQuad host.toList) :
    ofLiteral? host = numericHosts host := by
  have noColon : IPv6.read? host.toList = none := IPv6.read?_of_colon_notMem (quad.notMem (by decide) (by decide))
  have noScope : ofScoped? host.toList = none := by
    have percent : '%' ∉ host.toList := quad.notMem (by decide) (by decide)
    have behind : host.toList.dropWhile (· ≠ '%') = [] := by
      refine List.dropWhile_eq_nil_iff.mpr fun c member => decide_eq_true ?_
      exact ne_of_mem_of_not_mem member percent
    rw [ofScoped?, behind]
  rw [ofLiteral?, numericHosts, quad.readLoose?_eq, noColon, noScope]
  rfl

end IpAddress

theorem resolve_of_ofLiteral? {host : String} {ip : IpAddress} (literal : IpAddress.ofLiteral? host = some ip)
    (names : HostNames) (port : UInt16) : resolve names host port = .ok ⟨ip, port⟩ := by
  rw [resolve, literal]
  rfl

theorem resolve_cases (names : HostNames) (host : String) (port : UInt16) :
    (∃ ip, resolve names host port = .ok ⟨ip, port⟩) ∨ resolve names host port = .error (.resolve host port) := by
  unfold resolve
  split
  next ip _ => exact .inl ⟨ip, rfl⟩
  next => exact .inr rfl

theorem IPv4.isDottedQuad_text (ip : IPv4) : IPv4.IsDottedQuad ip.text.toList := by
  rw [ip.toList_text, ip.chars_eq_decimals]
  exact IPv4.isDottedQuad_iff.mpr ⟨_, _, _, _, rfl⟩

/-- An address in its usual form, IPv4 or IPv6, is what the host means for every port, whatever the system would say.
Every IPv6 address is read from what is written for it. Any host at all has an address, with the port that was asked for,
or is told with its port as not found. Four plain numbers with points between them are read alike as a literal and by the
system, so that it does not matter which of the two decides; the text of an IPv4 address is such a host. -/
theorem literals_stand_for_themselves :
    (∀ (names : HostNames) (port : UInt16),
      (∀ ip : IPv4, resolve names ip.text port = .ok ⟨.v4 ip, port⟩) ∧
      (∀ ip : IPv6, resolve names ip.text port = .ok ⟨.v6 ip 0, port⟩) ∧
      ∀ host, (∃ ip, resolve names host port = .ok ⟨ip, port⟩) ∨
        resolve names host port = .error (.resolve host port)) ∧
    (∀ ip : IPv6, IPv6.read? ip.text.toList = some ip) ∧
    (∀ host : String, IPv4.IsDottedQuad host.toList →
      IPv4.readLoose? host.toList = IPv4.read? host.toList ∧ numericHosts host = IpAddress.ofLiteral? host) ∧
    ∀ ip : IPv4, IPv4.IsDottedQuad ip.text.toList ∧ numericHosts ip.text = some (.v4 ip) := by
  refine ⟨fun names port => ⟨fun ip => ?_, fun ip => ?_, fun host => resolve_cases names host port⟩, fun ip => ?_,
    fun host quad => ⟨quad.readLoose?_eq, ?_⟩, fun ip => ⟨ip.isDottedQuad_text, ?_⟩⟩
  · exact resolve_of_ofLiteral? (IpAddress.ofLiteral?_v4 ip) names port
  · exact resolve_of_ofLiteral? (IpAddress.ofLiteral?_v6 ip) names port
  · rw [ip.toList_text, ip.read?_chars]
  · exact (IpAddress.ofLiteral?_of_isDottedQuad quad).symm
  · rw [← IpAddress.ofLiteral?_of_isDottedQuad ip.isDottedQuad_text, IpAddress.ofLiteral?_v4]

theorem literals_stand_for_themselves_byte : IPv4.IsDottedQuad "10.0.0.255".toList ∧
    IPv4.readLoose? "10.0.0.255".toList = IPv4.read? "10.0.0.255".toList ∧
    numericHosts "10.0.0.255" = IpAddress.ofLiteral? "10.0.0.255" ∧
    IpAddress.ofLiteral? "10.0.0.255" = some (.v4 ⟨10, 0, 0, 255⟩) := by
  have quad : IPv4.IsDottedQuad "10.0.0.255".toList := IPv4.isDottedQuad_iff.mpr ⟨10, 0, 0, 255, by decide⟩
  obtain ⟨loose, system⟩ := literals_stand_for_themselves.2.2.1 "10.0.0.255" quad
  exact ⟨quad, loose, system, by decide⟩

/-- With a leading zero the two differ: the literal is none, and the system takes the number as an octal one. -/
example : IPv4.read? "10.0.0.010".toList = none ∧ IPv4.readLoose? "10.0.0.010".toList = some ⟨10, 0, 0, 8⟩ := by decide

end InstrumentLink
