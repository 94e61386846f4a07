import Atolla.Base

/-!
# Endpoints and sockets (`udp_socket`)

The socket is the operating system's. What the code sees of it is modelled: the endpoint of a sender
(`udp_socket_bsdlike.cpp`), and what a receive call leaves in the buffer.
-/

set_option autoImplicit false

namespace Atolla

/-- `UdpEndpoint`: the bytes of a `sockaddr_storage` and how many of them count. -/
structure UdpEndpoint where
  addr : Bytes
  addrLen : Nat
  deriving DecidableEq

/-- `udp_endpoint_equal`. -/
def udpEndpointEqual (a b : UdpEndpoint) : Bool :=
  if a.addrLen ≠ b.addrLen then false else a.addr.take a.addrLen == b.addr.take a.addrLen

/-- A datagram on its way and where it comes from. -/
structure Datagram where
  bytes : Bytes
  sender : UdpEndpoint

/-- `udp_socket_receive_from` into a buffer of `maxPacketSize` bytes: the buffer, the received length and the sender,
or nothing. A datagram that is too long is cut, and an empty one counts as nothing received. -/
def udpSocketReceiveFrom (packetData : Bytes) (maxPacketSize : Nat) :
    Option Datagram → Option (Bytes × Nat × UdpEndpoint)
  | none => none
  | some datagram =>
    let received := datagram.bytes.take maxPacketSize
    if received.length = 0 then none
    else some (received ++ packetData.drop received.length, received.length, datagram.sender)

theorem udpEndpointEqual_iff {a b : UdpEndpoint} :
    udpEndpointEqual a b = true ↔ a.addrLen = b.addrLen ∧ a.addr.take a.addrLen = b.addr.take a.addrLen := by
  unfold udpEndpointEqual
  split
  · simp_all
  · simp_all

@[simp] theorem udpEndpointEqual_refl (a : UdpEndpoint) : udpEndpointEqual a a = true := by
  simp [udpEndpointEqual_iff]

theorem udpEndpointEqual_symm {a b : UdpEndpoint} (h : udpEndpointEqual a b = true) :
    udpEndpointEqual b a = true := by
  rw [udpEndpointEqual_iff] at h ⊢
  exact ⟨h.1.symm, by rw [← h.1]; exact h.2.symm⟩

theorem udpEndpointEqual_comm (a b : UdpEndpoint) : udpEndpointEqual a b = udpEndpointEqual b a :=
  Bool.eq_iff_iff.mpr ⟨udpEndpointEqual_symm, udpEndpointEqual_symm⟩

theorem udpEndpointEqual_trans {a b c : UdpEndpoint} (h₁ : udpEndpointEqual a b = true)
    (h₂ : udpEndpointEqual b c = true) : udpEndpointEqual a c = true := by
  rw [udpEndpointEqual_iff] at h₁ h₂ ⊢
  exact ⟨h₁.1.trans h₂.1, h₁.2.trans (by rw [h₁.1]; exact h₂.2)⟩

/-- Equal endpoints are equal to the same ones. -/
theorem udpEndpointEqual_congr {a b : UdpEndpoint} (h : udpEndpointEqual a b = true) (x : UdpEndpoint) :
    udpEndpointEqual x a = udpEndpointEqual x b :=
  Bool.eq_iff_iff.mpr ⟨fun h' => udpEndpointEqual_trans h' h,
    fun h' => udpEndpointEqual_trans h' (udpEndpointEqual_symm h)⟩

/-- A datagram that fits is received as it is. -/
theorem udpSocketReceiveFrom_fits {packetData bytes : Bytes} {maxPacketSize : Nat} (sender : UdpEndpoint)
    (h : bytes ≠ []) (hb : bytes.length ≤ maxPacketSize) :
    udpSocketReceiveFrom packetData maxPacketSize (some ⟨bytes, sender⟩) =
      some (bytes ++ packetData.drop bytes.length, bytes.length, sender) := by
  have hpos := List.length_pos_iff.mpr h
  simp only [udpSocketReceiveFrom, List.take_of_length_le hb]
  rw [if_neg (by omega)]

end Atolla
