import Atolla.Udp
import Mathlib.Logic.Function.Basic

/-!
# Sockets of the operating system (`udp_socket_bsdlike.cpp`)

The functions of `udp_socket` over the handles of a process. The operating system is not part of the code: what it
answers to a system call, the handle of a new socket, the addresses of a host or an error, is an argument. What a call
does to the table of the process is what its documentation says (`sysSocket`, `sysClose`, ...). Of every handle the
table also has its owner, a history that the code never reads. The branches for Windows are left out.
-/

set_option autoImplicit false

namespace Atolla

open Loop

/-! ## Results -/

/-- The values of `errno` that the code looks at. -/
inductive Errno where
  | eacces
  | eagain
  | ewouldblock
  | edestaddrreq
  | emsgsize
  | ebadf
  | other (n : Nat)
  deriving DecidableEq

/-- `UdpSocketResultCode`. -/
inductive UdpSocketResultCode where
  | ok
  | errSocketIsNull
  | errPlatformInitFailed
  | errSocketCreationFailed
  | errPortInUse
  | errSetNonblockingFailed
  | errResolveHostnameFailed
  | errConnectFailed
  | errBadBroadcast
  | errWouldblock
  | errNoReceiver
  | errPacketTooBig
  | errSendFailed
  | errFreeFailed
  | errNothingReceived
  | errReceiveFailed
  deriving DecidableEq, Repr

/-- `UdpSocketResult`. -/
structure UdpSocketResult where
  code : UdpSocketResultCode
  msg : Option String
  deriving DecidableEq

/-- `make_success_result`. -/
def makeSuccessResult : UdpSocketResult := ⟨.ok, none⟩

/-- `make_err_result`. -/
def makeErrResult (code : UdpSocketResultCode) (msg : String) : Run UdpSocketResult := do
  assert (code ≠ .ok)
  return ⟨code, some msg⟩

def msgSocketIsNull : String := "The given UdpSocket is NULL"

def msgSocketCreationFailed : String := "Failed to create the socket"

def msgPortInUse : String := "Failed to bind the socket to the given port, is it already in use?"

def msgSetNonblockingFailed : String := "Failed to set a newly created socket to non-blocking mode"

def msgBadBroadcast : String :=
  "An attempt was made to send to a network/broadcast address as though it was a unicast address"

def msgWouldblock : String :=
  "The send call would block, but the socket is non-blocking, the most likely reason is that too much data was sent " ++
    "at once"

def msgNoReceiver : String := "Tried to send data but no receiver is set"

def msgPacketTooBig : String := "The given message is too large to send it in one piece"

def msgNothingReceived : String := "No received data is available right now"

/-! ## The process -/

/-- What the platform fixes: the texts of its errors, and `UDP_SOCKET_IPV4_ONLY`. -/
structure Posix where
  strerror : Errno → String
  gaiStrerror : Int → String
  /-- `EAI_SYSTEM`. -/
  eaiSystem : Int
  ipv4Only : Bool

/-- A socket of the operating system. -/
structure OsSocket (κ : Type) where
  /-- History: who opened it. -/
  owner : κ
  port : Option UInt16
  nonblocking : Bool
  peer : Option UdpEndpoint

/-- The open handles of a process, and `errno`. -/
structure Process (κ : Type) where
  table : Nat → Option (OsSocket κ)
  errno : Errno

/-- `UdpSocket`. -/
structure UdpSocket where
  socketHandle : Int
  deriving DecidableEq

section System

variable {κ : Type}

/-- The entry of a handle. -/
def Process.find (p : Process κ) (handle : Int) : Option (OsSocket κ) :=
  if 0 ≤ handle then p.table handle.toNat else none

/-- A change of the entry of a handle. -/
def Process.set (p : Process κ) (handle : Int) (entry : Option (OsSocket κ)) : Process κ :=
  if 0 ≤ handle then { p with table := Function.update p.table handle.toNat entry } else p

/-- `socket`: a handle that is not open, or a failure. -/
def sysSocket (p : Process κ) (owner : κ) : Option Nat → Int × Process κ
  | some n => (n, p.set n (some ⟨owner, none, false, none⟩))
  | none => (-1, p)

/-- `bind`. -/
def sysBind (p : Process κ) (handle : Int) (port : UInt16) (binds : Bool) : Int × Process κ :=
  if binds then (0, p.set handle ((p.find handle).map fun s => { s with port := some port })) else (-1, p)

/-- `fcntl` with `O_NONBLOCK`. -/
def sysSetNonblocking (p : Process κ) (handle : Int) (sets : Bool) : Int × Process κ :=
  if sets then (0, p.set handle ((p.find handle).map fun s => { s with nonblocking := true })) else (-1, p)

/-- What `close` answers for an open handle. -/
inductive CloseAnswer where
  | closed
  /-- It fails, whether or not the handle is closed by then. -/
  | failed (errno : Errno) (released : Bool)

/-- `close`. -/
def sysClose (p : Process κ) (handle : Int) (answer : CloseAnswer) : Int × Process κ :=
  match p.find handle, answer with
  | none, _ => (-1, { p with errno := .ebadf })
  | some _, .closed => (0, p.set handle none)
  | some _, .failed errno released =>
    (-1, { (if released then p.set handle none else p) with errno := errno })

/-- What `connect` answers for an open handle. -/
inductive ConnectAnswer where
  | connected
  /-- It fails; which peer the socket has then is not specified. -/
  | failed (errno : Errno) (peer : Option UdpEndpoint)
  deriving DecidableEq

def ConnectAnswer.accepts : ConnectAnswer → Bool
  | .connected => true
  | .failed _ _ => false

/-- `connect`; no endpoint stands for `AF_UNSPEC`. -/
def sysConnect (p : Process κ) (handle : Int) (peer : Option UdpEndpoint) (answer : ConnectAnswer) : Int × Process κ :=
  match p.find handle, answer with
  | none, _ => (-1, { p with errno := .ebadf })
  | some s, .connected => (0, p.set handle (some { s with peer := peer }))
  | some s, .failed errno left => (-1, { p.set handle (some { s with peer := left }) with errno := errno })

end System

/-! ## Opening and closing -/

/-- What the system answers while a socket is opened. -/
structure OpenAnswers where
  socket : Option Nat
  setsockopt : Bool
  bind : Bool
  fcntl : Bool
  /-- Behind an `fcntl` that failed. -/
  close : CloseAnswer

section Open

variable {κ : Type} (P : Posix) (owner : κ) (os : OpenAnswers) (p : Process κ)

/-- `udp_socket_create_socket`. -/
def udpSocketCreateSocket (port : UInt16) : Run (UdpSocketResult × UdpSocket × Process κ) := do
  let (handle, p) := sysSocket p owner os.socket
  let sock : UdpSocket := ⟨handle⟩
  if handle ≤ 0 then do
    let result ← makeErrResult .errSocketCreationFailed msgSocketCreationFailed
    return (result, sock, p)
  else do
    assert (P.ipv4Only = true ∨ os.setsockopt = true)
    let (bindErr, p) := sysBind p handle port os.bind
    if bindErr < 0 then do
      let result ← makeErrResult .errPortInUse msgPortInUse
      return (result, sock, p)
    else
      return (makeSuccessResult, sock, p)

/-- `udp_socket_set_socket_nonblocking`. -/
def udpSocketSetSocketNonblocking (sock : UdpSocket) : Run (UdpSocketResult × Process κ) := do
  let (err, p) := sysSetNonblocking p sock.socketHandle os.fcntl
  if err = -1 then do
    let result ← makeErrResult .errSetNonblockingFailed msgSetNonblockingFailed
    return (result, p)
  else
    return (makeSuccessResult, p)

/-- `udp_socket_init_on_port`. On this platform `udp_socket_initialize_socket_support` does nothing. -/
def udpSocketInitOnPort (socket : Option UdpSocket) (port : UInt16) :
    Run (UdpSocketResult × Option UdpSocket × Process κ) :=
  match socket with
  | none => do
    let result ← makeErrResult .errSocketIsNull msgSocketIsNull
    return (result, none, p)
  | some _ => do
    let (result, sock, p) ← udpSocketCreateSocket P owner os p port
    if result.code ≠ .ok then return (result, some sock, p)
    else do
      let (result, p) ← udpSocketSetSocketNonblocking os p sock
      if result.code ≠ .ok then return (result, some sock, (sysClose p sock.socketHandle os.close).2)
      else return (makeSuccessResult, some sock, p)

/-- `udp_socket_init`. -/
def udpSocketInit (socket : Option UdpSocket) : Run (UdpSocketResult × Option UdpSocket × Process κ) :=
  udpSocketInitOnPort P owner os p socket 0

/-- `udp_socket_close`. -/
def udpSocketClose (answer : CloseAnswer) (sock : UdpSocket) : Run (UdpSocketResult × Process κ) := do
  let (error, p) := sysClose p sock.socketHandle answer
  if error = -1 then do
    let result ← makeErrResult .errFreeFailed (P.strerror p.errno)
    return (result, p)
  else
    return (makeSuccessResult, p)

/-- `udp_socket_free`. -/
def udpSocketFree (answer : CloseAnswer) (socket : Option UdpSocket) :
    Run (UdpSocketResult × Option UdpSocket × Process κ) :=
  match socket with
  | none => do
    let result ← makeErrResult .errSocketIsNull msgSocketIsNull
    return (result, none, p)
  | some sock => do
    let (result, p) ← udpSocketClose P p answer sock
    if result.code ≠ .ok then return (result, some sock, p)
    else return (makeSuccessResult, some ⟨-1⟩, p)

end Open

/-! ## Connecting -/

/-- `addrinfo`, and what `connect` answers for its address. -/
structure AddrInfo where
  datagrams : Bool
  udp : Bool
  addr : UdpEndpoint
  connect : ConnectAnswer

section Connect

variable {κ : Type} (P : Posix)

/-- The loop of `udp_socket_set_receiver`: the last `error` and the process. -/
def connectFirst (sock : UdpSocket) : Process κ → AddrInfo → List AddrInfo → Run (Int × Process κ)
  | p, curr, rest => do
    assert (curr.datagrams = true)
    assert (curr.udp = true)
    let (error, p) := sysConnect p sock.socketHandle (some curr.addr) curr.connect
    match rest with
    | [] => return (error, p)
    | next :: rest => if error ≠ 0 then connectFirst sock p next rest else return (error, p)

/-- `udp_socket_set_receiver`; `lookup` is the answer of `getaddrinfo` to the host name and the port. -/
def udpSocketSetReceiver (p : Process κ) (lookup : Except Int (List AddrInfo)) (socket : Option UdpSocket) :
    Run (UdpSocketResult × Process κ) :=
  match socket with
  | none => do
    let result ← makeErrResult .errSocketIsNull msgSocketIsNull
    return (result, p)
  | some sock =>
    match lookup with
    | .error error =>
      if error = P.eaiSystem then do
        let result ← makeErrResult .errResolveHostnameFailed (P.strerror p.errno)
        return (result, p)
      else do
        let result ← makeErrResult .errResolveHostnameFailed (P.gaiStrerror error)
        return (result, p)
    | .ok [] => .error .assertion
    | .ok (first :: rest) => do
      let (error, p) ← connectFirst sock p first rest
      if error ≠ 0 then do
        let result ← makeErrResult .errConnectFailed (P.strerror p.errno)
        return (result, p)
      else
        return (makeSuccessResult, p)

/-- `udp_socket_set_endpoint`. -/
def udpSocketSetEndpoint (p : Process κ) (connect : ConnectAnswer) (socket : Option UdpSocket)
    (endpoint : Option UdpEndpoint) : Run (UdpSocketResult × Process κ) :=
  match socket with
  | none => do
    let result ← makeErrResult .errSocketIsNull msgSocketIsNull
    return (result, p)
  | some sock => do
    let (error, p) := sysConnect p sock.socketHandle endpoint connect
    if error = 0 then return (makeSuccessResult, p)
    else do
      let result ← makeErrResult .errConnectFailed (P.strerror p.errno)
      return (result, p)

end Connect

/-! ## Receiving and sending -/

section Mail

variable {κ : Type} (P : Posix)

/-- `recvfrom`: a datagram, cut to the length of the buffer, or an error. -/
def sysRecvfrom (p : Process κ) (packetData : Bytes) (maxPacketSize : Nat) :
    Except Errno Datagram → Int × Bytes × Option UdpEndpoint × Process κ
  | .ok datagram =>
    let received := datagram.bytes.take maxPacketSize
    (received.length, received ++ packetData.drop received.length, some datagram.sender, p)
  | .error errno => (-1, packetData, none, { p with errno := errno })

/-- What `udp_socket_receive_from` leaves behind: the buffer, the length and the sender. -/
structure Delivery where
  packetData : Bytes
  receivedByteCount : Nat
  sender : Option UdpEndpoint

/-- `udp_socket_receive_from`. -/
def udpSocketReceiveFromBsd (p : Process κ) (packetData : Bytes) (maxPacketSize : Nat)
    (answer : Except Errno Datagram) : Run (UdpSocketResult × Delivery × Process κ) := do
  assert (0 < maxPacketSize)
  let (receivedBytes, packetData, sender, p) := sysRecvfrom p packetData maxPacketSize answer
  if receivedBytes ≤ 0 then
    if p.errno = .eagain ∨ p.errno = .ewouldblock then do
      let result ← makeErrResult .errNothingReceived msgNothingReceived
      return (result, ⟨packetData, 0, sender⟩, p)
    else do
      let result ← makeErrResult .errReceiveFailed (P.strerror p.errno)
      return (result, ⟨packetData, 0, sender⟩, p)
  else
    return (makeSuccessResult, ⟨packetData, receivedBytes.toNat, sender⟩, p)

/-- `udp_socket_receive`; `connect` is the answer to its `connect`. -/
def udpSocketReceive (p : Process κ) (sock : UdpSocket) (packetData : Bytes) (maxPacketSize : Nat)
    (answer : Except Errno Datagram) (connect : ConnectAnswer) (setSenderAsReceiver : Bool) :
    Run (UdpSocketResult × Delivery × Process κ) := do
  let (result, received, p) ← udpSocketReceiveFromBsd P p packetData maxPacketSize answer
  if setSenderAsReceiver = true ∧ result.code = .ok then do
    let (result, p) ← udpSocketSetEndpoint P p connect (some sock) received.sender
    return (result, received, p)
  else
    return (result, received, p)

/-- `udp_socket_send_to`; `answer` is that of `sendto` to the receiver or, without one, of `send`. -/
def udpSocketSendTo (p : Process κ) (socket : Option UdpSocket) (packetData : Bytes) (receiver : Option UdpEndpoint)
    (answer : Option UdpEndpoint → Except Errno Nat) : Run (UdpSocketResult × Process κ) := do
  assert (0 < packetData.length)
  match socket with
  | none => do
    let result ← makeErrResult .errSocketIsNull msgSocketIsNull
    return (result, p)
  | some _ =>
    match answer receiver with
    | .error errno => do
      let p := { p with errno := errno }
      let result ←
        if errno = .eacces then makeErrResult .errBadBroadcast msgBadBroadcast
        else if errno = .eagain ∨ errno = .ewouldblock then makeErrResult .errWouldblock msgWouldblock
        else if errno = .edestaddrreq then makeErrResult .errNoReceiver msgNoReceiver
        else if errno = .emsgsize then makeErrResult .errPacketTooBig msgPacketTooBig
        else makeErrResult .errSendFailed (P.strerror errno)
      return (result, p)
    | .ok sentBytes => do
      assert (sentBytes = packetData.length)
      return (makeSuccessResult, p)

/-- `udp_socket_send`. -/
def udpSocketSend (p : Process κ) (socket : Option UdpSocket) (packetData : Bytes)
    (answer : Option UdpEndpoint → Except Errno Nat) : Run (UdpSocketResult × Process κ) :=
  udpSocketSendTo P p socket packetData none answer

end Mail

/-! ## Receiving -/

section Receive

variable {κ : Type} (P : Posix)

theorem makeErrResult_eq {code : UdpSocketResultCode} (h : code ≠ .ok) (msg : String) :
    makeErrResult code msg = .ok ⟨code, some msg⟩ := by
  rw [makeErrResult, assert_pos h]
  rfl

/-- **Receiving** is what the model of the socket says, whatever `errno` is: an empty datagram and an error both count
as nothing received. Only which of the two codes an empty one gets depends on what failed last. -/
theorem udpSocketReceiveFromBsd_agrees (p : Process κ) (packetData : Bytes) {maxPacketSize : Nat}
    (hmax : 0 < maxPacketSize) (answer : Except Errno Datagram) :
    ∃ result received p', udpSocketReceiveFromBsd P p packetData maxPacketSize answer = .ok (result, received, p') ∧
      p'.table = p.table ∧
      match udpSocketReceiveFrom packetData maxPacketSize answer.toOption with
      | some (buf, n, sender) => result = makeSuccessResult ∧ received = ⟨buf, n, some sender⟩
      | none => result.code ≠ .ok ∧ received.packetData = packetData ∧ received.receivedByteCount = 0 := by
  have hfail : ∀ {p : Process κ} {packetData : Bytes} {sender : Option UdpEndpoint},
      ∃ result, (if p.errno = .eagain ∨ p.errno = .ewouldblock then do
          let result ← makeErrResult .errNothingReceived msgNothingReceived
          return (result, (⟨packetData, 0, sender⟩ : Delivery), p)
        else do
          let result ← makeErrResult .errReceiveFailed (P.strerror p.errno)
          return (result, ⟨packetData, 0, sender⟩, p) : Run _) = .ok (result, ⟨packetData, 0, sender⟩, p) ∧
        result.code ≠ .ok := by
    intro p packetData sender
    split
    · rw [makeErrResult_eq (by decide)]
      exact ⟨_, rfl, by simp⟩
    · rw [makeErrResult_eq (by decide)]
      exact ⟨_, rfl, by simp⟩
  unfold udpSocketReceiveFromBsd sysRecvfrom
  rw [assert_pos hmax, ok_bind]
  cases answer with
  | error errno =>
    obtain ⟨result, e, hcode⟩ := @hfail { p with errno := errno } packetData none
    exact ⟨result, _, _, e, rfl, hcode, rfl, rfl⟩
  | ok datagram =>
    simp only [Except.toOption, udpSocketReceiveFrom]
    generalize datagram.bytes.take maxPacketSize = bytes
    cases bytes with
    | nil =>
      obtain ⟨result, e, hcode⟩ := @hfail p packetData (some datagram.sender)
      exact ⟨result, _, _, e, rfl, hcode, rfl, rfl⟩
    | cons b bytes => exact ⟨_, _, _, rfl, rfl, rfl, rfl⟩

end Receive

/-! ## Finding a receiver -/

section Lookup

variable {κ : Type} (P : Posix)

theorem Process.set_natCast (p : Process κ) (n : Nat) (entry : Option (OsSocket κ)) :
    p.set n entry = { p with table := Function.update p.table n entry } := by
  rw [Process.set, if_pos (Int.natCast_nonneg n), Int.toNat_natCast]

theorem Process.find_natCast (p : Process κ) (n : Nat) : p.find n = p.table n := by
  rw [Process.find, if_pos (Int.natCast_nonneg n), Int.toNat_natCast]

/-- The entry of a handle behind a change of one. -/
theorem Process.find_set (p : Process κ) {handle : Int} (h : 0 ≤ handle) (entry : Option (OsSocket κ)) (other : Int) :
    (p.set handle entry).find other = if other = handle then entry else p.find other := by
  obtain ⟨n, rfl⟩ := Int.eq_ofNat_of_zero_le h
  rw [Process.set_natCast]
  by_cases hpos : 0 ≤ other
  · obtain ⟨m, rfl⟩ := Int.eq_ofNat_of_zero_le hpos
    rw [Process.find_natCast, Process.find_natCast]
    by_cases hm : m = n
    · rw [hm, if_pos rfl]
      exact Function.update_self n entry p.table
    · rw [if_neg (by omega)]
      exact Function.update_of_ne hm entry p.table
  · rw [Process.find, if_neg hpos, Process.find, if_neg hpos, if_neg (by omega)]

/-- A change of an entry that was just set. -/
theorem Process.set_map (p : Process κ) (n : Nat) (s : OsSocket κ) (f : OsSocket κ → OsSocket κ) :
    (p.set n (some s)).set n (((p.set n (some s)).find n).map f) = p.set n (some (f s)) := by
  have hfind : (p.set n (some s)).find n = some s := by
    rw [Process.find_set _ (Int.natCast_nonneg n), if_pos rfl]
  rw [hfind, Option.map_some, Process.set_natCast, Process.set_natCast, Process.set_natCast]
  simp only [Function.update_idem]

@[simp] theorem Process.find_errno (p : Process κ) (errno : Errno) (handle : Int) :
    ({ p with errno := errno } : Process κ).find handle = p.find handle := rfl

/-- **Connecting** changes the peer of an open socket, to the one asked for if it succeeds. -/
theorem sysConnect_open {p : Process κ} {handle : Int} {s : OsSocket κ} (hopen : p.find handle = some s)
    (peer : Option UdpEndpoint) (answer : ConnectAnswer) :
    ∃ p' left, sysConnect p handle peer answer = (if answer.accepts then 0 else -1, p') ∧
      (∀ other, p'.find other = if other = handle then some { s with peer := left } else p.find other) ∧
      (answer.accepts = true → left = peer) := by
  have hpos : 0 ≤ handle := by
    by_contra hneg
    rw [Process.find, if_neg hneg] at hopen
    cases hopen
  unfold sysConnect
  rw [hopen]
  cases answer with
  | connected => exact ⟨_, peer, rfl, fun other => Process.find_set p hpos _ other, fun _ => rfl⟩
  | failed errno left => exact ⟨_, left, rfl, fun other => Process.find_set p hpos _ other, nofun⟩

/-- **The addresses of a host** are tried in their order up to the first that accepts. -/
theorem connectFirst_spec (sock : UdpSocket) :
    ∀ (infos : List AddrInfo) (p : Process κ) (curr : AddrInfo) (s : OsSocket κ), p.find sock.socketHandle = some s →
      (∀ info ∈ curr :: infos, info.datagrams = true ∧ info.udp = true) →
      ∃ error p' peer, connectFirst sock p curr infos = .ok (error, p') ∧
        (∀ handle, p'.find handle =
          if handle = sock.socketHandle then some { s with peer := peer } else p.find handle) ∧
        match (curr :: infos).find? (·.connect.accepts) with
        | some info => error = 0 ∧ peer = some info.addr
        | none => error = -1 := by
  intro infos
  induction infos with
  | nil =>
    intro p curr s hopen hudp
    obtain ⟨hd, hu⟩ := hudp curr List.mem_cons_self
    obtain ⟨p', left, e, hfind, hleft⟩ := sysConnect_open hopen (some curr.addr) curr.connect
    rw [connectFirst, assert_pos hd, ok_bind, assert_pos hu, ok_bind, List.find?_cons, e]
    cases hc : curr.connect.accepts with
    | true => exact ⟨0, p', left, rfl, hfind, rfl, hleft hc⟩
    | false => exact ⟨-1, p', left, rfl, hfind, rfl⟩
  | cons next infos ih =>
    intro p curr s hopen hudp
    obtain ⟨hd, hu⟩ := hudp curr List.mem_cons_self
    obtain ⟨p₁, left, e, hfind, hleft⟩ := sysConnect_open hopen (some curr.addr) curr.connect
    rw [connectFirst, assert_pos hd, ok_bind, assert_pos hu, ok_bind, List.find?_cons, e]
    cases hc : curr.connect.accepts with
    | true => exact ⟨0, p₁, left, rfl, hfind, rfl, hleft hc⟩
    | false =>
      -- whatever peer the failed attempt has left, the next one sets another
      obtain ⟨error, p', peer, e', hfind', hresult⟩ := ih p₁ next { s with peer := left }
        (by rw [hfind, if_pos rfl]) fun info hinfo => hudp info (List.mem_cons_of_mem _ hinfo)
      refine ⟨error, p', peer, e', fun handle => ?_, hresult⟩
      rw [hfind', hfind]
      split
      · rfl
      · rfl

/-- **A receiver** is set if one of the addresses of its host accepts, and it is the first that does. No other handle
changes, and of the socket's own nothing but the peer, also if none accepts. -/
theorem udpSocketSetReceiver_first (p : Process κ) {sock : UdpSocket} {s : OsSocket κ}
    (hopen : p.find sock.socketHandle = some s) {first : AddrInfo} {rest : List AddrInfo}
    (hudp : ∀ info ∈ first :: rest, info.datagrams = true ∧ info.udp = true) :
    ∃ result p' peer, udpSocketSetReceiver P p (.ok (first :: rest)) (some sock) = .ok (result, p') ∧
      (∀ handle, p'.find handle = if handle = sock.socketHandle then some { s with peer := peer } else p.find handle) ∧
      match (first :: rest).find? (·.connect.accepts) with
      | some info => result = makeSuccessResult ∧ peer = some info.addr
      | none => result.code = .errConnectFailed := by
  obtain ⟨error, p', peer, e, hfind, hresult⟩ := connectFirst_spec sock rest p first s hopen hudp
  rw [udpSocketSetReceiver, e]
  revert hresult
  cases (first :: rest).find? (·.connect.accepts) with
  | none =>
    rintro rfl
    simp only [ok_bind]
    rw [if_pos (by decide), makeErrResult_eq (by decide)]
    exact ⟨_, p', peer, rfl, hfind, rfl⟩
  | some info =>
    rintro ⟨rfl, hpeer⟩
    exact ⟨_, p', peer, rfl, hfind, rfl, hpeer⟩

/-- A platform, and a process with one socket, for examples. -/
def examplePosix : Posix := ⟨fun _ => "", fun _ => "", -11, false⟩

def exampleSocket : OsSocket Unit := ⟨(), some 80, true, none⟩

/-- A host with two addresses, of which only the second accepts. -/
def exampleHosts : List AddrInfo :=
  [⟨true, true, ⟨[10, 0, 0, 1], 4⟩, .failed .eacces none⟩, ⟨true, true, ⟨[10, 0, 0, 2], 4⟩, .connected⟩]

theorem udpSocketSetReceiver_first_second :
    ∃ result p', udpSocketSetReceiver examplePosix ⟨fun n => if n = 3 then some exampleSocket else none, .ebadf⟩
        (.ok exampleHosts) (some ⟨3⟩) = .ok (result, p') ∧
      result = makeSuccessResult ∧ p'.find 3 = some { exampleSocket with peer := some ⟨[10, 0, 0, 2], 4⟩ } := by
  have hudp : ∀ info ∈ exampleHosts, info.datagrams = true ∧ info.udp = true := by simp [exampleHosts]
  obtain ⟨result, p', peer, e, hfind, hresult, hpeer⟩ := @udpSocketSetReceiver_first Unit examplePosix
    ⟨fun n => if n = 3 then some exampleSocket else none, .ebadf⟩ ⟨3⟩ exampleSocket rfl _ _ hudp
  subst hpeer
  exact ⟨result, p', e, hresult, hfind 3⟩

end Lookup

end Atolla
