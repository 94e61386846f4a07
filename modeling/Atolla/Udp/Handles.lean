import Atolla.Lib.Past
import Atolla.Udp.Bsd

/-!
# Whose handle a socket closes

A process makes and frees sockets, in any order and some of them more than once, while the rest of it opens and closes
handles of its own. Every handle that a socket leaves open is in that socket, and free closes it
(`freed_leaves_nothing`). Behind a free that succeeded the socket has no handle, so freeing it again hits nobody.
A socket keeps the number of a closed handle in two cases: after an `fcntl` that failed, as `udp_socket_init_on_port`
closes the handle itself, and after a `close` that failed although it closed. In all other runs a close hits the handle
of its own socket (`close_hits_own`). An init that fails is said to leave nothing open; it does so exactly when it came
as far as its own close (`udpSocketInitOnPort_failed_iff`).
-/

set_option autoImplicit false

namespace Atolla

open Loop Past

/-! ## Opening -/

section Open

variable {κ : Type} {P : Posix} {owner : κ} {os : OpenAnswers} {p p' : Process κ} {result : UdpSocketResult}
  {sock : UdpSocket} {port : UInt16}

/-- What opening a socket comes to: no handle, or an entry of the owner for it, or none any more. -/
structure OpenedSocket (owner : κ) (os : OpenAnswers) (p p' : Process κ) (sock : UdpSocket) : Prop where
  others : ∀ n : Nat, (n : Int) ≠ sock.socketHandle → p'.table n = p.table n
  handle : (sock.socketHandle = -1 ∧ p'.table = p.table) ∨ ∃ n : Nat, os.socket = some n ∧ sock.socketHandle = n ∧
    ((∃ s, p'.table n = some s ∧ s.owner = owner) ∨
      (p'.table n = none ∧ os.fcntl = false))

theorem udpSocketCreateSocket_cases (e : udpSocketCreateSocket P owner os p port = .ok (result, sock, p')) :
    (os.socket = none ∧ sock = ⟨-1⟩ ∧ p' = p ∧ result.code ≠ .ok) ∨
      ∃ n s, os.socket = some n ∧ sock = ⟨n⟩ ∧ p' = p.set n (some s) ∧ s.owner = owner := by
  unfold udpSocketCreateSocket at e
  cases hos : os.socket with
  | none =>
    rw [hos] at e
    left
    cases e
    exact ⟨rfl, rfl, rfl, by simp⟩
  | some n =>
    rw [hos] at e
    right
    have e' : (if (n : Int) ≤ 0 then _ else _ : Run _) = .ok (result, sock, p') := e
    split at e'
    · -- handle 0 counts as a failure, but it is open
      cases e'
      exact ⟨n, _, rfl, rfl, rfl, rfl⟩
    obtain ⟨_, -, hbound⟩ := bind_eq_ok.mp e'
    cases hbind : os.bind with
    | true =>
      rw [hbind] at hbound
      cases hbound
      exact ⟨n, _, rfl, rfl, Process.set_map p n _ _, rfl⟩
    | false =>
      rw [hbind] at hbound
      cases hbound
      exact ⟨n, _, rfl, rfl, rfl, rfl⟩

theorem Process.set_table_self (p : Process κ) (n : Nat) (entry : Option (OsSocket κ)) :
    (p.set n entry).table n = entry := by
  rw [← Process.find_natCast, Process.find_set p (Int.natCast_nonneg n), if_pos rfl]

theorem Process.set_table_ne (p : Process κ) {n m : Nat} (h : m ≠ n) (entry : Option (OsSocket κ)) :
    (p.set n entry).table m = p.table m := by
  rw [← Process.find_natCast, Process.find_set p (Int.natCast_nonneg n), if_neg (by omega), Process.find_natCast]

/-- An entry of the owner is left. -/
theorem opened_some {n : Nat} {s : OsSocket κ} (hn : os.socket = some n) (hs : s.owner = owner) :
    OpenedSocket owner os p (p.set n (some s)) ⟨n⟩ where
  others m hm := Process.set_table_ne p (by intro h; exact hm (by rw [h])) _
  handle := .inr ⟨n, hn, rfl, .inl ⟨s, Process.set_table_self p n _, hs⟩⟩

/-- What `close` leaves of an open handle. -/
theorem sysClose_table {n : Nat} {s : OsSocket κ} (hs : p.table n = some s) (answer : CloseAnswer) :
    (sysClose p n answer).2.table = p.table ∨ (sysClose p n answer).2.table = (p.set n none).table := by
  have hfind : p.find n = some s := by rw [Process.find_natCast, hs]
  unfold sysClose
  rw [hfind]
  cases answer with
  | closed => exact .inr rfl
  | failed errno released =>
    cases released with
    | true => exact .inr rfl
    | false => exact .inl rfl

theorem udpSocketInitOnPort_some {old : UdpSocket} {socket : Option UdpSocket}
    (e : udpSocketInitOnPort P owner os p (some old) port = .ok (result, socket, p')) : ∃ sock, socket = some sock := by
  obtain ⟨⟨result₁, sock₁, p₁⟩, -, e₁⟩ := bind_eq_ok.mp e
  simp only at e₁
  split at e₁
  · cases e₁
    exact ⟨sock₁, rfl⟩
  obtain ⟨⟨result₂, p₂⟩, -, e₂⟩ := bind_eq_ok.mp e₁
  simp only at e₂
  split at e₂
  · cases e₂
    exact ⟨sock₁, rfl⟩
  · cases e₂
    exact ⟨sock₁, rfl⟩

/-- **Opening a socket.** -/
theorem udpSocketInitOnPort_opened {old : UdpSocket}
    (e : udpSocketInitOnPort P owner os p (some old) port = .ok (result, some sock, p')) :
    OpenedSocket owner os p p' sock := by
  obtain ⟨⟨result₁, sock₁, p₁⟩, h₁, e₁⟩ := bind_eq_ok.mp e
  have e₁ : (if result₁.code ≠ .ok then _ else _ : Run _) = .ok (result, some sock, p') := e₁
  rcases udpSocketCreateSocket_cases h₁ with ⟨-, rfl, rfl, hcode⟩ | ⟨n, s, hn, rfl, rfl, hs⟩
  · rw [if_pos hcode] at e₁
    cases e₁
    exact ⟨fun _ _ => rfl, .inl ⟨rfl, rfl⟩⟩
  by_cases hcode : result₁.code ≠ .ok
  · rw [if_pos hcode] at e₁
    cases e₁
    exact opened_some hn hs
  rw [if_neg hcode] at e₁
  obtain ⟨⟨result₂, p₂⟩, h₂, e₂⟩ := bind_eq_ok.mp e₁
  have e₂ : (if result₂.code ≠ .ok then _ else _ : Run _) = .ok (result, some sock, p') := e₂
  cases hf : os.fcntl with
  | true =>
    rw [udpSocketSetSocketNonblocking, hf] at h₂
    cases h₂
    cases e₂
    have hset := Process.set_map p n s fun s => { s with nonblocking := true }
    show OpenedSocket owner os p (Process.set _ _ _) _
    rw [hset]
    exact opened_some hn hs
  | false =>
    rw [udpSocketSetSocketNonblocking, hf] at h₂
    cases h₂
    cases e₂
    have hentry : (p.set n (some s)).table n = some s := Process.set_table_self p n _
    have hclose := sysClose_table hentry os.close
    refine ⟨fun m hm => ?_, .inr ⟨n, hn, rfl, ?_⟩⟩
    · have hne : m ≠ n := by
        intro h
        exact hm (by rw [h])
      rcases hclose with hsame | hgone
      · rw [hsame, Process.set_table_ne p hne]
      · rw [hgone, Process.set_table_ne _ hne, Process.set_table_ne p hne]
    · rcases hclose with hsame | hgone
      · exact .inl ⟨s, by rw [hsame, hentry], hs⟩
      · exact .inr ⟨by rw [hgone, Process.set_table_self], hf⟩

/-- A new handle shows. -/
theorem Process.set_some_ne {n : Nat} (h : p.table n = none) (s : OsSocket κ) : (p.set n (some s)).table ≠ p.table := by
  intro heq
  have hn := congrFun heq n
  rw [Process.set_table_self, h] at hn
  cases hn

/-- A handle that was opened and closed does not. -/
theorem Process.set_none_eq {n : Nat} (h : p.table n = none) (s : OsSocket κ) :
    ((p.set n (some s)).set n none).table = p.table := by
  funext m
  by_cases hm : m = n
  · rw [hm, Process.set_table_self, h]
  · rw [Process.set_table_ne _ hm, Process.set_table_ne p hm]

/-- What `close` leaves of a new handle. -/
theorem sysClose_new {n : Nat} (h : p.table n = none) (s : OsSocket κ) (answer : CloseAnswer) :
    ((∀ errno, answer ≠ .failed errno false) ∧ (sysClose (p.set n (some s)) n answer).2.table = p.table) ∨
      ((∃ errno, answer = .failed errno false) ∧
        (sysClose (p.set n (some s)) n answer).2.table = (p.set n (some s)).table) := by
  have hfind : (p.set n (some s)).find n = some s := by rw [Process.find_natCast, Process.set_table_self]
  unfold sysClose
  rw [hfind]
  cases answer with
  | closed => exact .inl ⟨by simp, Process.set_none_eq h s⟩
  | failed errno released =>
    cases released with
    | true => exact .inl ⟨by simp, Process.set_none_eq h s⟩
    | false => exact .inr ⟨⟨errno, rfl⟩, rfl⟩

/-- What an init that fails opened, it closed: there is a `close` only behind an `fcntl` that failed. -/
def OpenAnswers.Undone (os : OpenAnswers) : Prop :=
  os.socket = none ∨ (os.socket ≠ some 0 ∧ os.bind = true ∧ ∀ errno, os.close ≠ .failed errno false)

theorem OpenAnswers.undone_some {n : Nat} (hos : os.socket = some n) :
    os.Undone ↔ n ≠ 0 ∧ os.bind = true ∧ ∀ errno, os.close ≠ .failed errno false := by
  simp [Undone, hos]

/-- **An init that fails** leaves no handle open, as its contract says, exactly when there was none to close or it came
as far as its `close`. A port in use leaves one. -/
theorem udpSocketInitOnPort_failed_iff (hnew : ∀ n ∈ os.socket, p.table n = none) {old : UdpSocket}
    (e : udpSocketInitOnPort P owner os p (some old) port = .ok (result, some sock, p')) (hfail : result.code ≠ .ok) :
    p'.table = p.table ↔ os.Undone := by
  obtain ⟨⟨result₁, sock₁, p₁⟩, h₁, e₁⟩ := bind_eq_ok.mp e
  have e₁ : (if result₁.code ≠ .ok then _ else _ : Run _) = .ok (result, some sock, p') := e₁
  cases hos : os.socket with
  | none =>
    rw [udpSocketCreateSocket, hos] at h₁
    cases h₁
    cases e₁
    exact ⟨fun _ => .inl hos, fun _ => rfl⟩
  | some n =>
    have hn := hnew n hos
    have hleak : ∀ s, (p.set n (some s)).table ≠ p.table := Process.set_some_ne hn
    rw [OpenAnswers.undone_some hos]
    rw [udpSocketCreateSocket, hos] at h₁
    have h₁ : (if (n : Int) ≤ 0 then _ else _ : Run _) = .ok (result₁, sock₁, p₁) := h₁
    split at h₁
    · -- handle 0
      have hzero : n = 0 := by omega
      cases h₁
      cases e₁
      exact ⟨fun h => absurd h (hleak _), fun h => absurd hzero h.1⟩
    obtain ⟨_, -, h₁⟩ := bind_eq_ok.mp h₁
    cases hbind : os.bind with
    | false =>
      rw [hbind] at h₁
      cases h₁
      cases e₁
      exact ⟨fun h => absurd h (hleak _), fun h => by cases h.2.1⟩
    | true =>
      rw [hbind] at h₁
      cases h₁
      obtain ⟨⟨result₂, p₂⟩, h₂, e₂⟩ := bind_eq_ok.mp e₁
      have e₂ : (if result₂.code ≠ .ok then _ else _ : Run _) = .ok (result, some sock, p') := e₂
      cases hf : os.fcntl with
      | true =>
        rw [udpSocketSetSocketNonblocking, hf] at h₂
        cases h₂
        cases e₂
        exact absurd rfl hfail
      | false =>
        rw [udpSocketSetSocketNonblocking, hf] at h₂
        cases h₂
        cases e₂
        have hpos : n ≠ 0 := by omega
        have hset := Process.set_map p n (⟨owner, none, false, none⟩ : OsSocket κ) fun s => { s with port := some port }
        generalize (⟨owner, some port, false, none⟩ : OsSocket κ) = s at hset
        show (sysClose (Process.set _ _ _) n os.close).2.table = _ ↔ _
        rw [hset]
        rcases sysClose_new hn s os.close with ⟨hcloses, hgone⟩ | ⟨⟨errno, hstays⟩, hopen⟩
        · exact ⟨fun _ => ⟨hpos, rfl, hcloses⟩, fun _ => hgone⟩
        · exact ⟨fun h => absurd (hopen.symm.trans h) (hleak s), fun h => absurd hstays (h.2.2 errno)⟩

/-- A port in use, and the handle that stays open. -/
theorem udpSocketInitOnPort_failed_iff_busy : ∃ result sock p',
    udpSocketInitOnPort examplePosix () ⟨some 3, true, false, true, .closed⟩ ⟨fun _ => none, .ebadf⟩ (some ⟨0⟩) 80 =
      .ok (result, some sock, p') ∧ result.code = .errPortInUse ∧ p'.table ≠ fun _ => none := by
  have hrun : udpSocketInitOnPort examplePosix () ⟨some 3, true, false, true, .closed⟩ ⟨fun _ => none, .ebadf⟩
      (some ⟨0⟩) 80 = .ok (⟨.errPortInUse, some msgPortInUse⟩, some ⟨3⟩,
        Process.set ⟨fun _ => none, .ebadf⟩ 3 (some ⟨(), none, false, none⟩)) := rfl
  refine ⟨_, _, _, hrun, rfl, fun h => ?_⟩
  have hundone := (udpSocketInitOnPort_failed_iff (fun _ _ => rfl) hrun (by decide)).mp h
  simp [OpenAnswers.Undone] at hundone

/-- **Freeing a socket** closes its handle, whatever that is by now. -/
theorem udpSocketFree_table (P : Posix) (p : Process κ) (answer : CloseAnswer) (old : UdpSocket) :
    ∃ result sock p', udpSocketFree P p answer (some old) = .ok (result, some sock, p') ∧
      p'.table = (sysClose p old.socketHandle answer).2.table ∧
      (sock.socketHandle = -1 ∨ sock = old ∧ (sysClose p old.socketHandle answer).1 = -1) := by
  obtain ⟨error, p₁, hclose⟩ : ∃ error p₁, sysClose p old.socketHandle answer = (error, p₁) := ⟨_, _, rfl⟩
  rw [udpSocketFree, udpSocketClose, hclose]
  simp only
  split
  · rename_i herror
    rw [makeErrResult_eq (by decide)]
    exact ⟨_, old, _, rfl, rfl, .inr ⟨rfl, herror⟩⟩
  · exact ⟨_, ⟨-1⟩, _, rfl, rfl, .inl rfl⟩

end Open

/-! ## Owners -/

/-- Who opened a handle that is open. -/
def Process.ownerOf {κ : Type} (p : Process κ) (n : Nat) : Option κ := (p.table n).map (·.owner)

/-- A handle that someone else opens or closes makes nobody an owner. -/
theorem Process.ownerOf_set_other {κ : Type} {p : Process κ} {m n : Nat} {entry : Option (OsSocket κ)} {k : κ}
    (hentry : entry.map (·.owner) ≠ some k) (h : (p.set m entry).ownerOf n = some k) : p.ownerOf n = some k := by
  by_cases hn : n = m
  · rw [hn, Process.ownerOf, Process.set_table_self] at h
    exact absurd h hentry
  · rw [Process.ownerOf, Process.set_table_ne _ hn] at h
    exact h

section Owners

variable {κ : Type} {p p' : Process κ} {result : UdpSocketResult} {sock : UdpSocket}

theorem Process.ownerOf_congr (h : p'.table = p.table) (n : Nat) : p'.ownerOf n = p.ownerOf n := by
  rw [Process.ownerOf, h]
  rfl

/-- A change of an entry that keeps its owner. -/
theorem Process.ownerOf_map (p : Process κ) (handle : Int) (f : OsSocket κ → OsSocket κ)
    (hf : ∀ s, (f s).owner = s.owner) (n : Nat) :
    (p.set handle ((p.find handle).map f)).ownerOf n = p.ownerOf n := by
  by_cases hpos : 0 ≤ handle
  · obtain ⟨m, rfl⟩ := Int.eq_ofNat_of_zero_le hpos
    rw [Process.find_natCast]
    by_cases hm : n = m
    · rw [Process.ownerOf, hm, Process.set_table_self, Process.ownerOf, Option.map_map]
      exact congrArg (Option.map · (p.table m)) (funext hf)
    · rw [Process.ownerOf, Process.set_table_ne p hm]
      rfl
  · rw [Process.set, if_neg hpos]

theorem sysConnect_ownerOf (p : Process κ) (handle : Int) (peer : Option UdpEndpoint) (answer : ConnectAnswer)
    (n : Nat) : (sysConnect p handle peer answer).2.ownerOf n = p.ownerOf n := by
  have hset : ∀ (s : OsSocket κ) (left : Option UdpEndpoint), p.find handle = some s →
      (p.set handle (some { s with peer := left })).ownerOf n = p.ownerOf n := by
    intro s left hfind
    have hmap := p.ownerOf_map handle (fun s => { s with peer := left }) (fun _ => rfl) n
    rw [hfind] at hmap
    exact hmap
  unfold sysConnect
  cases hfind : p.find handle with
  | none => rfl
  | some s =>
    cases answer with
    | connected => exact hset s peer hfind
    | failed errno left => exact hset s left hfind

theorem connectFirst_ownerOf {error : Int} (n : Nat) :
    ∀ (infos : List AddrInfo) (p : Process κ) (curr : AddrInfo),
      connectFirst sock p curr infos = .ok (error, p') → p'.ownerOf n = p.ownerOf n := by
  intro infos
  induction infos with
  | nil =>
    intro p curr e
    obtain ⟨_, -, e₁⟩ := bind_eq_ok.mp e
    obtain ⟨_, -, e₂⟩ := bind_eq_ok.mp e₁
    cases e₂
    exact sysConnect_ownerOf p sock.socketHandle (some curr.addr) curr.connect n
  | cons next infos ih =>
    intro p curr e
    obtain ⟨_, -, e₁⟩ := bind_eq_ok.mp e
    obtain ⟨_, -, e₂⟩ := bind_eq_ok.mp e₁
    have hkeep := sysConnect_ownerOf p sock.socketHandle (some curr.addr) curr.connect n
    have e₃ : (if (sysConnect p sock.socketHandle (some curr.addr) curr.connect).1 ≠ 0 then _ else _ : Run _) =
        .ok (error, p') := e₂
    split at e₃
    · exact (ih _ next e₃).trans hkeep
    · cases e₃
      exact hkeep

/-- Setting a receiver leaves all owners alone. -/
theorem udpSocketSetReceiver_ownerOf {P : Posix} {lookup : Except Int (List AddrInfo)}
    (e : udpSocketSetReceiver P p lookup (some sock) = .ok (result, p')) (n : Nat) : p'.ownerOf n = p.ownerOf n := by
  unfold udpSocketSetReceiver at e
  cases lookup with
  | error code =>
    simp only at e
    split at e
    · cases e
      rfl
    · cases e
      rfl
  | ok infos =>
    cases infos with
    | nil => cases e
    | cons first rest =>
      obtain ⟨⟨error, p₁⟩, h₁, e₁⟩ := bind_eq_ok.mp e
      have hkeep := connectFirst_ownerOf n rest p first h₁
      simp only at e₁
      split at e₁
      · cases e₁
        exact hkeep
      · cases e₁
        exact hkeep

end Owners

/-! ## The process -/

/-- A socket of the process, from its first init on. -/
structure SocketSlot where
  socket : UdpSocket
  /-- History: `udp_socket_free` was called since its last init. -/
  freed : Bool

/-- Some sockets, and the process they are in. The rest of the process has no name. -/
structure Sockets (ι : Type) where
  process : Process (Option ι)
  slots : ι → Option SocketSlot

/-- It was not made yet, or was freed, whatever the free returned. -/
def Sockets.Unused {ι : Type} (w : Sockets ι) (i : ι) : Prop := (w.slots i).all (·.freed) = true

instance {ι : Type} (w : Sockets ι) (i : ι) : Decidable (w.Unused i) := inferInstanceAs (Decidable (_ = true))

/-- What one of them, or the rest of the process, does. -/
inductive SocketAction (ι : Type) where
  /-- `udp_socket_init_on_port` of a socket with anything in it. -/
  | make (i : ι) (old : UdpSocket) (os : OpenAnswers) (port : UInt16)
  /-- `udp_socket_set_receiver`. -/
  | receiver (i : ι) (lookup : Except Int (List AddrInfo))
  /-- `udp_socket_free`, for the first time or again. -/
  | free (i : ι) (answer : CloseAnswer)
  | restOpens (n : Nat)
  | restCloses (n : Nat)

/-- Who acts. -/
def SocketAction.actor {ι : Type} : SocketAction ι → Option ι
  | .make i _ _ _ => some i
  | .receiver i _ => some i
  | .free i _ => some i
  | .restOpens _ => none
  | .restCloses _ => none

section Sockets

variable {ι : Type} [DecidableEq ι] (P : Posix)

/-- An action. A handle is new when it is opened, and the rest of the process closes its own handles only. -/
def socketsNext (w : Sockets ι) : SocketAction ι → Option (Sockets ι)
  | .make i old os port =>
    if w.Unused i ∧ ∀ n ∈ os.socket, (w.process.table n).isNone then
      match udpSocketInitOnPort P (some i) os w.process (some old) port with
      | .ok (_, socket, p) => some ⟨p, Function.update w.slots i (socket.map (⟨·, false⟩))⟩
      | .error _ => none
    else none
  | .receiver i lookup =>
    match w.slots i with
    | some slot =>
      match udpSocketSetReceiver P w.process lookup (some slot.socket) with
      | .ok (_, p) => some { w with process := p }
      | .error _ => none
    | none => none
  | .free i answer =>
    match w.slots i with
    | some slot =>
      match udpSocketFree P w.process answer (some slot.socket) with
      | .ok (_, socket, p) => some ⟨p, Function.update w.slots i (socket.map (⟨·, true⟩))⟩
      | .error _ => none
    | none => none
  | .restOpens n =>
    if (w.process.table n).isNone then some { w with process := w.process.set n (some ⟨none, none, false, none⟩) }
    else none
  | .restCloses n =>
    if (w.process.table n).map (·.owner) = some none then some { w with process := w.process.set n none } else none

/-- The runs of the process in which all actions are of a kind. -/
def sockets (Q : SocketAction ι → Prop) : System (Sockets ι) where
  init w := (∀ n s, w.process.table n = some s → s.owner = none) ∧ ∀ i, w.slots i = none
  step w w' := ∃ a, Q a ∧ socketsNext P w a = some w'

/-- No `fcntl` fails, and no `close` of a free fails with its handle closed. -/
def SocketAction.Exact : SocketAction ι → Prop
  | .make _ _ os _ => os.fcntl = true
  | .free _ (.failed _ released) => released = false
  | _ => True

/-- No `fcntl` fails, and no `close` of a free fails with its handle open. -/
def SocketAction.Smooth : SocketAction ι → Prop
  | .make _ _ os _ => os.fcntl = true
  | .free _ (.failed _ released) => released = true
  | _ => True

end Sockets

/-! ## What an action does to the handles -/

section Step

variable {ι : Type} [DecidableEq ι] {P : Posix} {w w' : Sockets ι} {a : SocketAction ι}

/-- **Every socket has its handle**, unless none was opened for it or it was closed. -/
def HandlesInv (w : Sockets ι) : Prop :=
  ∀ i slot, w.slots i = some slot →
    slot.socket.socketHandle = -1 ∨ ∃ n : Nat, slot.socket.socketHandle = n ∧ w.process.ownerOf n = some (some i)

/-- A handle was opened by the actor, or closed, and then it was the actor's. -/
def ActorMoves (w w' : Sockets ι) (actor : Option ι) (n : Nat) : Prop :=
  w'.process.ownerOf n = w.process.ownerOf n ∨
    (w.process.ownerOf n = none ∧ w'.process.ownerOf n = some actor) ∨
    (w.process.ownerOf n = some actor ∧ w'.process.ownerOf n = none)

theorem OpenedSocket.ownerOf {κ : Type} {owner : κ} {os : OpenAnswers} {p p' : Process κ} {sock : UdpSocket}
    (h : OpenedSocket owner os p p' sock) (hf : os.fcntl = true) :
    (sock.socketHandle = -1 ∧ p'.table = p.table) ∨ ∃ n : Nat, os.socket = some n ∧ sock.socketHandle = n ∧
      p'.ownerOf n = some owner := by
  rcases h.handle with hnone | ⟨n, hn, hsock, ⟨s, hs, howner⟩ | ⟨-, hno⟩⟩
  · exact .inl hnone
  · exact .inr ⟨n, hn, hsock, by rw [Process.ownerOf, hs, ← howner]; rfl⟩
  · rw [hf] at hno
    cases hno

/-- What a make does. -/
theorem socketsNext_make {i : ι} {old : UdpSocket} {os : OpenAnswers} {port : UInt16}
    (e : socketsNext P w (.make i old os port) = some w') :
    w.Unused i ∧ (∀ n, os.socket = some n → w.process.table n = none) ∧
      ∃ sock, w'.slots = Function.update w.slots i (some ⟨sock, false⟩) ∧
        OpenedSocket (some i) os w.process w'.process sock := by
  rw [socketsNext] at e
  split at e
  · rename_i hallowed
    cases hinit : udpSocketInitOnPort P (some i) os w.process (some old) port with
    | error f =>
      rw [hinit] at e
      cases e
    | ok r =>
      obtain ⟨result, socket, p⟩ := r
      obtain ⟨sock, rfl⟩ := udpSocketInitOnPort_some hinit
      rw [hinit] at e
      cases e
      exact ⟨hallowed.1, fun n hn => Option.isNone_iff_eq_none.mp (hallowed.2 n hn), sock, rfl,
        udpSocketInitOnPort_opened hinit⟩
  · cases e

theorem socketsNext_receiver {i : ι} {lookup : Except Int (List AddrInfo)}
    (e : socketsNext P w (.receiver i lookup) = some w') :
    w'.slots = w.slots ∧ ∀ n, w'.process.ownerOf n = w.process.ownerOf n := by
  rw [socketsNext] at e
  split at e
  · split at e
    · rename_i hset
      cases e
      exact ⟨rfl, udpSocketSetReceiver_ownerOf hset⟩
    · cases e
  · cases e

theorem socketsNext_restOpens {m : Nat} (e : socketsNext P w (.restOpens m) = some w') :
    w'.slots = w.slots ∧ w.process.table m = none ∧
      w'.process = w.process.set m (some ⟨none, none, false, none⟩) := by
  rw [socketsNext] at e
  split at e
  · rename_i hfree
    cases e
    exact ⟨rfl, Option.isNone_iff_eq_none.mp hfree, rfl⟩
  · cases e

theorem socketsNext_restCloses {m : Nat} (e : socketsNext P w (.restCloses m) = some w') :
    w'.slots = w.slots ∧ w.process.ownerOf m = some none ∧ w'.process = w.process.set m none := by
  rw [socketsNext] at e
  split at e
  · rename_i hrest
    cases e
    exact ⟨rfl, hrest, rfl⟩
  · cases e

/-- **What a free does**: it closes the handle of the socket, which has none behind it if that succeeded, and else the
one it had. -/
theorem socketsNext_free {i : ι} {answer : CloseAnswer} (e : socketsNext P w (.free i answer) = some w') :
    ∃ slot sock, w.slots i = some slot ∧ w'.slots = Function.update w.slots i (some ⟨sock, true⟩) ∧
      w'.process.table = (sysClose w.process slot.socket.socketHandle answer).2.table ∧
      (sock.socketHandle = -1 ∨
        sock = slot.socket ∧ (sysClose w.process slot.socket.socketHandle answer).1 = -1) := by
  rw [socketsNext] at e
  cases hslot : w.slots i with
  | none =>
    rw [hslot] at e
    cases e
  | some slot =>
    obtain ⟨result, sock, p, hfree, htable, hsock⟩ := udpSocketFree_table P w.process answer slot.socket
    rw [hslot] at e
    simp only [hfree] at e
    cases e
    exact ⟨slot, sock, rfl, rfl, htable, hsock⟩

/-- A close that fails with its handle open leaves it to its owner. -/
theorem sysClose_failed {κ : Type} {p : Process κ} {n : Nat} {owner : κ} (howner : p.ownerOf n = some owner)
    {answer : CloseAnswer} (hanswer : ∀ errno, answer ≠ .failed errno true) (hfailed : (sysClose p n answer).1 = -1) :
    (sysClose p n answer).2.table = p.table := by
  obtain ⟨s, hs, -⟩ := Option.map_eq_some_iff.mp howner
  have hfind : p.find n = some s := by rw [Process.find_natCast, hs]
  unfold sysClose at hfailed ⊢
  rw [hfind] at hfailed ⊢
  cases answer with
  | closed => cases hfailed
  | failed errno released =>
    cases released with
    | true => exact absurd rfl (hanswer errno)
    | false => rfl

omit [DecidableEq ι] in
/-- Closing one's own handle. -/
theorem closes_moves {m : Nat} {actor : Option ι} {answer : CloseAnswer} (howner : w.process.ownerOf m = some actor)
    (htable : w'.process.table = (sysClose w.process m answer).2.table) (n : Nat) : ActorMoves w w' actor n := by
  obtain ⟨s, hs, -⟩ := Option.map_eq_some_iff.mp howner
  rcases sysClose_table hs answer with hsame | hgone
  · exact .inl (Process.ownerOf_congr (htable.trans hsame) n)
  · by_cases hn : n = m
    · subst hn
      refine .inr (.inr ⟨howner, ?_⟩)
      rw [Process.ownerOf, htable, hgone, Process.set_table_self]
      rfl
    · left
      rw [Process.ownerOf, htable, hgone, Process.set_table_ne _ hn]
      rfl

/-- **Only the handles of whoever acts** are opened and closed, as long as no `fcntl` fails. -/
theorem socketsNext_moves (h : HandlesInv w) (ha : a.Exact) (e : socketsNext P w a = some w') (n : Nat) :
    ActorMoves w w' a.actor n := by
  cases a with
  | make i old os port =>
    obtain ⟨-, hnew, sock, -, hopened⟩ := socketsNext_make e
    rcases hopened.ownerOf ha with ⟨-, hsame⟩ | ⟨m, hm, hsock, howner⟩
    · exact .inl (Process.ownerOf_congr hsame n)
    · by_cases hn : n = m
      · subst hn
        exact .inr (.inl ⟨by rw [Process.ownerOf, hnew n hm]; rfl, howner⟩)
      · have hother := hopened.others n (by rw [hsock]; omega)
        exact .inl (by rw [Process.ownerOf, hother]; rfl)
  | receiver i lookup => exact .inl ((socketsNext_receiver e).2 n)
  | free i answer =>
    obtain ⟨slot, -, hslot, -, htable, -⟩ := socketsNext_free e
    rcases h i slot hslot with hnone | ⟨m, hsock, howner⟩
    · rw [hnone] at htable
      exact .inl (Process.ownerOf_congr htable n)
    · rw [hsock] at htable
      exact closes_moves howner htable n
  | restOpens m =>
    obtain ⟨-, hfree, hset⟩ := socketsNext_restOpens e
    by_cases hn : n = m
    · subst hn
      exact .inr (.inl
        ⟨by rw [Process.ownerOf, hfree]; rfl, by rw [hset, Process.ownerOf, Process.set_table_self]; rfl⟩)
    · exact .inl (by rw [hset, Process.ownerOf, Process.set_table_ne _ hn]; rfl)
  | restCloses m =>
    obtain ⟨-, howner, hset⟩ := socketsNext_restCloses e
    by_cases hn : n = m
    · subst hn
      exact .inr (.inr ⟨howner, by rw [hset, Process.ownerOf, Process.set_table_self]; rfl⟩)
    · exact .inl (by rw [hset, Process.ownerOf, Process.set_table_ne _ hn]; rfl)

/-- **Every action** keeps the handles of the others. -/
theorem HandlesInv.next (h : HandlesInv w) (ha : a.Exact) (e : socketsNext P w a = some w') : HandlesInv w' := by
  have hmoves := socketsNext_moves h ha e
  -- the handle of a socket of someone else
  have hkept : ∀ i slot, a.actor ≠ some i → w.slots i = some slot → slot.socket.socketHandle = -1 ∨
      ∃ n : Nat, slot.socket.socketHandle = n ∧ w'.process.ownerOf n = some (some i) := by
    intro i slot hactor hslot
    rcases h i slot hslot with hnone | ⟨n, hsock, howner⟩
    · exact .inl hnone
    · refine .inr ⟨n, hsock, ?_⟩
      rcases hmoves n with hsame | ⟨hnone, -⟩ | ⟨hown, -⟩
      · rw [hsame, howner]
      · rw [howner] at hnone
        cases hnone
      · rw [howner] at hown
        exact absurd (Option.some.inj hown).symm hactor
  intro i slot hslot
  cases a with
  | make j old os port =>
    obtain ⟨-, -, sock', hslots, hopened⟩ := socketsNext_make e
    rw [hslots] at hslot
    by_cases hij : i = j
    · subst hij
      rw [Function.update_self, Option.some.injEq] at hslot
      subst hslot
      rcases hopened.ownerOf ha with ⟨hnone, -⟩ | ⟨n, -, hsock, howner⟩
      · exact .inl hnone
      · exact .inr ⟨n, hsock, howner⟩
    · rw [Function.update_of_ne hij] at hslot
      exact hkept i slot (fun heq => hij (Option.some.inj heq).symm) hslot
  | receiver j lookup =>
    obtain ⟨hslots, howners⟩ := socketsNext_receiver e
    rw [hslots] at hslot
    rcases h i slot hslot with hnone | ⟨n, hsock, howner⟩
    · exact .inl hnone
    · exact .inr ⟨n, hsock, by rw [howners, howner]⟩
  | free j answer =>
    obtain ⟨slot', sock, hslot', hslots, htable, hsock⟩ := socketsNext_free e
    rw [hslots] at hslot
    by_cases hij : i = j
    · subst hij
      rw [Function.update_self, Option.some.injEq] at hslot
      subst hslot
      rcases hsock with hnone | ⟨rfl, hfailed⟩
      · exact .inl hnone
      -- a close that failed has left the handle open
      rcases h i slot' hslot' with hnone | ⟨n, hhandle, howner⟩
      · exact .inl hnone
      · refine .inr ⟨n, hhandle, ?_⟩
        rw [hhandle] at htable hfailed
        have hkeeps := sysClose_failed howner (fun errno heq => by rw [heq] at ha; cases ha) hfailed
        rw [Process.ownerOf_congr (htable.trans hkeeps) n]
        exact howner
    · rw [Function.update_of_ne hij] at hslot
      exact hkept i slot (fun heq => hij (Option.some.inj heq).symm) hslot
  | restOpens m => exact hkept i slot (by simp [SocketAction.actor]) ((socketsNext_restOpens e).1 ▸ hslot)
  | restCloses m => exact hkept i slot (by simp [SocketAction.actor]) ((socketsNext_restCloses e).1 ▸ hslot)

end Step

/-! ## Runs -/

section Runs

variable {ι : Type} [DecidableEq ι] {P : Posix} {w w' : Sockets ι}

theorem handles_inv (h : (sockets P SocketAction.Exact).Reached w) : HandlesInv w := by
  refine h.inv (I := HandlesInv) ?_ ?_
  · rintro w ⟨-, hslots⟩ i slot hslot
    rw [hslots i] at hslot
    cases hslot
  · rintro w w' - hinv ⟨a, ha, e⟩
    exact hinv.next ha e

/-- **A close hits nobody else**: in every run in which no `fcntl` fails, and no `close` fails that has closed its
handle, a handle that an action closes was opened by whoever acts. A socket may be freed more than once. -/
theorem close_hits_own (h : (sockets P SocketAction.Exact).Reached w) {a : SocketAction ι} (ha : a.Exact)
    (e : socketsNext P w a = some w') {n : Nat} {s : OsSocket (Option ι)} (hopen : w.process.table n = some s)
    (hclosed : w'.process.table n = none) : s.owner = a.actor := by
  have howner : w.process.ownerOf n = some s.owner := by
    rw [Process.ownerOf, hopen]
    rfl
  have hnone : w'.process.ownerOf n = none := by
    rw [Process.ownerOf, hclosed]
    rfl
  rcases socketsNext_moves (handles_inv h) ha e n with hsame | ⟨hno, -⟩ | ⟨hown, -⟩
  · rw [hsame, howner] at hnone
    cases hnone
  · rw [howner] at hno
    cases hno
  · rw [howner] at hown
    exact Option.some.inj hown

/-- A process with three handles, and a socket with the next one, for examples. -/
def exampleProcess : Sockets Bool :=
  ⟨⟨fun n => if n < 3 then some ⟨none, none, false, none⟩ else none, .ebadf⟩, fun _ => none⟩

def exampleAnswers (n : Nat) (fcntl : Bool) : OpenAnswers := ⟨some n, true, true, fcntl, .closed⟩

def exampleMade : Sockets Bool :=
  (socketsNext examplePosix exampleProcess (.make true ⟨0⟩ (exampleAnswers 3 true) 80)).getD exampleProcess

theorem exampleProcess_init (Q : SocketAction Bool → Prop) : (sockets examplePosix Q).init exampleProcess := by
  refine ⟨fun n s hs => ?_, fun _ => rfl⟩
  have hs' : (if n < 3 then some ⟨none, none, false, none⟩ else none : Option (OsSocket (Option Bool))) = some s := hs
  split at hs'
  · cases hs'
    rfl
  · cases hs'

/-- Behind a first `close` that failed. -/
def exampleRetried : Sockets Bool :=
  (socketsNext examplePosix exampleMade (.free true (.failed (.other 4) false))).getD exampleMade

/-- The free that is tried again closes handle 3, and one more free closes nothing. -/
theorem close_hits_own_second : ∃ w' s, socketsNext examplePosix exampleRetried (.free true .closed) = some w' ∧
    exampleRetried.process.table 3 = some s ∧ w'.process.table 3 = none ∧ s.owner = some true ∧
    (w'.slots true).map (·.socket.socketHandle) = some (-1) := by
  have hmade : (sockets examplePosix SocketAction.Exact).Reached exampleMade :=
    .step (.init (exampleProcess_init _)) ⟨.make true ⟨0⟩ (exampleAnswers 3 true) 80, rfl, rfl⟩
  have hretried : (sockets examplePosix SocketAction.Exact).Reached exampleRetried :=
    hmade.step ⟨.free true (.failed (.other 4) false), rfl, rfl⟩
  exact ⟨_, _, rfl, rfl, rfl, close_hits_own (a := .free true .closed) (n := 3) hretried trivial rfl rfl rfl, rfl⟩

/-- After an `fcntl` that failed this is not so: handle 3 of one socket is closed when another is freed. -/
example : ∃ w, [SocketAction.make true ⟨0⟩ (exampleAnswers 3 false) 80, .make false ⟨0⟩ (exampleAnswers 3 true) 81,
      .free true .closed].foldlM (socketsNext examplePosix) exampleProcess = some w ∧
    w.slots false = some ⟨⟨3⟩, false⟩ ∧ (w.process.table 3).isNone := ⟨_, rfl, rfl, rfl⟩

/-- Every open handle of a socket is in that socket, and it was not freed. -/
def KeepsHandles (w : Sockets ι) : Prop :=
  ∀ (n : Nat) (i : ι), w.process.ownerOf n = some (some i) →
    ∃ slot, w.slots i = some slot ∧ slot.freed = false ∧ slot.socket.socketHandle = n

/-- Behind a close that closes, the handle is gone. -/
theorem sysClose_closes {κ : Type} {p : Process κ} {answer : CloseAnswer} {handle : Int}
    (hcloses : ∀ errno, answer ≠ .failed errno false) (hpos : 0 ≤ handle) :
    (sysClose p handle answer).2.find handle = none := by
  unfold sysClose
  cases hfind : p.find handle with
  | none => exact hfind
  | some s =>
    have hgone : (p.set handle none).find handle = none := by rw [Process.find_set p hpos, if_pos rfl]
    cases answer with
    | closed => exact hgone
    | failed errno released =>
      cases released with
      | true => exact hgone
      | false => exact absurd rfl (hcloses errno)

/-- A close opens nothing. -/
theorem sysClose_ownerOf {κ : Type} {p : Process κ} {handle : Int} {answer : CloseAnswer} {n : Nat} {owner : κ}
    (howner : (sysClose p handle answer).2.ownerOf n = some owner) : p.ownerOf n = some owner := by
  have hset : (p.set handle none).ownerOf n = some owner → p.ownerOf n = some owner := by
    intro h
    unfold Process.set at h
    split at h
    · by_cases hn : n = handle.toNat
      · rw [Process.ownerOf, hn] at h
        simp at h
      · rw [Process.ownerOf] at h
        simp only [Function.update_of_ne hn] at h
        exact h
    · exact h
  unfold sysClose at howner
  cases hfind : p.find handle with
  | none =>
    rw [hfind] at howner
    exact howner
  | some s =>
    rw [hfind] at howner
    cases answer with
    | closed => exact hset howner
    | failed errno released =>
      cases released with
      | true => exact hset howner
      | false => exact howner

/-- Opening gives a handle to its owner only. -/
theorem OpenedSocket.old {κ : Type} {owner owner' : κ} {os : OpenAnswers} {p p' : Process κ} {sock : UdpSocket}
    (h : OpenedSocket owner os p p' sock) {n : Nat} (howner : p'.ownerOf n = some owner')
    (hold : p.ownerOf n ≠ some owner') : sock.socketHandle = n ∧ owner' = owner := by
  have hhandle : sock.socketHandle = n := by
    by_contra hne
    rw [Process.ownerOf, h.others n fun heq => hne heq.symm] at howner
    exact hold howner
  refine ⟨hhandle, ?_⟩
  rcases h.handle with ⟨hnone, -⟩ | ⟨m, -, hm, ⟨s, hs, rfl⟩ | ⟨hgone, -⟩⟩
  · omega
  · obtain rfl : m = n := by omega
    rw [Process.ownerOf, hs] at howner
    exact (Option.some.inj howner).symm
  · obtain rfl : m = n := by omega
    rw [Process.ownerOf, hgone] at howner
    cases howner

theorem KeepsHandles.next (hk : KeepsHandles w) {a : SocketAction ι} (ha : a.Smooth)
    (e : socketsNext P w a = some w') : KeepsHandles w' := by
  intro n i howner
  cases a with
  | make j old os port =>
    obtain ⟨hunused, -, sock, hslots, hopened⟩ := socketsNext_make e
    by_cases hbefore : w.process.ownerOf n = some (some i)
    · obtain ⟨slot, hslot, hfreed, hhandle⟩ := hk n i hbefore
      have hij : i ≠ j := by
        rintro rfl
        rw [Sockets.Unused, hslot, Option.all_some, hfreed] at hunused
        cases hunused
      exact ⟨slot, by rw [hslots, Function.update_of_ne hij, hslot], hfreed, hhandle⟩
    · obtain ⟨hhandle, howners⟩ := hopened.old howner hbefore
      obtain rfl := Option.some.inj howners
      exact ⟨⟨sock, false⟩, by rw [hslots, Function.update_self], rfl, hhandle⟩
  | receiver j lookup =>
    obtain ⟨hslots, howners⟩ := socketsNext_receiver e
    rw [hslots]
    exact hk n i (howners n ▸ howner)
  | free j answer =>
    obtain ⟨slot, sock, hslot, hslots, htable, -⟩ := socketsNext_free e
    have hbefore : w.process.ownerOf n = some (some i) :=
      sysClose_ownerOf (Process.ownerOf_congr htable n ▸ howner)
    obtain ⟨slot', hslot', hfreed, hhandle⟩ := hk n i hbefore
    by_cases hij : i = j
    · subst hij
      exfalso
      -- its only handle was closed
      have hcloses : ∀ errno, answer ≠ .failed errno false := by
        rintro errno rfl
        cases ha
      rw [hslot, Option.some.injEq] at hslot'
      subst hslot'
      have hgone := sysClose_closes (p := w.process) hcloses (show 0 ≤ slot.socket.socketHandle by omega)
      rw [hhandle] at hgone htable
      rw [Process.find_natCast, ← htable] at hgone
      rw [Process.ownerOf, hgone] at howner
      cases howner
    · exact ⟨slot', by rw [hslots, Function.update_of_ne hij, hslot'], hfreed, hhandle⟩
  | restOpens m =>
    obtain ⟨hslots, -, hset⟩ := socketsNext_restOpens e
    rw [hslots]
    rw [hset] at howner
    exact hk n i (Process.ownerOf_set_other (by simp) howner)
  | restCloses m =>
    obtain ⟨hslots, -, hset⟩ := socketsNext_restCloses e
    rw [hslots]
    rw [hset] at howner
    exact hk n i (Process.ownerOf_set_other (by simp) howner)

/-- **Nothing is left behind**: in every run in which no `fcntl` fails and every `close` closes, a socket that was freed
or was not made yet has no open handle. -/
theorem freed_leaves_nothing (h : (sockets P SocketAction.Smooth).Reached w) {i : ι} (hfreed : w.Unused i)
    {n : Nat} {s : OsSocket (Option ι)} (hopen : w.process.table n = some s) : s.owner ≠ some i := by
  intro howner
  have hkeeps : KeepsHandles w := by
    refine h.inv (I := KeepsHandles) ?_ ?_
    · rintro w ⟨hrest, -⟩ n i howner
      obtain ⟨s, hs, hs'⟩ := Option.map_eq_some_iff.mp howner
      rw [hrest n s hs] at hs'
      cases hs'
    · rintro w w' - hk ⟨a, ha, e⟩
      exact hk.next ha e
  obtain ⟨slot, hslot, hno, -⟩ := hkeeps n i (by rw [Process.ownerOf, hopen, ← howner]; rfl)
  rw [Sockets.Unused, hslot, Option.all_some, hno] at hfreed
  cases hfreed

/-- The handles of a process with a socket that was made and freed, although its `close` reported a failure. -/
theorem freed_leaves_nothing_first :
    ∃ w', socketsNext examplePosix exampleMade (.free true (.failed (.other 4) true)) = some w' ∧
      ∀ n s, w'.process.table n = some s → s.owner ≠ some true := by
  have hmade : (sockets examplePosix SocketAction.Smooth).Reached exampleMade :=
    .step (.init (exampleProcess_init _)) ⟨.make true ⟨0⟩ (exampleAnswers 3 true) 80, rfl, rfl⟩
  refine ⟨_, rfl, fun n s hs => ?_⟩
  exact freed_leaves_nothing (i := true) (hmade.step ⟨.free true (.failed (.other 4) true), rfl, rfl⟩) rfl hs

end Runs

end Atolla
