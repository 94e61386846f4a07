import Atolla.Lib.Observe
import Atolla.Sink.Replies

/-!
# The sink as a player

What a sink is for, without buffers, datagram bytes, message counters or a ring: a player that someone may borrow. It
has a queue of whole frames, and of its loan it knows the borrower, how long a frame lasts, the index of the last frame
and what is on show. Every function here says what one function of the sink comes to; `Sink.Refines` proves that a sink
and its player answer alike.
-/

set_option autoImplicit false

namespace Atolla

open Fifo Loop Pattern

/-! ## The state -/

/-- The frame on show, and when it was due. -/
structure Playing where
  origin : UInt32
  frame : Bytes
  deriving DecidableEq

/-- A frame goes on show. At the one time that stands for none it does not count as shown. -/
def playingSince (origin : UInt32) (frame : Bytes) : Option Playing :=
  if origin = NULL_TIME then none else some ⟨origin, frame⟩

/-- What a player knows of its loan. -/
structure Loan where
  borrower : UdpEndpoint
  /-- How long a frame lasts. -/
  duration : Nat
  /-- The index of the last frame; indices go round, and the one before the first is 255. -/
  last : UInt8
  playing : Option Playing
  deriving DecidableEq

inductive Standing where
  /-- It has no socket. -/
  | broken
  | idle
  | lent (loan : Loan)
  deriving DecidableEq

/-- A player. -/
structure Player where
  frameLen : Nat
  standing : Standing
  queue : Queue Bytes pendingFramesCapacity
  /-- All frames that ever left the queue: they went on show, or were late. -/
  shown : List Bytes
  /-- All it ever said, and to whom. -/
  said : List (Reply × UdpEndpoint)
  /-- When it last found a datagram. -/
  heard : UInt32
  /-- When it last sent a LENT. -/
  told : UInt32

/-- A player that was just made. -/
def Player.fresh (lights : Nat) (bound : Bool) : Player :=
  ⟨lights * colorChannelCount, if bound then .idle else .broken, Queue.empty, [], [], 0, 0⟩

/-- What the player said, as messages: the number of a message is its place. -/
def letters (said : List (Reply × UdpEndpoint)) : List (Bytes × UdpEndpoint) :=
  said.mapIdx fun i r => (r.1.bytes (UInt16.ofNat i), r.2)

namespace Player

/-- To others the player is a session. -/
def session (p : Player) : Session :=
  match p.standing with
  | .lent loan => .lent loan.borrower
  | _ => .open

/-- Its state, as the sink names it. -/
def state (p : Player) : AtollaSinkState :=
  match p.standing with
  | .broken => .stateError
  | .idle => .stateOpen
  | .lent _ => .stateLent

/-! ## Messages -/

def say (p : Player) (r : Reply) (receiver : UdpEndpoint) : Player := { p with said := p.said ++ [(r, receiver)] }

/-- The loan is over. What is queued stays. -/
def free (p : Player) : Player := { p with standing := .idle }

/-- A BORROW. -/
def borrow (p : Player) (now : UInt32) (sender : UdpEndpoint) (id : UInt16) (frameLength bufferLength : UInt8) :
    Player :=
  match p.session.borrowError sender frameLength bufferLength with
  | none =>
    { p with standing := .lent ⟨sender, frameLength.toNat, 255, none⟩, told := now }.say .lent sender
  | some code =>
    if code = .lentToOtherSource then p.say (.fail id code) sender else (p.say (.fail id code) sender).free

theorem length_extend (q : Queue Bytes pendingFramesCapacity) {n : Nat} {g : Bytes}
    (h : q.items.length + n ≤ pendingFramesCapacity) :
    (q.items ++ List.replicate n g).length ≤ pendingFramesCapacity := by
  rw [List.length_append, List.length_replicate]
  exact h

/-- A frame of the borrower: the gap since the last one is filled with copies of it. One that lies more than 128 ahead
counts as late. Without room for the copies the call never ends. -/
def store (p : Player) (loan : Loan) (idx : UInt8) (g : Bytes) : Run Player :=
  if 128 < (idx - loan.last).toNat then .ok p
  else if h : p.queue.items.length + (idx - loan.last).toNat ≤ pendingFramesCapacity then
    .ok { p with
      standing := .lent { loan with last := idx }
      queue := ⟨p.queue.items ++ List.replicate (idx - loan.last).toNat g, length_extend p.queue h⟩ }
  else .error .diverges

/-- An ENQUEUE. -/
def enqueue (p : Player) (sender : UdpEndpoint) (id : UInt16) (idx : UInt8) (frame : Bytes) : Run Player :=
  match p.standing with
  | .broken => .ok p
  | .idle => .ok (p.say (.fail id .notBorrowed) sender)
  | .lent loan =>
    if frame.length < 3 then .ok (p.say (.fail id .badMsg) sender).free
    else if udpEndpointEqual sender loan.borrower = true then p.store loan idx (cycle p.frameLen frame)
    else .ok (p.say (.fail id .lentToOtherSource) sender)

/-- A message, by what it asks. -/
def ask (p : Player) (now : UInt32) (sender : UdpEndpoint) (id : UInt16) : Request → Run Player
  | .borrow frameLength bufferLength => .ok (p.borrow now sender id frameLength bufferLength)
  | .enqueue idx frame => p.enqueue sender id idx frame
  | .other => .ok (p.say (.fail id .badMsg) sender)

/-- A message and its offset. -/
def askWire (clock : Nat → UInt32) (sender : UdpEndpoint) (p : Player) (m : Nat × WireMsg) : Run Player :=
  match m.2.request with
  | some r => p.ask (clock m.1) sender m.2.id r
  | none => .ok p

/-! ## Calls -/

/-- The borrower hears from time to time that it still is one. -/
def remind (p : Player) (clock : SinkClock) : Player :=
  match p.standing with
  | .lent loan =>
    if lentSendInterval < clock.send - p.told then { p with told := clock.lent }.say .lent loan.borrower else p
  | _ => p

/-- A borrower that is silent for too long loses its loan. -/
def expire (p : Player) (now : UInt32) : Player :=
  match p.standing with
  | .lent loan => if dropTimeout < now - p.heard then (p.say (.fail 0 .timeout) loan.borrower).free else p
  | _ => p

end Player

/-- A call of the application: an update that finds nothing, or a datagram of messages, and a get with a buffer. -/
inductive SinkInput where
  | silence (clock : SinkClock)
  | messages (clock : SinkClock) (sender : UdpEndpoint) (ms : List WireMsg)
  | get (now : UInt32) (frame : Bytes)

/-- The datagram is some complete messages of the known types and fits the receive buffer. -/
def SinkInput.Complete : SinkInput → Prop
  | .messages _ _ ms => ms ≠ [] ∧ (∀ m ∈ ms, m.request.isSome) ∧ (wire ms).length ≤ sinkRecvBufLen
  | _ => True

/-- The outcome of a call. -/
inductive SinkAnswer where
  /-- The state returned, and what was sent. -/
  | state (state : AtollaSinkState) (sent : List (Bytes × UdpEndpoint))
  /-- The result and the caller's buffer. -/
  | get (result : Bool) (frame : Bytes)
  deriving DecidableEq

namespace Player

/-- `sink_update`. -/
def update (p : Player) : SinkInput → Run Player
  | .silence clock => .ok ((p.expire clock.received).remind clock)
  | .messages clock sender ms => do
    let p ← (withOffsets 0 ms).foldlM (askWire clock.message sender) p
    return { p with heard := clock.received }.remind clock
  | .get _ _ => .ok p

/-- `atolla_sink_state`. -/
def hear (p : Player) (i : SinkInput) : Run Player := if p.standing = .broken then .ok p else p.update i

/-- How many frames are due once one is on show. -/
def due (p : Player) (loan : Loan) (origin now : UInt32) : Nat :=
  min p.queue.items.length (((now - origin).toNat - 1) / loan.duration)

theorem length_skip (q : Queue Bytes pendingFramesCapacity) (k : Nat) :
    (q.items.drop k).length ≤ pendingFramesCapacity := by
  rw [List.length_drop]
  exact (Nat.sub_le _ _).trans q.bound

/-- The `k` oldest frames go, and the last of them is on show since `origin`. -/
def advance (p : Player) (loan : Loan) (k : Nat) (origin : UInt32) (frame : Bytes) : Player :=
  { p with
    standing := .lent { loan with playing := playingSince origin frame }
    queue := ⟨p.queue.items.drop k, length_skip p.queue k⟩
    shown := p.shown ++ p.queue.items.take k }

/-- `atolla_sink_get`: the player, and the frame it shows, if any. -/
def play (p : Player) (now : UInt32) : Player × Option Bytes :=
  match p.standing with
  | .lent loan =>
    match loan.playing with
    | none =>
      match p.queue.items.head? with
      | none => (p, none)
      | some frame => (p.advance loan 1 now frame, some frame)
    | some ⟨origin, current⟩ =>
      let frame := (p.queue.items.take (p.due loan origin now)).getLast?.getD current
      (p.advance loan (p.due loan origin now) (origin + UInt32.ofNat (p.due loan origin now * loan.duration)) frame,
        some frame)
  | _ => (p, none)

/-- A call, with its outcome. -/
def serve (p : Player) (i : SinkInput) : Run (Player × SinkAnswer) :=
  match i with
  | .get now frame =>
    .ok ((p.play now).1, match (p.play now).2 with
      | some shown => .get true (cycle frame.length shown)
      | none => .get false frame)
  | i => do
    let p' ← p.hear i
    return (p', .state p'.state ((letters p'.said).drop p.said.length))

/-! ## What a player does not end -/

section Fail

variable {p : Player} {sender : UdpEndpoint} {f : Fault}

end Fail

end Player

end Atolla
