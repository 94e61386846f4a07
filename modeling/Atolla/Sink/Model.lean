import Atolla.Mem.Ring
import Atolla.Msg.Datagram
import Atolla.Sink.Pattern
import Atolla.Udp

/-!
# The sink (`atolla/sink.cpp`)

The functions of the sink on the state `Sink`, the `AtollaSinkPrivate` of the source. Outside of the sink are the
datagrams a receive call finds and the readings of the clock; both are arguments. Two fields, `enqueued` and
`dequeued`, are a history that the code never reads: the frames `sink_enqueue` stored and the frames
`atolla_sink_get` moved into `current_frame`, in order.
-/

set_option autoImplicit false

namespace Atolla

open Loop

/-- `AtollaSinkState`. -/
inductive AtollaSinkState where
  | stateError
  | stateOpen
  | stateLent
  deriving DecidableEq, Repr

/-- `AtollaSinkSpec`. -/
structure AtollaSinkSpec where
  port : Int
  lightsCount : Int

/-- `recv_buf_len` of the sink. -/
def sinkRecvBufLen : Nat := 1024

/-- `color_channel_count`. -/
def colorChannelCount : Nat := 3

/-- `pending_frames_capacity`. -/
def pendingFramesCapacity : Nat := 128

/-- `drop_timeout`. -/
def dropTimeout : UInt32 := 1500

/-- `lent_send_interval`. -/
def lentSendInterval : UInt32 := 500

/-- `frame_length_ms_min`. -/
def frameLengthMsMin : Int := 10

/-- `NULL_TIME`. -/
def NULL_TIME : UInt32 := 0xFFFFFFFF

/-- `ATOLLA_ERROR_CODE_*`. -/
inductive ErrorCode where
  | notBorrowed
  | requestedBufferTooLarge
  | requestedFrameDurationTooShort
  | lentToOtherSource
  | badMsg
  | timeout
  deriving DecidableEq, Repr

/-- The value of an `ATOLLA_ERROR_CODE_*` constant. -/
def ErrorCode.toByte : ErrorCode → UInt8
  | .notBorrowed => 0
  | .requestedBufferTooLarge => 1
  | .requestedFrameDurationTooShort => 2
  | .lentToOtherSource => 3
  | .badMsg => 4
  | .timeout => 5

/-- `AtollaSinkPrivate`. The socket is the list of the datagrams handed to it. -/
structure Sink where
  state : AtollaSinkState
  errorMsg : Option String
  socket : List (Bytes × UdpEndpoint)
  borrowerEndpoint : UdpEndpoint
  lightsCount : Nat
  frameDurationMs : UInt32
  builder : MsgBuilder
  recvBuf : Bytes
  currentFrame : MemBlock
  receivedFrame : MemBlock
  pendingFrames : MemRing
  timeOrigin : UInt32
  lastEnqueuedFrameIdx : Int
  lastRecvTime : UInt32
  lastSendLentTime : UInt32
  /-- History: the frames stored. -/
  enqueued : List Bytes
  /-- History: the frames moved into `current_frame`. -/
  dequeued : List Bytes

/-! ## Creation -/

/-- `sink_private_make`. -/
def sinkPrivateMake (H : Host) (spec : AtollaSinkSpec) : Run Sink := do
  assert (0 ≤ spec.port ∧ spec.port < 65536)
  assert (1 ≤ spec.lightsCount)
  let frameLen := spec.lightsCount.toNat * colorChannelCount
  assert (frameLen + 10 < sinkRecvBufLen)
  return {
    state := .stateOpen
    errorMsg := none
    socket := []
    borrowerEndpoint := ⟨List.replicate 128 0, 0⟩
    lightsCount := spec.lightsCount.toNat
    frameDurationMs := 0
    builder := ⟨⟨[], 0, 0⟩, 0⟩
    recvBuf := List.replicate sinkRecvBufLen 0
    currentFrame := memBlockAlloc H frameLen
    receivedFrame := memBlockAlloc H frameLen
    pendingFrames := memRingAlloc H (frameLen * pendingFramesCapacity)
    timeOrigin := 0
    lastEnqueuedFrameIdx := 0
    lastRecvTime := 0
    lastSendLentTime := 0
    enqueued := []
    dequeued := [] }

/-- `sink_panic`. -/
def sinkPanic (sink : Sink) (errorMsg : String) : Sink :=
  { sink with state := .stateError, errorMsg := some errorMsg }

/-- `atolla_sink_make`; `bound` tells whether the socket could be bound to the port. -/
def atollaSinkMake (H : Host) (spec : AtollaSinkSpec) (bound : Bool) : Run Sink := do
  let sink ← sinkPrivateMake H spec
  let sink := if bound then sink else sinkPanic sink "Failed to bind source to port specified in spec."
  return { sink with builder := msgBuilderInit H }

/-! ## Replies -/

/-- `sink_send_lent`; `now` is the reading of the clock behind the send. -/
def sinkSendLent (H : Host) (now : UInt32) (sink : Sink) : Run Sink := do
  let builder ← msgBuilderLent H sink.builder
  let bytes ← readBytes builder.msgBuf.data builder.msgBuf.size
  return { sink with
    builder := builder
    socket := sink.socket ++ [(bytes, sink.borrowerEndpoint)]
    lastSendLentTime := now }

/-- `sink_send_fail_to`. -/
def sinkSendFailTo (H : Host) (sink : Sink) (offendingMsgId : UInt16) (errorCode : ErrorCode) (receiver : UdpEndpoint) :
    Run Sink := do
  let builder ← msgBuilderFail H sink.builder offendingMsgId errorCode.toByte
  let bytes ← readBytes builder.msgBuf.data builder.msgBuf.size
  return { sink with builder := builder, socket := sink.socket ++ [(bytes, receiver)] }

/-- `sink_send_fail`. -/
def sinkSendFail (H : Host) (sink : Sink) (offendingMsgId : UInt16) (errorCode : ErrorCode) : Run Sink :=
  sinkSendFailTo H sink offendingMsgId errorCode sink.borrowerEndpoint

/-- `sink_drop_borrow`. -/
def sinkDropBorrow (sink : Sink) : Sink := { sink with state := .stateOpen }

/-! ## Messages -/

/-- `bounded_diff`. -/
def boundedDiff (fromIdx toIdx cap : Int) : Int := if toIdx < fromIdx then cap - fromIdx + toIdx else toIdx - fromIdx

/-- `sink_handle_borrow`; `now` is the reading of the clock in `sink_send_lent`. -/
def sinkHandleBorrow (H : Host) (now : UInt32) (sink : Sink) (msgId : UInt16) (frameLengthMs : Int)
    (bufferLength : Nat) (sender : UdpEndpoint) : Run Sink :=
  if sink.state = .stateOpen ∨
      (sink.state = .stateLent ∧ udpEndpointEqual sender sink.borrowerEndpoint = true) then
    let requiredFrameBufSize := bufferLength * (sink.lightsCount * colorChannelCount)
    if sink.pendingFrames.buf.capacity < requiredFrameBufSize then do
      let sink ← sinkSendFailTo H sink msgId .requestedBufferTooLarge sender
      return if sink.state = .stateLent then sinkDropBorrow sink else sink
    else if frameLengthMs < frameLengthMsMin then do
      let sink ← sinkSendFailTo H sink msgId .requestedFrameDurationTooShort sender
      return if sink.state = .stateLent then sinkDropBorrow sink else sink
    else
      sinkSendLent H now { sink with
        borrowerEndpoint := sender
        frameDurationMs := UInt32.ofInt frameLengthMs
        timeOrigin := NULL_TIME
        -- `NULL_TIME` as an `int`
        lastEnqueuedFrameIdx := -1
        lastRecvTime := NULL_TIME
        state := .stateLent }
  else if sink.state = .stateLent then
    sinkSendFailTo H sink msgId .lentToOtherSource sender
  else
    .ok sink

/-- `sink_enqueue`. -/
def sinkEnqueue (sink : Sink) (frame : MemBlock) : Run Sink := do
  let data ← fillWithPattern sink.receivedFrame.data sink.receivedFrame.capacity frame.data frame.size
  let sink := { sink with receivedFrame := { sink.receivedFrame with data := data } }
  let (ok, pendingFrames) ←
    memRingEnqueue sink.pendingFrames sink.receivedFrame.data sink.receivedFrame.capacity
  let sink := { sink with pendingFrames := pendingFrames }
  if ok then
    return { sink with
      lastEnqueuedFrameIdx := (sink.lastEnqueuedFrameIdx + 1).tmod 256
      enqueued := sink.enqueued ++ [sink.receivedFrame.data.take sink.receivedFrame.capacity] }
  else
    return sink

/-- The loop of `sink_handle_enqueue`, for at most `rounds` rounds. -/
def sinkEnqueueLoop (rounds : Nat) (sink : Sink) (frameIdx : Nat) (frame : MemBlock) : Run Sink :=
  whileM .diverges (fun s : Sink => decide (0 < boundedDiff s.lastEnqueuedFrameIdx frameIdx 256))
    (fun s => sinkEnqueue s frame) rounds sink

/-- `sink_handle_enqueue` with at most `rounds` rounds of its loop. -/
def sinkHandleEnqueueFor (rounds : Nat) (H : Host) (sink : Sink) (msgId : UInt16) (frameIdx : Nat)
    (frame : MemBlock) (sender : UdpEndpoint) : Run Sink :=
  if sink.state = .stateError then .ok sink
  else if sink.state = .stateOpen then sinkSendFailTo H sink msgId .notBorrowed sender
  else if frame.size < 3 then do
    let sink ← sinkSendFailTo H sink msgId .badMsg sender
    return sinkDropBorrow sink
  else if udpEndpointEqual sender sink.borrowerEndpoint = true then
    if 128 < boundedDiff sink.lastEnqueuedFrameIdx frameIdx 256 then .ok sink
    else sinkEnqueueLoop rounds sink frameIdx frame
  else
    sinkSendFailTo H sink msgId .lentToOtherSource sender

/-- `sink_handle_enqueue`. The loop starts at a distance of at most 128 and comes one closer with every frame it
stores: if 128 rounds do not end it, nothing does (`sinkHandleEnqueueFor_eq`). -/
def sinkHandleEnqueue : Host → Sink → UInt16 → Nat → MemBlock → UdpEndpoint → Run Sink := sinkHandleEnqueueFor 128

/-- The body of the loop of `sink_iterate_recv_buf`; `now` is the reading of the clock while it runs. -/
def sinkHandleMsg (H : Host) (now : UInt32) (sender : UdpEndpoint) (sink : Sink) (iter : MsgIter) : Run Sink := do
  let type ← msgIterType iter
  let msgId ← msgIterMsgId H iter
  match type with
  | .borrow => do
    let frameLen ← msgIterBorrowFrameLength H iter
    let bufferLen ← msgIterBorrowBufferLength H iter
    sinkHandleBorrow H now sink msgId frameLen.toNat bufferLen.toNat sender
  | .enqueue => do
    let frameIdx ← msgIterEnqueueFrameIdx H iter
    let frame ← msgIterEnqueueFrame H iter
    sinkHandleEnqueue H sink msgId frameIdx.toNat frame sender
  | _ => sinkSendFailTo H sink msgId .badMsg sender

/-- `sink_iterate_recv_buf`; `clock o` is the reading of the clock while the message at offset `o` is handled. -/
def sinkIterateRecvBuf (H : Host) (clock : Nat → UInt32) (sink : Sink) (receivedBytes : Nat) (sender : UdpEndpoint) :
    Run Sink := do
  let (sink, _) ← msgLoop H (fun sink iter => sinkHandleMsg H (clock iter.msgBufStart) sender sink iter)
    receivedBytes sink (msgIterMake sink.recvBuf receivedBytes)
  return sink

/-! ## Updates -/

/-- The readings of the clock in one `sink_update`. -/
structure SinkClock where
  /-- While the message at an offset is handled. -/
  message : Nat → UInt32
  /-- Behind the messages, or at the test for a silent borrower. -/
  received : UInt32
  /-- At the test for the next LENT. -/
  send : UInt32
  /-- Behind that LENT. -/
  lent : UInt32

/-- `sink_receive`: one attempt to receive. -/
def sinkReceive (H : Host) (clock : SinkClock) (sink : Sink) (datagram : Option Datagram) : Run Sink :=
  match udpSocketReceiveFrom sink.recvBuf sinkRecvBufLen datagram with
  | some (recvBuf, receivedBytes, sender) => do
    let sink ← sinkIterateRecvBuf H clock.message { sink with recvBuf := recvBuf } receivedBytes sender
    return { sink with lastRecvTime := clock.received }
  | none =>
    if sink.state = .stateLent ∧ dropTimeout < clock.received - sink.lastRecvTime then do
      let sink ← sinkSendFail H sink 0 .timeout
      return sinkDropBorrow sink
    else
      .ok sink

/-- `sink_send`. -/
def sinkSend (H : Host) (clock : SinkClock) (sink : Sink) : Run Sink :=
  if sink.state = .stateLent then
    if lentSendInterval < clock.send - sink.lastSendLentTime then sinkSendLent H clock.lent sink else .ok sink
  else
    .ok sink

/-- `sink_update`. -/
def sinkUpdate (H : Host) (clock : SinkClock) (sink : Sink) (datagram : Option Datagram) : Run Sink := do
  let sink ← sinkReceive H clock sink datagram
  sinkSend H clock sink

/-- `atolla_sink_state`; the state it returns is the field. -/
def atollaSinkState (H : Host) (clock : SinkClock) (sink : Sink) (datagram : Option Datagram) : Run Sink :=
  if sink.state ≠ .stateError then sinkUpdate H clock sink datagram else .ok sink

/-- `atolla_sink_error_msg`. -/
def atollaSinkErrorMsg (sink : Sink) : Option String := sink.errorMsg

/-! ## Showing frames -/

/-- The `mem_ring_dequeue` of `atolla_sink_get`, from `pending_frames` into `current_frame`. -/
def sinkDequeue (sink : Sink) : Run (Bool × Sink) := do
  let (ok, pendingFrames, data) ←
    memRingDequeue sink.pendingFrames sink.currentFrame.data sink.currentFrame.capacity
  let sink := { sink with
    pendingFrames := pendingFrames
    currentFrame := { sink.currentFrame with data := data }
    dequeued := if ok then sink.dequeued ++ [data.take sink.currentFrame.capacity] else sink.dequeued }
  return (ok, sink)

/-- One round of the loop of `atolla_sink_get`; the flag is false after its `break`. -/
def sinkCatchUpRound (p : Sink × Bool) : Run (Sink × Bool) := do
  let (ok, sink) ← sinkDequeue p.1
  if ok then return ({ sink with timeOrigin := sink.timeOrigin + sink.frameDurationMs }, true)
  else return (sink, false)

/-- The loop of `atolla_sink_get`. Every round but the one with the `break` takes bytes out of the ring. -/
def sinkCatchUp (now : UInt32) (sink : Sink) : Run Sink := do
  let (sink, _) ← whileM .diverges
    (fun p : Sink × Bool => p.2 && decide (p.1.frameDurationMs < now - p.1.timeOrigin))
    sinkCatchUpRound (sink.pendingFrames.len + 1) (sink, true)
  return sink

/-- `atolla_sink_get`: its result, the sink and the caller's buffer; `now` is the reading of the clock. -/
def atollaSinkGet (now : UInt32) (sink : Sink) (frame : Bytes) (frameLen : Nat) : Run (Bool × Sink × Bytes) :=
  if sink.state = .stateLent then
    if sink.timeOrigin = NULL_TIME then do
      let (ok, sink) ← sinkDequeue sink
      if ok then
        let sink := { sink with timeOrigin := now }
        let frame ← fillWithPattern frame frameLen sink.currentFrame.data sink.currentFrame.capacity
        return (true, sink, frame)
      else
        return (false, sink, frame)
    else do
      let sink ← sinkCatchUp now sink
      let frame ← fillWithPattern frame frameLen sink.currentFrame.data sink.currentFrame.capacity
      return (true, sink, frame)
  else
    .ok (false, sink, frame)

/-! ## Runs -/

/-- A call of the application. -/
inductive SinkCall where
  /-- `atolla_sink_state`, with the datagram its receive finds. -/
  | state (clock : SinkClock) (datagram : Option Datagram)
  /-- `atolla_sink_get` with a buffer. -/
  | get (now : UInt32) (frame : Bytes)

/-- The sink after a call. -/
def sinkCall (H : Host) (sink : Sink) : SinkCall → Run Sink
  | .state clock datagram => atollaSinkState H clock sink datagram
  | .get now frame => do
    let (_, sink, _) ← atollaSinkGet now sink frame frame.length
    return sink

/-- The states of a sink that was made and then called in any way. -/
inductive Reachable (H : Host) : Sink → Prop
  | make {spec : AtollaSinkSpec} {bound : Bool} {sink : Sink} :
      atollaSinkMake H spec bound = .ok sink → Reachable H sink
  | call {sink sink' : Sink} {c : SinkCall} : Reachable H sink → sinkCall H sink c = .ok sink' → Reachable H sink'

end Atolla
