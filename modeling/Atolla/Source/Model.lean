import Atolla.Msg.Datagram
import Atolla.Udp

/-!
# The source (`atolla/source.cpp`)

The functions of the source on the state `Source`, the `AtollaSourcePrivate` of the source. What one call of
`source_update` finds outside, the datagram, the readings of the clock and whether a send succeeds, is its argument
(`SourceEnv`). Fields that `source_private_make` leaves unwritten start as `none`.
-/

set_option autoImplicit false

namespace Atolla

open Loop

/-- `AtollaSourceState`. -/
inductive AtollaSourceState where
  | stateWaiting
  | stateOpen
  | stateError
  deriving DecidableEq, Repr

/-- `AtollaSourceSpec`. -/
structure AtollaSourceSpec where
  sinkHostname : String
  sinkPort : Int
  frameDurationMs : Int
  maxBufferedFrames : Int
  retryTimeoutMs : Int
  disconnectTimeoutMs : Int
  asyncMake : Bool

namespace Source

/-- `recv_buf_len` of the source. -/
def recvBufLen : Nat := 32

/-- `retry_timeout_ms_default`. -/
def retryTimeoutMsDefault : UInt32 := 100

/-- `disconnect_timeout_ms_default`. -/
def disconnectTimeoutMsDefault : UInt32 := 750

/-- `max_buffered_frames_default`. -/
def maxBufferedFramesDefault : Int := 16

/-- `NULL_TIME`. -/
def NULL_TIME : UInt32 := 0xFFFFFFFF

end Source

/-- `AtollaSourcePrivate`. The socket is the list of the datagrams it sent. -/
structure Source where
  state : AtollaSourceState
  sock : List Bytes
  recvBuf : Bytes
  builder : MsgBuilder
  nextFrameIdx : Int
  frameDurationMs : UInt32
  maxBufferedFrames : Int
  retryTimeoutMs : UInt32
  disconnectTimeoutMs : UInt32
  firstBorrowTime : UInt32
  lastBorrowTime : UInt32
  lastFrameTime : UInt32
  lastRecvLentTime : Option UInt32
  errorMsg : Option String

/-- What one `source_update` finds outside of the source. -/
structure SourceEnv where
  /-- The datagram at the socket. -/
  datagram : Option Bytes
  /-- The clock in `source_lent`, for the message at an offset. -/
  message : Nat → UInt32
  /-- The clock in `source_manage_borrow_packet_loss`. -/
  manage : UInt32
  /-- The clock in `source_send_borrow`. -/
  borrow : UInt32
  /-- Whether that BORROW is sent. -/
  borrowSent : Bool
  /-- The clock in `source_ensure_lent_resent`. -/
  ensure : UInt32

/-- The values of an `int`. -/
def IsInt (x : Int) : Prop := -2 ^ 31 ≤ x ∧ x < 2 ^ 31

instance (x : Int) : Decidable (IsInt x) := inferInstanceAs (Decidable (_ ∧ _))

/-- An `unsigned int` as an `int`. -/
def asInt (x : UInt32) : Int := if x.toNat < 2 ^ 31 then x.toNat else x.toNat - 2 ^ 32

/-- `a / b` on `unsigned int`. -/
def uintDiv (a b : UInt32) : Run UInt32 := if b = 0 then .error .divByZero else .ok (a / b)

/-- A read of a field. -/
def readField {α : Type} : Option α → Run α
  | some a => .ok a
  | none => .error .uninitialised

/-! ## State changes -/

/-- `source_fail`. -/
def sourceFail (source : Source) (errorMsg : String) : Source :=
  { source with state := .stateError, errorMsg := some errorMsg }

/-- `source_lent`; `now` is the reading of the clock. -/
def sourceLent (now : UInt32) (source : Source) : Source :=
  match source.state with
  | .stateWaiting =>
    { source with state := .stateOpen, lastFrameTime := Source.NULL_TIME, lastRecvLentTime := some now }
  | .stateOpen => { source with lastRecvLentTime := some now }
  | .stateError => source

/-- `udp_socket_send`: a datagram that cannot be sent is lost. -/
def sourceSend (source : Source) (bytes : Bytes) (sent : Bool) : Source :=
  if sent then { source with sock := source.sock ++ [bytes] } else source

/-- `source_send_borrow`; `now` is the reading of the clock and `sent` the outcome of the send. -/
def sourceSendBorrow (H : Host) (now : UInt32) (sent : Bool) (source : Source) : Run Source := do
  let source := { source with lastBorrowTime := now }
  let builder ← msgBuilderBorrow H source.builder source.frameDurationMs.toUInt8 (UInt8.ofInt source.maxBufferedFrames)
  let bytes ← readBytes builder.msgBuf.data builder.msgBuf.size
  return sourceSend { source with builder := builder } bytes sent

/-! ## Messages -/

/-- The message of `source_fail` for an error code. -/
def failMsg (code : UInt8) : String :=
  if code = 0 then "The sink signalled that is not currently borrowed by this source."
  else if code = 1 then "The sink does not have enough memory for a frame queue of the requested length."
  else if code = 2 then
    "The sink cannot accomodate the reqest for the given frame duration because it is too short. " ++
      "Try a shorter frame duration."
  else if code = 3 then
    "The sink refused a request to borrow or enqueue because it is currently lent to another source. " ++
      "Try again later, when the other source has stopped transmission."
  else if code = 4 then
    "The sink signalled that it could not understand a message or that a message contained a not further specified " ++
      "invalid value. This might be due to incompatible versions of the atolla protocol."
  else if code = 5 then
    "The sink signalled that it did not receive packets for so long, it deems the connection no longer working. " ++
      "This might be due to bad signal quality or the source failing to enqueue frames for too long."
  else "The sink signalled an unrecoverable error state."

/-- The body of the loop of `source_iterate_recv_buf`. -/
def sourceHandleMsg (H : Host) (now : UInt32) (source : Source) (iter : MsgIter) : Run Source := do
  let type ← msgIterType iter
  match type with
  | .lent => return sourceLent now source
  | .fail => do
    let code ← msgIterFailErrorCode H iter
    return sourceFail source (failMsg code)
  | _ =>
    return sourceFail source ("Malformed or unknown message type received from sink. " ++
      "This might be due to incompatible versions of the atolla protocol.")

/-- `source_iterate_recv_buf`; `clock o` is the reading of the clock at the message at offset `o`. -/
def sourceIterateRecvBuf (H : Host) (clock : Nat → UInt32) (source : Source) (receivedBytes : Nat) : Run Source := do
  let (source, _) ← msgLoop H (fun source iter => sourceHandleMsg H (clock iter.msgBufStart) source iter)
    receivedBytes source (msgIterMake source.recvBuf receivedBytes)
  return source

/-! ## Updates -/

/-- `source_receive`. The socket is connected to the sink, so nothing else sends to it. -/
def sourceReceive (H : Host) (env : SourceEnv) (source : Source) : Run Source :=
  match udpSocketReceiveFrom source.recvBuf Source.recvBufLen (env.datagram.map fun bytes => ⟨bytes, ⟨[], 0⟩⟩) with
  | some (recvBuf, receivedLen, _) => sourceIterateRecvBuf H env.message { source with recvBuf := recvBuf } receivedLen
  | none => .ok source

/-- `source_manage_borrow_packet_loss`. -/
def sourceManageBorrowPacketLoss (H : Host) (env : SourceEnv) (source : Source) : Run Source :=
  if source.state = .stateWaiting then
    if source.disconnectTimeoutMs < env.manage - source.firstBorrowTime then
      .ok (sourceFail source "Tried to borrow the sink, but the attempt timed out.")
    else if source.retryTimeoutMs < env.manage - source.lastBorrowTime then
      sourceSendBorrow H env.borrow env.borrowSent source
    else
      .ok source
  else
    .ok source

/-- `source_ensure_lent_resent`. -/
def sourceEnsureLentResent (env : SourceEnv) (source : Source) : Run Source :=
  if source.state = .stateOpen then do
    let lastRecvLentTime ← readField source.lastRecvLentTime
    if source.disconnectTimeoutMs ≤ env.ensure - lastRecvLentTime then
      return sourceFail source "The connection to the sink was lost."
    else
      return source
  else
    .ok source

/-- `source_update`. -/
def sourceUpdate (H : Host) (env : SourceEnv) (source : Source) : Run Source := do
  let source ← sourceReceive H env source
  let source ← sourceManageBorrowPacketLoss H env source
  sourceEnsureLentResent env source

/-! ## Creation -/

/-- `source_private_make`. -/
def sourcePrivateMake (H : Host) (spec : AtollaSourceSpec) : Source where
  state := .stateWaiting
  sock := []
  recvBuf := malloc H Source.recvBufLen
  builder := ⟨⟨[], 0, 0⟩, 0⟩
  nextFrameIdx := 0
  frameDurationMs := UInt32.ofInt spec.frameDurationMs
  maxBufferedFrames := if spec.maxBufferedFrames = 0 then Source.maxBufferedFramesDefault else spec.maxBufferedFrames
  retryTimeoutMs :=
    if spec.retryTimeoutMs = 0 then Source.retryTimeoutMsDefault else UInt32.ofInt spec.retryTimeoutMs
  disconnectTimeoutMs :=
    if spec.disconnectTimeoutMs = 0 then Source.disconnectTimeoutMsDefault else UInt32.ofInt spec.disconnectTimeoutMs
  firstBorrowTime := 0
  lastBorrowTime := 0
  lastFrameTime := 0
  lastRecvLentTime := none
  errorMsg := none

/-- What `atolla_source_make` finds outside of the source. -/
structure MakeEnv where
  /-- Whether `udp_socket_init` succeeds. -/
  bound : Bool
  /-- Whether `udp_socket_set_receiver` succeeds. -/
  resolved : Bool
  /-- The clock for `first_borrow_time`. -/
  first : UInt32
  /-- The clock in `source_send_borrow`. -/
  borrow : UInt32
  /-- Whether the first BORROW is sent. -/
  borrowSent : Bool
  /-- What the updates of a blocking make find. -/
  updates : List SourceEnv

/-- `source_await_make_completion`, over the updates it makes; when they are used up it is still waiting. -/
def sourceAwaitMakeCompletion (H : Host) : List SourceEnv → Source → Run Source
  | [], source => if source.state = .stateWaiting then .error .diverges else .ok source
  | env :: envs, source =>
    if source.state = .stateWaiting then do
      let source ← sourceUpdate H env source
      sourceAwaitMakeCompletion H envs source
    else
      .ok source

/-- `atolla_source_make`. -/
def atollaSourceMake (H : Host) (spec : AtollaSourceSpec) (env : MakeEnv) : Run Source := do
  assert (0 ≤ spec.sinkPort ∧ spec.sinkPort < 65536)
  let source := { sourcePrivateMake H spec with builder := msgBuilderInit H }
  let source ←
    if env.bound then
      if env.resolved then
        sourceSendBorrow H env.borrow env.borrowSent { source with firstBorrowTime := env.first }
      else
        pure (sourceFail { source with state := .stateError } "Sink hostname could not be resolved.")
    else
      pure (sourceFail source "Sink could not bind to port.")
  if spec.asyncMake then return source else sourceAwaitMakeCompletion H env.updates source

/-! ## Reading the state -/

/-- `atolla_source_state`; the state it returns is the field. -/
def atollaSourceState (H : Host) (env : SourceEnv) (source : Source) : Run Source := sourceUpdate H env source

/-- `atolla_source_error_msg`. -/
def atollaSourceErrorMsg (source : Source) : Run (Option String) :=
  if source.state = .stateError then do
    let errorMsg ← readField source.errorMsg
    return some errorMsg
  else
    .ok none

/-- `atolla_source_put_ready_count`; `now` is the reading of the clock behind the update. -/
def atollaSourcePutReadyCount (H : Host) (env : SourceEnv) (now : UInt32) (source : Source) : Run (Int × Source) := do
  let source ← sourceUpdate H env source
  if source.state = .stateError ∨ source.state = .stateWaiting then
    return (0, source)
  else do
    assert (source.state = .stateOpen)
    if source.lastFrameTime = Source.NULL_TIME then
      return (source.maxBufferedFrames, source)
    else do
      let count ← uintDiv (now - source.lastFrameTime) source.frameDurationMs
      return (asInt count, source)

/-- `atolla_source_put_ready_timeout`; `now` and `later` are the readings of the clock behind the update. -/
def atollaSourcePutReadyTimeout (H : Host) (env : SourceEnv) (now later : UInt32) (source : Source) :
    Run (Int × Source) := do
  let source ← sourceUpdate H env source
  if source.state = .stateError ∨ source.state = .stateWaiting then
    return (-1, source)
  else if source.lastFrameTime = Source.NULL_TIME then
    return (0, source)
  else do
    let count ← uintDiv (now - source.lastFrameTime) source.frameDurationMs
    if 0 < asInt count then return (0, source)
    else return (asInt (source.lastFrameTime + source.frameDurationMs - later), source)

/-! ## Putting frames -/

/-- What `atolla_source_put` finds outside of the source. -/
structure PutEnv where
  /-- Its own update. -/
  update : SourceEnv
  /-- The update of `atolla_source_state`. -/
  state : SourceEnv
  /-- The update of `atolla_source_put_ready_timeout`. -/
  timeout : SourceEnv
  /-- The two readings of the clock of `atolla_source_put_ready_timeout`. -/
  now : UInt32
  later : UInt32
  /-- Whether the ENQUEUE is sent. -/
  sent : Bool
  /-- The clock behind the send. -/
  after : UInt32

/-- `atolla_source_put` up to its `time_sleep`: the timeout, unless the source is not open. -/
def sourcePutTimeout (H : Host) (env : PutEnv) (source : Source) : Run (Option Int × Source) := do
  let source ← sourceUpdate H env.update source
  let source ← atollaSourceState H env.state source
  if source.state ≠ .stateOpen then
    return (none, source)
  else do
    let (timeout, source) ← atollaSourcePutReadyTimeout H env.timeout env.now env.later source
    return (some timeout, source)

/-- `atolla_source_put` behind its `time_sleep`. -/
def sourcePutFrame (H : Host) (env : PutEnv) (source : Source) (frame : Bytes) (frameLen : Nat) :
    Run (Bool × Source) := do
  let builder ← msgBuilderEnqueue H source.builder (UInt8.ofInt source.nextFrameIdx) frame frameLen
  let bytes ← readBytes builder.msgBuf.data builder.msgBuf.size
  let source := sourceSend { source with builder := builder } bytes env.sent
  if env.sent then
    let source := { source with nextFrameIdx := (source.nextFrameIdx + 1).tmod 256 }
    if source.lastFrameTime = Source.NULL_TIME then
      return (true, { source with
        lastFrameTime := env.after - UInt32.ofInt (source.maxBufferedFrames - 1) * source.frameDurationMs })
    else
      return (true, { source with lastFrameTime := source.lastFrameTime + source.frameDurationMs })
  else
    return (false, source)

/-- `atolla_source_put`. It sends also when the update of `atolla_source_put_ready_timeout` fails the source. -/
def atollaSourcePut (H : Host) (env : PutEnv) (source : Source) (frame : Bytes) (frameLen : Nat) :
    Run (Bool × Source) := do
  let (timeout, source) ← sourcePutTimeout H env source
  match timeout with
  | none => return (false, source)
  | some _ => sourcePutFrame H env source frame frameLen

/-! ## Runs -/

/-- A call of the application. -/
inductive SourceCall where
  | state (env : SourceEnv)
  | putReadyCount (env : SourceEnv) (now : UInt32)
  | putReadyTimeout (env : SourceEnv) (now later : UInt32)
  | put (env : PutEnv) (frame : Bytes)

/-- The source after a call. -/
def sourceCall (H : Host) (source : Source) : SourceCall → Run Source
  | .state env => atollaSourceState H env source
  | .putReadyCount env now => do
    let (_, source) ← atollaSourcePutReadyCount H env now source
    return source
  | .putReadyTimeout env now later => do
    let (_, source) ← atollaSourcePutReadyTimeout H env now later source
    return source
  | .put env frame => do
    let (_, source) ← atollaSourcePut H env source frame frame.length
    return source

/-- The states of a source that was made from a spec and then called in any way. -/
inductive SourceReachable (H : Host) (spec : AtollaSourceSpec) : Source → Prop
  | make {env : MakeEnv} {source : Source} : atollaSourceMake H spec env = .ok source → SourceReachable H spec source
  | call {source source' : Source} {c : SourceCall} : SourceReachable H spec source →
      sourceCall H source c = .ok source' → SourceReachable H spec source'

end Atolla
