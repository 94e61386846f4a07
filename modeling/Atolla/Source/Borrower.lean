import Atolla.Lib.Observe
import Atolla.Source.Hears

/-!
# The source as a borrower

What a source is for, without buffers, datagram bytes, message counters or fields that are not initialised: a borrower
that asks a sink for its loan until it has it or gives up, then sends it frames one index after the other, and keeps
account of how far they reach. Every function here says what one function of the source comes to; `Source.Refines`
proves that a source and its borrower answer alike.
-/

set_option autoImplicit false

namespace Atolla

open Loop

/-! ## The state -/

/-- What a borrower asks for, and how long it waits. -/
structure Plan where
  /-- How long a frame lasts. -/
  duration : UInt32
  /-- How many frames it may be ahead. -/
  ahead : Int
  retry : UInt32
  patience : UInt32
  deriving DecidableEq

/-- The plan of a spec, with its defaults. -/
def AtollaSourceSpec.plan (spec : AtollaSourceSpec) : Plan where
  duration := UInt32.ofInt spec.frameDurationMs
  ahead := if spec.maxBufferedFrames = 0 then Source.maxBufferedFramesDefault else spec.maxBufferedFrames
  retry := if spec.retryTimeoutMs = 0 then Source.retryTimeoutMsDefault else UInt32.ofInt spec.retryTimeoutMs
  patience :=
    if spec.disconnectTimeoutMs = 0 then Source.disconnectTimeoutMsDefault else UInt32.ofInt spec.disconnectTimeoutMs

inductive Errand where
  /-- It has asked for the loan, first and last at these times. -/
  | asking (first last : UInt32)
  /-- It has the loan, last heard of it at `heard`, and its frames reach to `covered`, once there are any. -/
  | holding (heard : UInt32) (covered : Option UInt32)
  | failed (msg : String)
  deriving DecidableEq

/-- How far the frames reach. At the one time that stands for none they do not count as sent. -/
def coveredTo (time : UInt32) : Option UInt32 := if time = Source.NULL_TIME then none else some time

/-- What a borrower writes. -/
inductive Note where
  | borrow (frameLength bufferLength : UInt8)
  | enqueue (idx : UInt8) (frame : Bytes)

/-- The bytes of a note with a number. -/
def Note.bytes (id : UInt16) : Note → Bytes
  | .borrow frameLength bufferLength => encode 0 id [frameLength, bufferLength]
  | .enqueue idx frame => encode 2 id (enqueuePayload idx frame)

/-- A borrower. -/
structure Borrower where
  plan : Plan
  errand : Errand
  /-- The index of the next frame. -/
  next : UInt8
  /-- All it ever wrote, and whether it left. -/
  written : List (Note × Bool)

/-- What left, as datagrams: the number of a note is its place among all that were written. -/
def posted (written : List (Note × Bool)) : List Bytes :=
  (written.mapIdx fun i p => if p.2 then some (p.1.bytes (UInt16.ofNat i)) else none).reduceOption

/-! ## What a call finds -/

/-- What one update finds outside: some messages, the clock and whether a BORROW leaves. -/
structure SourceView where
  ms : List WireMsg
  /-- The clock at the message at an offset. -/
  message : Nat → UInt32
  manage : UInt32
  borrow : UInt32
  borrowSent : Bool
  ensure : UInt32

/-- A call of the application. -/
inductive SourceInput where
  | state (view : SourceView)
  | errorMsg
  | putReadyCount (view : SourceView) (now : UInt32)
  | putReadyTimeout (view : SourceView) (now later : UInt32)
  | put (first second third : SourceView) (now later : UInt32) (sent : Bool) (after : UInt32) (frame : Bytes)

/-- The outcome of a call, with the datagrams that left. -/
inductive SourceAnswer where
  | state (state : AtollaSourceState) (sent : List Bytes)
  | errorMsg (msg : Option String)
  | count (count : Int) (sent : List Bytes)
  | timeout (timeout : Int) (sent : List Bytes)
  /-- How long the put slept, and its result. -/
  | put (slept : Int) (result : Bool) (sent : List Bytes)
  deriving DecidableEq

/-- What a make finds. -/
structure MakeView where
  bound : Bool
  resolved : Bool
  first : UInt32
  borrow : UInt32
  borrowSent : Bool
  updates : List SourceView

namespace Borrower

/-! ## Messages -/

/-- The state, as the source names it. -/
def state (b : Borrower) : AtollaSourceState :=
  match b.errand with
  | .asking _ _ => .stateWaiting
  | .holding _ _ => .stateOpen
  | .failed _ => .stateError

def fail (b : Borrower) (msg : String) : Borrower := { b with errand := .failed msg }

/-- A LENT. -/
def lent (b : Borrower) (now : UInt32) : Borrower :=
  match b.errand with
  | .asking _ _ => { b with errand := .holding now none }
  | .holding _ covered => { b with errand := .holding now covered }
  | .failed _ => b

/-- A message and its offset. One of an unknown type it cannot take. -/
def hear (clock : Nat → UInt32) (b : Borrower) (m : Nat × WireMsg) : Run Borrower :=
  if m.2.Known then
    if m.2.typeByte = 1 then .ok (b.lent (clock m.1))
    else if m.2.typeByte = 255 then .ok (b.fail (failMsg (m.2.payload.getD 2 0)))
    else .ok (b.fail malformedMsg)
  else
    .error .assertion

/-! ## Updates -/

def write (b : Borrower) (note : Note) (left : Bool) : Borrower := { b with written := b.written ++ [(note, left)] }

/-- It asks for the loan. -/
def ask (b : Borrower) (first now : UInt32) (left : Bool) : Borrower :=
  { b with errand := .asking first now }.write (.borrow b.plan.duration.toUInt8 (UInt8.ofInt b.plan.ahead)) left

/-- While it waits it asks again from time to time, or gives up. -/
def insist (b : Borrower) (view : SourceView) : Borrower :=
  match b.errand with
  | .asking first last =>
    if b.plan.patience < view.manage - first then b.fail timedOutMsg
    else if b.plan.retry < view.manage - last then b.ask first view.borrow view.borrowSent
    else b
  | _ => b

/-- A loan of which it does not hear for too long is lost. -/
def doubt (b : Borrower) (view : SourceView) : Borrower :=
  match b.errand with
  | .holding heard _ => if b.plan.patience ≤ view.ensure - heard then b.fail lostMsg else b
  | _ => b

/-- `source_update`. -/
def update (b : Borrower) (view : SourceView) : Run Borrower := do
  let b ← (withOffsets 0 view.ms).foldlM (hear view.message) b
  return (b.insist view).doubt view

/-! ## Readiness -/

/-- How many frames have become due since those that were sent. -/
def due (b : Borrower) (covered now : UInt32) : Run Int := do
  let count ← uintDiv (now - covered) b.plan.duration
  return asInt count

/-- How many frames it may send. -/
def count (b : Borrower) (now : UInt32) : Run Int :=
  match b.errand with
  | .holding _ none => .ok b.plan.ahead
  | .holding _ (some covered) => b.due covered now
  | _ => .ok 0

/-- How long it is until it may send one. -/
def timeout (b : Borrower) (now later : UInt32) : Run Int :=
  match b.errand with
  | .holding _ none => .ok 0
  | .holding _ (some covered) => do
    let due ← b.due covered now
    return if 0 < due then 0 else asInt (covered + b.plan.duration - later)
  | _ => .ok (-1)

/-- `atolla_source_put_ready_count`. -/
def readyCount (b : Borrower) (view : SourceView) (now : UInt32) : Run (Int × Borrower) := do
  let b ← b.update view
  let count ← b.count now
  return (count, b)

/-- `atolla_source_put_ready_timeout`. -/
def readyTimeout (b : Borrower) (view : SourceView) (now later : UInt32) : Run (Int × Borrower) := do
  let b ← b.update view
  let timeout ← b.timeout now later
  return (timeout, b)

/-- A put looks three times, and does not ask what it saw the third time. -/
def putTimeout (b : Borrower) (first second third : SourceView) (now later : UInt32) :
    Run (Option Int × Borrower) := do
  let b ← b.update first
  let b ← b.update second
  if b.state ≠ .stateOpen then
    return (none, b)
  else do
    let (timeout, b) ← b.readyTimeout third now later
    return (some timeout, b)

/-! ## Frames -/

/-- A frame left: it may be the first. -/
def cover (b : Borrower) (after : UInt32) : Errand :=
  match b.errand with
  | .holding heard none => .holding heard (coveredTo (after - UInt32.ofInt (b.plan.ahead - 1) * b.plan.duration))
  | .holding heard (some covered) => .holding heard (coveredTo (covered + b.plan.duration))
  | errand => errand

/-- The next frame, whether or not there still is a loan. -/
def send (b : Borrower) (frame : Bytes) (left : Bool) (after : UInt32) : Run Borrower :=
  if frame.length ≤ 65532 then
    .ok (({ b with
      next := if left then b.next + 1 else b.next
      errand := if left then b.cover after else b.errand } : Borrower).write (.enqueue b.next frame) left)
  else
    .error .assertion

/-! ## Calls -/

/-- `atolla_source_error_msg`. -/
def errorMsg (b : Borrower) : Option String :=
  match b.errand with
  | .failed msg => some msg
  | _ => none

/-- What left in a call that made `b'` of `b`. -/
def left (b b' : Borrower) : List Bytes := (posted b'.written).drop (posted b.written).length

/-- A call, with its outcome. -/
def serve (b : Borrower) : SourceInput → Run (Borrower × SourceAnswer)
  | .state view => do
    let b' ← b.update view
    return (b', .state b'.state (b.left b'))
  | .errorMsg => .ok (b, .errorMsg b.errorMsg)
  | .putReadyCount view now => do
    let (count, b') ← b.readyCount view now
    return (b', .count count (b.left b'))
  | .putReadyTimeout view now later => do
    let (timeout, b') ← b.readyTimeout view now later
    return (b', .timeout timeout (b.left b'))
  | .put first second third now later sent after frame => do
    let (wait, b₁) ← b.putTimeout first second third now later
    match wait with
    | none => return (b₁, .put 0 false (b.left b₁))
    | some wait => do
      let b' ← b₁.send frame sent after
      return (b', .put (max 0 wait) sent (b.left b'))

/-- A blocking make waits for the outcome. -/
def await : List SourceView → Borrower → Run Borrower
  | [], b => if b.state = .stateWaiting then .error .diverges else .ok b
  | view :: views, b =>
    if b.state = .stateWaiting then do
      let b' ← b.update view
      await views b'
    else
      .ok b

/-- A borrower that was just made, and asked for the loan if it could. -/
def fresh (spec : AtollaSourceSpec) (view : MakeView) : Borrower :=
  let b : Borrower := ⟨spec.plan, .asking 0 0, 0, []⟩
  if view.bound then
    if view.resolved then b.ask view.first view.borrow view.borrowSent else b.fail unresolvedMsg
  else
    b.fail unboundMsg

/-- `atolla_source_make`. -/
def make (spec : AtollaSourceSpec) (view : MakeView) : Run Borrower := do
  assert (0 ≤ spec.sinkPort ∧ spec.sinkPort < 65536)
  if spec.asyncMake then return fresh spec view else await view.updates (fresh spec view)

/-! ## What a borrower does not answer -/

section Fail

variable {b b' : Borrower} {view : SourceView} {f : Fault}

end Fail

end Borrower

end Atolla
