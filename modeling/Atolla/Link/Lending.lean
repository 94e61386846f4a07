import Atolla.Link.Network
import Atolla.Sink.Player
import Atolla.Source.Borrower

/-!
# Borrowers and a player

The protocol without bytes: borrowers ask a player for its loan and send it frames, and it answers. What someone wrote
may be read at any time, any number of times or never, and in any order, and strangers may write what they like as long
as it is made of messages. `Link.Refines` proves that the network of sources and a sink is this system.
-/

set_option autoImplicit false

namespace Atolla

open Loop Past

/-- The state of the system. -/
structure Lending (ι : Type) where
  borrowers : ι → Borrower
  player : Player
  /-- The borrowers whose put sleeps. -/
  sleeping : ι → Bool

/-- What happens next. -/
inductive LendingAction (ι : Type) where
  /-- A borrower looks at what came. -/
  | look (i : ι) (view : SourceView)
  /-- The last look of a put, that tells how long it sleeps. -/
  | sleep (i : ι) (view : SourceView) (now later : UInt32)
  /-- The rest of that put. -/
  | put (i : ι) (left : Bool) (after : UInt32) (frame : Bytes)
  /-- A call of the player. -/
  | serve (input : SinkInput)

/-- The frames that left. -/
def Borrower.frames (b : Borrower) : List Bytes :=
  b.written.filterMap fun
    | (.enqueue _ frame, true) => some frame
    | _ => none

/-- A note that a sink can read in one piece. -/
def Note.Short : Note → Prop
  | .borrow _ _ => True
  | .enqueue _ frame => frame.length ≤ 1016

section System

variable {ι : Type} [DecidableEq ι] (peers : ι → Peer)

/-- The system with another borrower. -/
def Lending.withBorrower (m : Lending ι) (i : ι) (b : Borrower) : Lending ι :=
  { m with borrowers := Function.update m.borrowers i b }

/-- What a borrower reads: nothing, or something the player once said to it. -/
def Lending.Hears (m : Lending ι) (endpoint : UdpEndpoint) (ms : List WireMsg) : Prop :=
  ms = [] ∨ ∃ k, ∃ r : Reply, ∃ receiver, m.player.said[k]? = some (r, receiver) ∧
    udpEndpointEqual receiver endpoint = true ∧ ms = [r.msg (UInt16.ofNat k)]

/-- What the player reads: something a borrower once wrote, or whatever a stranger did. -/
def Lending.Reaches (m : Lending ι) (sender : UdpEndpoint) (ms : List WireMsg) : Prop :=
  (∃ i k, ∃ note : Note, ∃ msg, udpEndpointEqual sender (peers i).endpoint = true ∧
    (m.borrowers i).written[k]? = some (note, true) ∧ ms = [msg] ∧ msg.bytes = note.bytes (UInt16.ofNat k)) ∨
    Stranger peers sender

/-- The guards. -/
def LendingAction.Allowed (m : Lending ι) : LendingAction ι → Prop
  | .look i view => m.sleeping i = false ∧ m.Hears (peers i).endpoint view.ms
  | .sleep i view _ _ => m.sleeping i = false ∧ (m.borrowers i).state = .stateOpen ∧
      m.Hears (peers i).endpoint view.ms
  | .put i _ _ frame => m.sleeping i = true ∧ frame.length ≤ 1016
  | .serve (.messages clock sender ms) =>
      (SinkInput.messages clock sender ms).Complete ∧ m.Reaches peers sender ms
  | .serve _ => True

end System

end Atolla
