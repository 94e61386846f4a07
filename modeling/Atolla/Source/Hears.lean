import Atolla.Sink.Replies
import Atolla.Source.Messages
import Atolla.Source.StateMachine

/-!
# What a source hears of a sink

A sink answers with LENTs and FAILs, one a datagram. An update that finds one of these, or nothing, returns: the source
is open only if it was before or heard a LENT, and its error is one of its own timeouts or that of a FAIL it heard
(`sourceUpdate_hears`).
-/

set_option autoImplicit false

namespace Atolla

open Loop

/-- The text of a source that waited for too long. -/
def timedOutMsg : String := "Tried to borrow the sink, but the attempt timed out."

/-- The text of a source that heard no LENT for too long. -/
def lostMsg : String := "The connection to the sink was lost."

/-- The texts of a source that could not send at all. -/
def unresolvedMsg : String := "Sink hostname could not be resolved."

def unboundMsg : String := "Sink could not bind to port."

/-- A reply as a message. -/
def Reply.msg (id : UInt16) : Reply → WireMsg
  | .lent => ⟨1, id, [], nil_le⟩
  | .fail offendingMsgId code => ⟨255, id, failPayload offendingMsgId code.toByte, by simp [failPayload]⟩

theorem Reply.bytes_msg (id : UInt16) (r : Reply) : (r.msg id).bytes = r.bytes id := by cases r <;> rfl

/-- The update finds this reply of a sink, or nothing. -/
def SourceEnv.HearsReply (env : SourceEnv) (reply : Option (UInt16 × Reply)) : Prop :=
  env.datagram = reply.map fun r => r.2.bytes r.1

/-- What a reply does to a source. -/
def Source.hear (now : UInt32) (s : Source) : Option Reply → Source
  | none => s
  | some .lent => sourceLent now s
  | some (.fail _ code) => sourceFail s (failMsg code.toByte)

/-- **Between two states** of a source that heard this reply, or nothing. -/
structure HeardReply (reply : Option Reply) (s s' : Source) : Prop where
  opened : s'.state = .stateOpen → s.state = .stateOpen ∨ reply = some .lent
  failed : ∀ msg, s'.errorMsg = some msg → s.errorMsg = some msg ∨ msg = timedOutMsg ∨ msg = lostMsg ∨
    ∃ id code, reply = some (.fail id code) ∧ msg = failMsg code.toByte

section Hears

variable {H : Host} {s s' s'' : Source} {env : SourceEnv} {reply : Option (UInt16 × Reply)} {r : Option Reply}

theorem HeardReply.refl (r : Option Reply) (s : Source) : HeardReply r s s := ⟨.inl, fun _ h => .inl h⟩

/-- What comes behind the messages hears nothing. -/
theorem HeardReply.trans (h : HeardReply r s s') (h' : HeardReply none s' s'') : HeardReply r s s'' where
  opened ho := by
    rcases h'.opened ho with ho' | hnone
    · exact h.opened ho'
    · cases hnone
  failed msg hmsg := by
    rcases h'.failed msg hmsg with hold | htimed | hlost | ⟨id, code, hnone, -⟩
    · exact h.failed msg hold
    · exact .inr (.inl htimed)
    · exact .inr (.inr (.inl hlost))
    · cases hnone

theorem SourceEnv.HearsReply.brings (h : env.HearsReply reply) :
    env.Brings (reply.toList.map fun r => r.2.msg r.1) := by
  cases reply with
  | none =>
    have hnone : env.datagram = none := h
    exact ⟨by rw [hnone]; rfl, by decide, by simp, by simp⟩
  | some r =>
    obtain ⟨id, r⟩ := r
    have hsome : env.datagram = some (r.bytes id) := h
    refine ⟨?_, ?_, ?_, ?_⟩
    · rw [hsome, ← Reply.bytes_msg]
      exact (List.append_nil _).symm
    · cases r with
      | lent => exact Nat.le_of_ble_eq_true rfl
      | fail o code => exact Nat.le_of_ble_eq_true rfl
    · intro m hm
      rw [List.mem_singleton.mp hm]
      cases r with
      | lent => exact .inl ⟨Nat.zero_le _, by simp [Reply.msg]⟩
      | fail o code => exact .inr rfl
    · intro m hm
      rw [List.mem_singleton.mp hm]
      cases r with
      | lent => exact fun h => by cases h
      | fail o code => exact fun _ => Nat.le_refl 3

/-- **The messages** of an update. -/
theorem sourceReceive_hears (H : Host) (h : env.HearsReply reply) (s : Source) :
    ∃ recvBuf, sourceReceive H env s =
      .ok (Source.hear (env.message 0) { s with recvBuf := recvBuf } (reply.map (·.2))) := by
  obtain ⟨recvBuf, e⟩ := sourceReceive_brings H h.brings s
  refine ⟨recvBuf, e.trans (congrArg Except.ok ?_)⟩
  cases reply with
  | none => rfl
  | some r =>
    obtain ⟨id, r⟩ := r
    cases r with
    | lent => rfl
    | fail o code => rfl

theorem sourceLent_errorMsg (now : UInt32) (s : Source) : (sourceLent now s).errorMsg = s.errorMsg := by
  unfold sourceLent
  split
  · rfl
  · rfl
  · rfl

theorem Source.hear_heard (now : UInt32) (s : Source) (r : Option Reply) : HeardReply r s (s.hear now r) := by
  cases r with
  | none => exact .refl none s
  | some r =>
    cases r with
    | lent => exact ⟨fun _ => .inr rfl, fun msg hmsg => .inl ((sourceLent_errorMsg now s).symm.trans hmsg)⟩
    | fail o code =>
      refine ⟨(fun ho => by cases ho), fun msg hmsg => ?_⟩
      exact .inr (.inr (.inr ⟨o, code, rfl, (Option.some.inj hmsg).symm⟩))

theorem Source.hear_kept (h : SourceKept s) (now : UInt32) (r : Option Reply) : SourceKept (s.hear now r) := by
  cases r with
  | none => exact h
  | some r =>
    cases r with
    | lent => exact h.lentMsg now
    | fail o code => exact h.fail _

theorem sourceFail_heard (s : Source) {msg : String} (hmsg : msg = timedOutMsg ∨ msg = lostMsg) :
    HeardReply none s (sourceFail s msg) := by
  refine ⟨(fun ho => by cases ho), fun msg' h => ?_⟩
  have heq : msg = msg' := Option.some.inj h
  rw [← heq]
  rcases hmsg with h | h
  · exact .inr (.inl h)
  · exact .inr (.inr (.inl h))

/-- `source_manage_borrow_packet_loss` returns. -/
theorem sourceManageBorrowPacketLoss_hears (H : Host) (hk : SourceKept s) (env : SourceEnv) :
    ∃ s', sourceManageBorrowPacketLoss H env s = .ok s' ∧ HeardReply none s s' := by
  unfold sourceManageBorrowPacketLoss
  split
  · split
    · exact ⟨_, rfl, sourceFail_heard s (.inl rfl)⟩
    · split
      · obtain ⟨builder, e, -⟩ := sourceSendBorrow_spec H hk.builder env.borrow env.borrowSent
        exact ⟨_, e, fun ho => .inl ho, fun msg h => .inl h⟩
      · exact ⟨s, rfl, .refl none s⟩
  · exact ⟨s, rfl, .refl none s⟩

/-- `source_ensure_lent_resent` returns: an open source has heard a LENT. -/
theorem sourceEnsureLentResent_hears (hk : SourceKept s) (env : SourceEnv) :
    ∃ s', sourceEnsureLentResent env s = .ok s' ∧ HeardReply none s s' := by
  unfold sourceEnsureLentResent
  split
  · rename_i ho
    obtain ⟨time, htime⟩ := Option.isSome_iff_exists.mp (hk.lent ho)
    have hread : readField s.lastRecvLentTime = .ok time := by
      rw [htime]
      rfl
    rw [hread, ok_bind]
    split
    · exact ⟨_, rfl, sourceFail_heard s (.inr rfl)⟩
    · exact ⟨s, rfl, .refl none s⟩
  · exact ⟨s, rfl, .refl none s⟩

/-- **An update** that finds a reply of a sink, or nothing, returns. -/
theorem sourceUpdate_hears (H : Host) (hk : SourceKept s) (h : env.HearsReply reply) :
    ∃ s', sourceUpdate H env s = .ok s' ∧ HeardReply (reply.map (·.2)) s s' ∧ SourceKept s' := by
  obtain ⟨recvBuf, e₁⟩ := sourceReceive_hears H h s
  have hbuf : SourceKept { s with recvBuf := recvBuf } := ⟨hk.builder, hk.error, hk.lent⟩
  have hk₁ := Source.hear_kept hbuf (env.message 0) (reply.map (·.2))
  obtain ⟨s₂, e₂, hh₂⟩ := sourceManageBorrowPacketLoss_hears H hk₁ env
  have hk₂ := hk₁.manage e₂
  obtain ⟨s₃, e₃, hh₃⟩ := sourceEnsureLentResent_hears hk₂ env
  refine ⟨s₃, by rw [sourceUpdate, e₁, ok_bind, e₂, ok_bind, e₃], ?_, hk₂.ensure e₃⟩
  have hh₁ := Source.hear_heard (env.message 0) { s with recvBuf := recvBuf } (reply.map (·.2))
  have hh : HeardReply (reply.map (·.2)) s _ := ⟨hh₁.opened, hh₁.failed⟩
  exact (hh.trans hh₂).trans hh₃

/-! ## The last LENT -/

/-- A LENT that leaves the source open is the last one. -/
theorem sourceLent_time {now : UInt32} (ho : (sourceLent now s).state = .stateOpen) :
    (sourceLent now s).lastRecvLentTime = some now := by
  unfold sourceLent at ho ⊢
  cases hs : s.state with
  | stateWaiting => rfl
  | stateOpen => rfl
  | stateError =>
    rw [hs] at ho
    simp only at ho
    rw [hs] at ho
    cases ho

/-- Behind its messages an open source is left as it is, unless its last LENT is too old. -/
theorem sourceManage_open (H : Host) (ho : s.state = .stateOpen) {time : UInt32} (ht : s.lastRecvLentTime = some time) :
    (sourceManageBorrowPacketLoss H env s >>= fun s₁ => sourceEnsureLentResent env s₁) =
      .ok (if s.disconnectTimeoutMs ≤ env.ensure - time then sourceFail s lostMsg else s) := by
  have hread : readField s.lastRecvLentTime = .ok time := by
    rw [ht]
    rfl
  rw [sourceManageBorrowPacketLoss, if_neg (by simp [ho]), ok_bind, sourceEnsureLentResent, if_pos ho, hread, ok_bind]
  split
  · rfl
  · rfl

/-- A source that is not open behind its messages is not open behind the update. -/
theorem sourceManage_closed (ho : s.state ≠ .stateOpen)
    (e : (sourceManageBorrowPacketLoss H env s >>= fun s₁ => sourceEnsureLentResent env s₁) = .ok s') :
    s'.state ≠ .stateOpen := by
  obtain ⟨s₁, h₁, e⟩ := bind_eq_ok.mp e
  have ho₁ : s₁.state ≠ .stateOpen := by
    unfold sourceManageBorrowPacketLoss at h₁
    split at h₁
    · split at h₁
      · cases h₁
        intro hopen
        cases hopen
      · split at h₁
        · unfold sourceSendBorrow at h₁
          obtain ⟨builder, -, h₁⟩ := bind_eq_ok.mp h₁
          obtain ⟨bytes, -, h₁⟩ := bind_eq_ok.mp h₁
          cases h₁
          rw [sourceSend]
          split
          · exact ho
          · exact ho
        · cases h₁
          exact ho
    · cases h₁
      exact ho
  rw [sourceEnsureLentResent, if_neg ho₁] at e
  cases e
  exact ho₁

/-- **A source that is open behind an update** heard a LENT within its timeout, in the update or before. -/
theorem sourceUpdate_recent (hk : SourceKept s) (h : env.HearsReply reply) (e : sourceUpdate H env s = .ok s')
    (ho : s'.state = .stateOpen) :
    ∃ time, s'.lastRecvLentTime = some time ∧ env.ensure - time < s'.disconnectTimeoutMs ∧
      ((reply.map (·.2) = some .lent ∧ time = env.message 0) ∨
        (reply = none ∧ s.state = .stateOpen ∧ s.lastRecvLentTime = some time)) := by
  obtain ⟨recvBuf, e₁⟩ := sourceReceive_hears H h s
  rw [sourceUpdate, e₁, ok_bind] at e
  set s₁ := Source.hear (env.message 0) { s with recvBuf := recvBuf } (reply.map (·.2)) with hs₁
  have ho₁ : s₁.state = .stateOpen := by
    by_contra hno
    exact sourceManage_closed hno e ho
  have hk₁ : SourceKept s₁ :=
    Source.hear_kept (s := { s with recvBuf := recvBuf }) ⟨hk.builder, hk.error, hk.lent⟩ _ _
  obtain ⟨time, htime⟩ := Option.isSome_iff_exists.mp (hk₁.lent ho₁)
  rw [sourceManage_open H ho₁ htime, Except.ok.injEq] at e
  have hrecent : ¬s₁.disconnectTimeoutMs ≤ env.ensure - time := by
    intro hlate
    rw [if_pos hlate] at e
    subst e
    cases ho
  rw [if_neg hrecent] at e
  subst e
  refine ⟨time, htime, UInt32.not_le.mp hrecent, ?_⟩
  -- the message, if there is one, is a LENT
  cases reply with
  | none => exact .inr ⟨rfl, ho₁, htime⟩
  | some r =>
    obtain ⟨id, r⟩ := r
    cases r with
    | fail o code => cases ho₁
    | lent =>
      left
      refine ⟨rfl, ?_⟩
      have hlent : s₁.lastRecvLentTime = some (env.message 0) := sourceLent_time ho₁
      exact Option.some.inj (htime.symm.trans hlent)

/-- **An open source** that hears a LENT or nothing, and has heard one within its timeout, stays open. -/
theorem sourceUpdate_stays (H : Host) (ho : s.state = .stateOpen) {time : UInt32} (ht : s.lastRecvLentTime = some time)
    (h : env.HearsReply reply) (hlent : ∀ r ∈ reply.map (·.2), r = .lent)
    (hrecent : env.ensure - (if reply.isSome then env.message 0 else time) < s.disconnectTimeoutMs) :
    ∃ s', sourceUpdate H env s = .ok s' ∧ s'.state = .stateOpen ∧ s'.disconnectTimeoutMs = s.disconnectTimeoutMs ∧
      s'.lastRecvLentTime = some (if reply.isSome then env.message 0 else time) := by
  obtain ⟨recvBuf, e₁⟩ := sourceReceive_hears H h s
  set s₁ := Source.hear (env.message 0) { s with recvBuf := recvBuf } (reply.map (·.2)) with hs₁
  have hheard : s₁.state = .stateOpen ∧ s₁.disconnectTimeoutMs = s.disconnectTimeoutMs ∧
      s₁.lastRecvLentTime = some (if reply.isSome then env.message 0 else time) := by
    cases reply with
    | none => exact ⟨ho, rfl, ht⟩
    | some r =>
      obtain ⟨id, r⟩ := r
      obtain rfl : r = .lent := hlent r rfl
      show (sourceLent (env.message 0) { s with recvBuf := recvBuf }).state = _ ∧
        (sourceLent (env.message 0) { s with recvBuf := recvBuf }).disconnectTimeoutMs = _ ∧
        (sourceLent (env.message 0) { s with recvBuf := recvBuf }).lastRecvLentTime = _
      simp [sourceLent, ho]
  obtain ⟨ho₁, hd₁, ht₁⟩ := hheard
  refine ⟨s₁, ?_, ho₁, hd₁, ht₁⟩
  rw [sourceUpdate, e₁, ok_bind, sourceManage_open H ho₁ ht₁, if_neg]
  rw [hd₁]
  exact UInt32.not_le.mpr hrecent

/-! ## Waiting -/

/-- **A source that waits** and hears nothing goes on waiting, unless it has asked for too long. -/
theorem sourceUpdate_waits (H : Host) (hk : SourceKept s) (hs : s.state = .stateWaiting) (h : env.HearsReply none)
    (hearly : env.manage - s.firstBorrowTime ≤ s.disconnectTimeoutMs) :
    ∃ s', sourceUpdate H env s = .ok s' ∧ s'.state = .stateWaiting ∧
      s'.disconnectTimeoutMs = s.disconnectTimeoutMs ∧ s'.firstBorrowTime = s.firstBorrowTime := by
  obtain ⟨recvBuf, e₁⟩ := sourceReceive_hears H h s
  have hbuilder : SourceKept { s with recvBuf := recvBuf } := ⟨hk.builder, hk.error, hk.lent⟩
  -- behind its timeouts it waits as before
  have hmanage : ∃ s₂, sourceManageBorrowPacketLoss H env { s with recvBuf := recvBuf } = .ok s₂ ∧
      s₂.state = .stateWaiting ∧ s₂.disconnectTimeoutMs = s.disconnectTimeoutMs ∧
      s₂.firstBorrowTime = s.firstBorrowTime := by
    rw [sourceManageBorrowPacketLoss, if_pos hs, if_neg (UInt32.not_lt.mpr hearly)]
    split
    · obtain ⟨builder, e, -⟩ := sourceSendBorrow_spec H hbuilder.builder env.borrow env.borrowSent
      exact ⟨_, e, hs, rfl, rfl⟩
    · exact ⟨_, rfl, hs, rfl, rfl⟩
  obtain ⟨s₂, e₂, hs₂, hd, hfirst⟩ := hmanage
  refine ⟨s₂, ?_, hs₂, hd, hfirst⟩
  have e₁' : sourceReceive H env s = .ok { s with recvBuf := recvBuf } := e₁
  rw [sourceUpdate, e₁', ok_bind, e₂, ok_bind, sourceEnsureLentResent, if_neg (by simp [hs₂])]

/-- **A source that waits** and hears a LENT is open. -/
theorem sourceUpdate_hearsLent (H : Host) (hs : s.state = .stateWaiting) {id : UInt16}
    (h : env.HearsReply (some (id, .lent))) (hrecent : env.ensure - env.message 0 < s.disconnectTimeoutMs) :
    ∃ s', sourceUpdate H env s = .ok s' ∧ s'.state = .stateOpen ∧
      s'.disconnectTimeoutMs = s.disconnectTimeoutMs ∧ s'.lastRecvLentTime = some (env.message 0) := by
  obtain ⟨recvBuf, e₁⟩ := sourceReceive_hears H h s
  set s₁ := Source.hear (env.message 0) { s with recvBuf := recvBuf } (some .lent) with hs₁
  have hheard : s₁.state = .stateOpen ∧ s₁.disconnectTimeoutMs = s.disconnectTimeoutMs ∧
      s₁.lastRecvLentTime = some (env.message 0) := by
    show (sourceLent (env.message 0) { s with recvBuf := recvBuf }).state = _ ∧
      (sourceLent (env.message 0) { s with recvBuf := recvBuf }).disconnectTimeoutMs = _ ∧
      (sourceLent (env.message 0) { s with recvBuf := recvBuf }).lastRecvLentTime = _
    simp [sourceLent, hs]
  obtain ⟨ho₁, hd₁, ht₁⟩ := hheard
  have e₁' : sourceReceive H env s = .ok s₁ := e₁
  refine ⟨s₁, ?_, ho₁, hd₁, ht₁⟩
  rw [sourceUpdate, e₁', ok_bind, sourceManage_open H ho₁ ht₁, if_neg]
  rw [hd₁]
  exact UInt32.not_le.mpr hrecent

end Hears

end Atolla
