import Meshd.Framework.Run
import Meshd.Dwn.Subscription

namespace Meshd.Dwn

open Meshd.Framework

/-- The tokens whose handler has succeeded since the last reset of the cursor. -/
def handledSinceReset : List Output → List ProgressToken
  | [] => []
  | .reset :: _ => []
  | .handled message true :: older => message.cursor.toList ++ handledSinceReset older
  | _ :: older => handledSinceReset older

/-- The messages whose handler has failed since the last subscribe request. -/
def failedSinceRequest : List Output → List SubscriptionMessage
  | [] => []
  | .request _ :: _ => []
  | .handled message false :: older => message :: failedSinceRequest older
  | _ :: older => failedSinceRequest older

/-- A connection has ended with a progress gap since the last subscribe request. -/
def gapSinceRequest : List Output → Bool
  | [] => false
  | .request _ :: _ => false
  | .disconnected err :: older => err.gap.isSome || gapSinceRequest older
  | _ :: older => gapSinceRequest older

/-- A server that replays what lies after the cursor sends the message again. -/
def Replays (cursor : Option ProgressToken) (message : SubscriptionMessage) : Prop :=
  cursor = none ∨ ∃ c t, cursor = some c ∧ message.cursor = some t ∧ c.Precedes t

/-- When an output may follow those before it. -/
def Allowed (older : List Output) : Output → Prop
  | .ack token => ∃ message rest, older = .handled message true :: rest ∧ message.cursor = some token
  | .request cursor =>
    (∀ message ∈ failedSinceRequest older, message.messageType ≠ .eose → Replays cursor message) ∧
      (gapSinceRequest older = true → cursor = none)
  | _ => True

/-- The event is a frame with the message, for which the handler ends with the outcome. -/
def Event.Calls : Event → SubscriptionMessage → Bool → Prop
  | .frame received handler _, message, ok =>
    (∃ response, received.event = .ok response ∧ response.subscription = some message) ∧
      ok = handler.isNone
  | _, _, _ => False

/-- A connection is up. -/
def Phase.connected : Phase → Bool
  | .handshake _ _ => true
  | .established => true
  | _ => false

namespace Subscription

variable {s s' : Subscription}

/-- All that a frame can do to a subscription, with the outcomes that calls of the handler have. -/
inductive FrameStep (calls : SubscriptionMessage → Bool → Prop) (s : Subscription) :
    Option Failure → Subscription → Prop
  | ignored : FrameStep calls s none s
  | refused (err : Failure) : FrameStep calls s (some err) s
  | failed (message : SubscriptionMessage) (token : ProgressToken) (err : Failure) :
      calls message false → message.cursor = some token →
      (message.messageType ≠ .eose → ∀ c, s.cursor = some c → c.Precedes token) →
      FrameStep calls s (some err) (s.emit (.handled message false))
  | handled (message : SubscriptionMessage) (token : ProgressToken) (err : Option Failure) :
      calls message true → message.cursor = some token → token.valid = true →
      FrameStep calls s err
        (((s.emit (.handled message true)).rememberCursor token).emit (.ack token))

variable {calls : SubscriptionMessage → Bool → Prop}

theorem validateSubscriptionMessage_ok {message : SubscriptionMessage} {token : ProgressToken}
    (h : validateSubscriptionMessage message = .ok token) :
    message.cursor = some token ∧ token.valid = true := by
  simp only [validateSubscriptionMessage] at h
  cases hf : message.cursor.filter (·.valid) with
  | none =>
    rw [hf] at h
    cases h
  | some cursor =>
    have hcursor : cursor = token := by
      rw [hf] at h
      dsimp only at h
      split at h
      · split_ifs at h
        exact Except.ok.inj h
      · exact Except.ok.inj h
      · split_ifs at h
        exact Except.ok.inj h
      · cases h
    subst hcursor
    exact Option.filter_eq_some_iff.mp hf

/-- A token that passes the check lies after the cursor, or an `eose` lies at it. -/
theorem validateCursorProgression_none {messageType : MessageType} {token : ProgressToken}
    (hvalid : ∀ c, s.cursor = some c → c.valid = true) (htoken : token.valid = true)
    (h : s.validateCursorProgression messageType token = none) (htype : messageType ≠ .eose) :
    ∀ c, s.cursor = some c → c.Precedes token := by
  intro c hc
  have hcmp := compareDecimalPositions_eq (ProgressToken.decimal htoken)
    (ProgressToken.decimal (hvalid c hc))
  simp only [validateCursorProgression, hc, hcmp] at h
  split_ifs at h with hstream hepoch hold
  obtain ⟨hlt, heq⟩ := not_or.mp hold
  refine ⟨(not_not.mp hstream).symm, (not_not.mp hepoch).symm, ?_⟩
  cases hc : compare (decimalValue token.position.toList) (decimalValue c.position.toList) with
  | lt => exact absurd hc hlt
  | eq => exact absurd ⟨hc, htype⟩ heq
  | gt => exact Nat.compare_eq_gt.mp hc

theorem deliver_step {message : SubscriptionMessage} {token : ProgressToken}
    {handler : Option Failure} (hcalls : calls message handler.isNone) (ack : Option String)
    (hcursor : message.cursor = some token) (htoken : token.valid = true)
    (hprecedes : message.messageType ≠ .eose → ∀ c, s.cursor = some c → c.Precedes token) :
    FrameStep calls s (s.deliver message token handler ack).1
      (s.deliver message token handler ack).2 := by
  cases handler with
  | some e => exact .failed message token _ hcalls hcursor hprecedes
  | none =>
    simp only [deliver, sendAck, if_pos htoken]
    split
    all_goals exact .handled message token _ hcalls hcursor htoken

theorem handleSubscriptionFrame_step (hvalid : ∀ c, s.cursor = some c → c.valid = true)
    (frame : Frame) (handler : Option Failure) (ack : Option String) :
    FrameStep (Event.frame frame handler ack).Calls s
      (s.handleSubscriptionFrame frame handler ack).1
      (s.handleSubscriptionFrame frame handler ack).2 := by
  simp only [handleSubscriptionFrame]
  cases hevent : frame.event with
  | error e => exact .refused _
  | ok response =>
    dsimp only
    split_ifs
    · exact .ignored
    · split
      · exact .refused _
      · exact .refused _
      · rename_i message _ hmessage
        cases hm : validateSubscriptionMessage message with
        | error e => exact .refused _
        | ok token =>
          obtain ⟨hcursor, htoken⟩ := validateSubscriptionMessage_ok hm
          dsimp only
          cases hp : s.validateCursorProgression message.messageType token with
          | some e => exact .refused _
          | none =>
            exact deliver_step ⟨⟨response, hevent, hmessage⟩, rfl⟩ ack hcursor htoken
              (validateCursorProgression_none hvalid htoken hp)

/-- All that a frame can do before the confirmation. -/
def HandshakeStep (calls : SubscriptionMessage → Bool → Prop) (s : Subscription) :
    Handshake → Subscription → Prop
  | .goesOn, s' => FrameStep calls s none s'
  | .failed err, s' => FrameStep calls s (some err) s'
  | .confirmed, s' => ∃ event, s' = s.emitLifecycle event

theorem readSubscribeResponse_step (hvalid : ∀ c, s.cursor = some c → c.valid = true)
    (requestID : String) (resumeCursor : Option ProgressToken) (frame : Frame)
    (handler : Option Failure) (ack : Option String) :
    HandshakeStep (Event.frame frame handler ack).Calls s
      (s.readSubscribeResponse requestID resumeCursor frame handler ack).1
      (s.readSubscribeResponse requestID resumeCursor frame handler ack).2 := by
  simp only [readSubscribeResponse]
  cases frame.response with
  | error e => exact .refused _
  | ok response =>
    dsimp only
    split_ifs
    · have hstep := handleSubscriptionFrame_step hvalid frame handler ack
      cases hf : s.handleSubscriptionFrame frame handler ack with
      | mk err s' =>
        rw [hf] at hstep
        cases err with
        | none => exact hstep
        | some err => exact hstep
    · exact .ignored
    · split
      · exact .refused _
      · exact .refused _
      · split_ifs
        · exact .refused _
        · exact .refused _
        · exact .refused _
        · exact ⟨_, rfl⟩

/-- All that the end of a connection can do to a subscription. -/
inductive Disconnect (s : Subscription) (err : Failure) : Subscription → Prop
  | stopped {s' : Subscription} (events : List SubscriptionLifecycleEvent) : s'.phase = .stopped →
      s'.cursor = s.cursor → s'.log = events.map .lifecycle ++ .disconnected err :: s.log →
      Disconnect s err s'
  | kept {s' : Subscription} (event : SubscriptionLifecycleEvent) : err.gap = none →
      s'.phase = .backingOff → s'.cursor = s.cursor →
      s'.log = .lifecycle event :: .disconnected err :: s.log → Disconnect s err s'
  | cleared {s' : Subscription} (event event' : SubscriptionLifecycleEvent) : s'.phase = .backingOff →
      s'.cursor = none →
      s'.log = .lifecycle event :: .lifecycle event' :: .reset :: .disconnected err :: s.log →
      Disconnect s err s'

theorem disconnect_disconnect (established : Bool) (err : Failure) :
    Disconnect s err (s.disconnect established err) := by
  simp only [disconnect]
  by_cases hdone : (s.emit (.disconnected err)).ctxDone = true
  · rw [if_pos hdone]
    exact .stopped [] rfl rfl rfl
  · rw [if_neg hdone]
    cases err.terminal with
    | some terminal =>
      cases established
      all_goals exact .stopped [.terminal terminal] rfl rfl rfl
    | none =>
      cases hg : err.gap with
      | some gap =>
        cases established
        all_goals exact .cleared _ _ rfl rfl rfl
      | none =>
        cases established
        all_goals exact .kept _ hg rfl rfl rfl

/-- All that an event can do to a subscription. -/
inductive Move (calls : SubscriptionMessage → Bool → Prop) (s : Subscription) : Subscription → Prop
  | idle {s' : Subscription} : s'.cursor = s.cursor → s'.log = s.log →
      s'.phase = s.phase ∨ s.phase = .backingOff ∧ s'.phase.connected = false → Move calls s s'
  | undialled {s' : Subscription} (err : Failure) : s.phase = .connecting → Disconnect s err s' →
      Move calls s s'
  | unwritten {s' : Subscription} (err : Failure) : s.phase = .connecting →
      Disconnect (s.emit (.request s.requestCursor)) err s' → Move calls s s'
  | requested (requestID : String) : s.phase = .connecting →
      Move calls s { s.emit (.request s.requestCursor) with phase := .handshake requestID s.cursor }
  | confirmed (event : SubscriptionLifecycleEvent) : s.phase.connected = true →
      Move calls s { s.emitLifecycle event with phase := .established }
  | frame {s' : Subscription} : s.phase.connected = true → FrameStep calls s none s' → Move calls s s'
  | lost {s₁ s' : Subscription} (result : Option Failure) (err : Failure) :
      s.phase.connected = true → FrameStep calls s result s₁ → Disconnect s₁ err s' → Move calls s s'

theorem connect_move (hphase : s.phase = .connecting) (dial : Dial) :
    Move calls s (s.connect dial) := by
  cases dial with
  | failed err => exact .undialled _ hphase (disconnect_disconnect false _)
  | unbuilt err => exact .undialled _ hphase (disconnect_disconnect false _)
  | unwritten err => exact .unwritten _ hphase (disconnect_disconnect false _)
  | sent requestID => exact .requested requestID hphase

theorem readFrame_move (hvalid : ∀ c, s.cursor = some c → c.valid = true) (frame : Frame)
    (handler : Option Failure) (ack : Option String) :
    Move (Event.frame frame handler ack).Calls s (s.readFrame frame handler ack) := by
  simp only [readFrame]
  cases hphase : s.phase with
  | handshake requestID resumeCursor =>
    have hconnected : s.phase.connected = true := by rw [hphase]; rfl
    have hstep := readSubscribeResponse_step hvalid requestID resumeCursor frame handler ack
    dsimp only
    cases hr : s.readSubscribeResponse requestID resumeCursor frame handler ack with
    | mk result s' =>
      rw [hr] at hstep
      cases result with
      | goesOn => exact .frame hconnected hstep
      | failed err => exact .lost _ _ hconnected hstep (disconnect_disconnect false _)
      | confirmed =>
        obtain ⟨event, rfl⟩ := hstep
        exact .confirmed event hconnected
  | established =>
    have hconnected : s.phase.connected = true := by rw [hphase]; rfl
    have hstep := handleSubscriptionFrame_step hvalid frame handler ack
    dsimp only
    cases hf : s.handleSubscriptionFrame frame handler ack with
    | mk err s' =>
      rw [hf] at hstep
      cases err with
      | none => exact .frame hconnected hstep
      | some err => exact .lost _ _ hconnected hstep (disconnect_disconnect true _)
  | connecting => exact .idle rfl rfl (.inl rfl)
  | backingOff => exact .idle rfl rfl (.inl rfl)
  | stopped => exact .idle rfl rfl (.inl rfl)

theorem readFailed_move (err : String) : Move calls s (s.readFailed err) := by
  have hlost (hphase : s.phase.connected = true) (established : Bool) (e : Failure) :
      Move calls s (s.disconnect established e) :=
    .lost none e hphase .ignored (disconnect_disconnect established e)
  simp only [readFailed]
  cases hphase : s.phase with
  | handshake requestID resumeCursor => exact hlost (by rw [hphase]; rfl) false _
  | established => exact hlost (by rw [hphase]; rfl) true _
  | connecting => exact .idle rfl rfl (.inl rfl)
  | backingOff => exact .idle rfl rfl (.inl rfl)
  | stopped => exact .idle rfl rfl (.inl rfl)

theorem wake_move (timer : Bool) : Move calls s (s.wake timer) := by
  simp only [wake]
  split
  · rename_i hphase
    split_ifs
    · exact .idle rfl rfl (.inr ⟨hphase, rfl⟩)
    · exact .idle rfl rfl (.inr ⟨hphase, rfl⟩)
    · exact .idle rfl rfl (.inl rfl)
  · exact .idle rfl rfl (.inl rfl)

theorem step_move (hvalid : ∀ c, s.cursor = some c → c.valid = true) (e : Event) :
    Move e.Calls s (s.step e) := by
  cases e with
  | connect dial =>
    simp only [step]
    split_ifs with hphase
    · exact connect_move hphase dial
    · exact .idle rfl rfl (.inl rfl)
  | frame frame handler ack => exact readFrame_move hvalid frame handler ack
  | readFailed err => exact readFailed_move err
  | wake timer => exact wake_move timer
  | cancel => exact .idle rfl rfl (.inl rfl)

end Subscription

/-- What a cursor and a log owe each other. -/
structure Recorded (cursor : Option ProgressToken) (log : List Output) : Prop where
  valid : ∀ c, cursor = some c → c.valid = true
  handled : ∀ c, cursor = some c → c ∈ handledSinceReset log
  replays : ∀ message ∈ failedSinceRequest log, message.messageType ≠ .eose →
    Replays cursor message
  justified : Justified Allowed log

section Recorded
variable {cursor : Option ProgressToken} {log : List Output}

theorem Recorded.disconnected (h : Recorded cursor log) (err : Failure) :
    Recorded cursor (.disconnected err :: log) :=
  ⟨h.valid, h.handled, h.replays, trivial, h.justified⟩

theorem Recorded.lifecycle (h : Recorded cursor log) (event : SubscriptionLifecycleEvent) :
    Recorded cursor (.lifecycle event :: log) :=
  ⟨h.valid, h.handled, h.replays, trivial, h.justified⟩

theorem Recorded.lifecycles (h : Recorded cursor log) (events : List SubscriptionLifecycleEvent) :
    Recorded cursor (events.map .lifecycle ++ log) := by
  induction events with
  | nil => exact h
  | cons event events ih => exact ih.lifecycle event

theorem Recorded.reset (h : Recorded cursor log) : Recorded none (.reset :: log) :=
  ⟨by simp, by simp, fun _ _ _ => .inl rfl, trivial, h.justified⟩

theorem Recorded.request (h : Recorded cursor log)
    (hgap : gapSinceRequest log = true → cursor = none) : Recorded cursor (.request cursor :: log) :=
  ⟨h.valid, h.handled, by simp [failedSinceRequest], ⟨h.replays, hgap⟩, h.justified⟩

theorem Recorded.failed (h : Recorded cursor log) (hnone : failedSinceRequest log = [])
    {message : SubscriptionMessage} {token : ProgressToken} (hcursor : message.cursor = some token)
    (hprecedes : message.messageType ≠ .eose → ∀ c, cursor = some c → c.Precedes token) :
    Recorded cursor (.handled message false :: log) := by
  refine ⟨h.valid, h.handled, ?_, trivial, h.justified⟩
  intro m hm htype
  rw [failedSinceRequest, hnone, List.mem_singleton] at hm
  subst hm
  cases hc : cursor with
  | none => exact .inl rfl
  | some c => exact .inr ⟨c, token, rfl, hcursor, hprecedes htype c hc⟩

/-- A handler that succeeds, and the cursor that is kept or takes its token. -/
theorem Recorded.handled_ack (h : Recorded cursor log) (hnone : failedSinceRequest log = [])
    {message : SubscriptionMessage} {token : ProgressToken} (hcursor : message.cursor = some token)
    (htoken : token.valid = true) {cursor' : Option ProgressToken}
    (hnew : cursor' = cursor ∨ cursor' = some token) :
    Recorded cursor' (.ack token :: .handled message true :: log) := by
  have hsince : handledSinceReset (.ack token :: .handled message true :: log) =
      token :: handledSinceReset log := by
    simp [handledSinceReset, hcursor]
  refine ⟨?_, ?_, ?_, ⟨message, log, rfl, hcursor⟩, trivial, h.justified⟩
  · intro c hc
    rcases hnew with rfl | rfl
    · exact h.valid c hc
    · cases hc
      exact htoken
  · intro c hc
    rw [hsince]
    rcases hnew with rfl | rfl
    · exact List.mem_cons_of_mem _ (h.handled c hc)
    · cases hc
      exact List.mem_cons_self
  · intro m hm
    have hm' : m ∈ failedSinceRequest log := hm
    rw [hnone] at hm'
    cases hm'

end Recorded

namespace Subscription

variable {s s' : Subscription} {calls : SubscriptionMessage → Bool → Prop}

/-- While a connection is up, nothing has failed since its request. After a gap, the cursor is
gone. -/
structure Safe (s : Subscription) : Prop where
  recorded : Recorded s.cursor s.log
  clean : s.phase.connected = true →
    failedSinceRequest s.log = [] ∧ gapSinceRequest s.log = false
  cleared : s.phase ≠ .stopped → gapSinceRequest s.log = true → s.cursor = none

theorem rememberCursor_cases (token : ProgressToken) (s : Subscription) :
    s.rememberCursor token = s ∨
      shouldReplaceProgressToken s.cursor token = true ∧
        s.rememberCursor token = { s with cursor := some token } := by
  rw [rememberCursor]
  split_ifs with hreplace
  · exact .inr ⟨hreplace, rfl⟩
  · exact .inl rfl

theorem rememberCursor_log (token : ProgressToken) (s : Subscription) :
    (s.rememberCursor token).log = s.log := by
  rcases rememberCursor_cases token s with h | ⟨-, h⟩
  · rw [h]
  · rw [h]

theorem FrameStep.recorded {err : Option Failure} (h : FrameStep calls s err s')
    (hs : Recorded s.cursor s.log) (hnone : failedSinceRequest s.log = []) :
    Recorded s'.cursor s'.log := by
  cases h with
  | ignored => exact hs
  | refused err => exact hs
  | failed message token err hcalls hcursor hprecedes => exact hs.failed hnone hcursor hprecedes
  | handled message token err hcalls hcursor htoken =>
    rcases rememberCursor_cases token (s.emit (.handled message true)) with h | ⟨-, h⟩
    · rw [h]
      exact hs.handled_ack hnone hcursor htoken (.inl rfl)
    · rw [h]
      exact hs.handled_ack hnone hcursor htoken (.inr rfl)

theorem FrameStep.gap_eq {err : Option Failure} (h : FrameStep calls s err s') :
    gapSinceRequest s'.log = gapSinceRequest s.log := by
  cases h with
  | ignored => rfl
  | refused err => rfl
  | failed message token err hcalls hcursor hprecedes => rfl
  | handled message token err hcalls hcursor htoken => simp [emit, rememberCursor_log, gapSinceRequest]

/-- A frame that the connection survives leaves no failure behind. -/
theorem FrameStep.failed_eq (h : FrameStep calls s none s') :
    failedSinceRequest s'.log = failedSinceRequest s.log := by
  cases h with
  | ignored => rfl
  | handled message token err hcalls hcursor htoken =>
    simp [emit, rememberCursor_log, failedSinceRequest]

theorem Disconnect.safe {err : Failure} (h : Disconnect s err s') (hs : Recorded s.cursor s.log)
    (hgap : gapSinceRequest s.log = true → s.cursor = none) : Safe s' := by
  cases h with
  | stopped events hphase hcursor hlog =>
    refine ⟨?_, by simp [hphase, Phase.connected], by simp [hphase]⟩
    rw [hcursor, hlog]
    exact (hs.disconnected err).lifecycles events
  | kept event hnone hphase hcursor hlog =>
    refine ⟨?_, by simp [hphase, Phase.connected], fun _ h => ?_⟩
    · rw [hcursor, hlog]
      exact (hs.disconnected err).lifecycle event
    · rw [hcursor]
      rw [hlog] at h
      exact hgap (by simpa [gapSinceRequest, hnone] using h)
  | cleared event event' hphase hcursor hlog =>
    refine ⟨?_, by simp [hphase, Phase.connected], fun _ _ => hcursor⟩
    rw [hcursor, hlog]
    exact ((hs.disconnected err).reset.lifecycle event').lifecycle event

theorem requestCursor_eq (h : ∀ c, s.cursor = some c → c.valid = true) :
    s.requestCursor = s.cursor := by
  rw [requestCursor]
  cases hc : s.cursor with
  | none => rfl
  | some c => rw [Option.filter_some, if_pos (h c hc)]

theorem Safe.request (h : s.Safe) (hphase : s.phase = .connecting) :
    Recorded s.cursor (.request s.requestCursor :: s.log) := by
  rw [requestCursor_eq h.recorded.valid]
  exact h.recorded.request (h.cleared (by simp [hphase]))

theorem Safe.move (h : s.Safe) (hm : Move calls s s') : s'.Safe := by
  cases hm with
  | idle hcursor hlog hphase =>
    have hrecorded : Recorded s'.cursor s'.log := by
      rw [hcursor, hlog]
      exact h.recorded
    rcases hphase with hsame | ⟨hback, hdown⟩
    · refine ⟨hrecorded, ?_, ?_⟩
      · rw [hlog, hsame]
        exact h.clean
      · rw [hlog, hsame, hcursor]
        exact h.cleared
    · refine ⟨hrecorded, fun hc => ?_, fun _ hg => ?_⟩
      · rw [hdown] at hc
        cases hc
      · rw [hlog] at hg
        exact hcursor.trans (h.cleared (by simp [hback]) hg)
  | undialled err hphase hd => exact hd.safe h.recorded (h.cleared (by simp [hphase]))
  | unwritten err hphase hd => exact hd.safe (h.request hphase) (by simp [emit, gapSinceRequest])
  | requested requestID hphase =>
    exact ⟨h.request hphase, fun _ => ⟨rfl, rfl⟩, fun _ hgap => (by cases hgap)⟩
  | confirmed event hphase =>
    have hclean := h.clean hphase
    refine ⟨h.recorded.lifecycle event, fun _ => hclean, fun _ hg => ?_⟩
    exact absurd (hclean.2.symm.trans hg) Bool.false_ne_true
  | frame hphase hstep =>
    have hfailed := hstep.failed_eq
    obtain ⟨hclean, hgap⟩ := h.clean hphase
    refine ⟨hstep.recorded h.recorded hclean, fun _ => ⟨hfailed.trans hclean, ?_⟩, fun _ hg => ?_⟩
    · exact hstep.gap_eq.trans hgap
    · rw [hstep.gap_eq, hgap] at hg
      cases hg
  | lost result err hphase hstep hd =>
    obtain ⟨hclean, hgap⟩ := h.clean hphase
    refine hd.safe (hstep.recorded h.recorded hclean) fun hg => ?_
    rw [hstep.gap_eq, hgap] at hg
    cases hg

/-- Without a reset since `s`, the cursor of `s` stands or has moved on within its stream. -/
def Advances (s s' : Subscription) : Prop :=
  ∃ new, s'.log = new ++ s.log ∧ (.reset ∉ new → ∀ c, s.cursor = some c →
    ∃ c', s'.cursor = some c' ∧ (c' = c ∨ c.Precedes c'))

theorem Advances.of_cursor_eq (new : List Output) (hlog : s'.log = new ++ s.log)
    (hcursor : s'.cursor = s.cursor) : Advances s s' :=
  ⟨new, hlog, fun _ c hc => ⟨c, hcursor.trans hc, .inl rfl⟩⟩

theorem Advances.trans {s'' : Subscription} (h : Advances s s') (h' : Advances s' s'') :
    Advances s s'' := by
  obtain ⟨new, hlog, hnew⟩ := h
  obtain ⟨new', hlog', hnew'⟩ := h'
  refine ⟨new' ++ new, by rw [hlog', hlog, List.append_assoc], fun hreset c hc => ?_⟩
  obtain ⟨c', hc', hle⟩ := hnew (fun hr => hreset (List.mem_append_right _ hr)) c hc
  obtain ⟨c'', hc'', hle'⟩ := hnew' (fun hr => hreset (List.mem_append_left _ hr)) c' hc'
  refine ⟨c'', hc'', ?_⟩
  rcases hle with rfl | hle
  · exact hle'
  · rcases hle' with rfl | hle'
    · exact .inr hle
    · exact .inr (hle.trans hle')

theorem FrameStep.advances {err : Option Failure} (h : FrameStep calls s err s')
    (hvalid : ∀ c, s.cursor = some c → c.valid = true) : Advances s s' := by
  cases h with
  | ignored => exact .of_cursor_eq [] rfl rfl
  | refused err => exact .of_cursor_eq [] rfl rfl
  | failed message token err hcalls hcursor hprecedes => exact .of_cursor_eq [_] rfl rfl
  | handled message token err hcalls hcursor htoken =>
    rcases rememberCursor_cases token (s.emit (.handled message true)) with h | ⟨hreplace, h⟩
    · rw [h]
      exact .of_cursor_eq [.ack token, .handled message true] rfl rfl
    · rw [h]
      refine ⟨[.ack token, .handled message true], rfl, fun _ c hc => ?_⟩
      have hreplace' : shouldReplaceProgressToken s.cursor token = true := hreplace
      rw [hc, shouldReplaceProgressToken_some (hvalid c hc) htoken] at hreplace'
      exact ⟨token, rfl, .inr hreplace'⟩

theorem Disconnect.advances {err : Failure} (h : Disconnect s err s') : Advances s s' := by
  cases h with
  | stopped events hphase hcursor hlog =>
    exact .of_cursor_eq (events.map .lifecycle ++ [.disconnected err]) (by simp [hlog]) hcursor
  | kept event hnone hphase hcursor hlog =>
    exact .of_cursor_eq [.lifecycle event, .disconnected err] hlog hcursor
  | cleared event event' hphase hcursor hlog =>
    refine ⟨[.lifecycle event, .lifecycle event', .reset, .disconnected err], hlog, ?_⟩
    intro hreset
    exact absurd (by simp) hreset

theorem Move.advances (h : Move calls s s') (hvalid : ∀ c, s.cursor = some c → c.valid = true) :
    Advances s s' := by
  cases h with
  | idle hcursor hlog hphase => exact .of_cursor_eq [] hlog hcursor
  | undialled err hphase hd => exact hd.advances
  | unwritten err hphase hd =>
    have hrequest : Advances s (s.emit (.request s.requestCursor)) :=
      .of_cursor_eq [.request s.requestCursor] rfl rfl
    exact hrequest.trans hd.advances
  | requested requestID hphase => exact .of_cursor_eq [.request s.requestCursor] rfl rfl
  | confirmed event hphase => exact .of_cursor_eq [.lifecycle event] rfl rfl
  | frame hphase hstep => exact hstep.advances hvalid
  | lost result err hphase hstep hd => exact (hstep.advances hvalid).trans hd.advances

/-- A run keeps the invariant, and its cursor only moves on between resets. -/
theorem Safe.exec (h : s.Safe) (es : List Event) :
    (exec step s es).Safe ∧ Advances s (exec step s es) := by
  refine exec_invariant (P := fun s' => s'.Safe ∧ Advances s s') ⟨h, .of_cursor_eq [] rfl rfl⟩ ?_ es
  intro s' e h
  obtain ⟨hsafe, hadvances⟩ := h
  have hmove := step_move hsafe.recorded.valid e
  exact ⟨hsafe.move hmove, hadvances.trans (hmove.advances hsafe.recorded.valid)⟩

theorem safe_new (subscriptionID : String) : Safe { subscriptionID } :=
  ⟨⟨by simp, by simp, by simp [failedSinceRequest], trivial⟩, by simp [Phase.connected],
    by simp [gapSinceRequest]⟩

/-- What a log has of a handler call and of all before it. -/
abbrev HandledAt (message : SubscriptionMessage) (ok : Bool) (older log : List Output) : Prop :=
  (.handled message ok :: older) <:+ log

theorem handledAt_cons {message : SubscriptionMessage} {ok : Bool} {o : Output}
    {older log : List Output} :
    HandledAt message ok older (o :: log) ↔
      .handled message ok = o ∧ older = log ∨ HandledAt message ok older log := by
  rw [HandledAt, List.suffix_cons_iff, List.cons.injEq]

section HandledAt
variable {message : SubscriptionMessage} {ok : Bool} {older : List Output}

theorem handledAt_called {called : SubscriptionMessage} {result : Bool} {log : List Output}
    (hcalls : calls called result)
    (hs : HandledAt message ok older (.handled called result :: log)) :
    HandledAt message ok older log ∨ log = older ∧ calls message ok := by
  rcases handledAt_cons.mp hs with ⟨heq, rfl⟩ | hs
  · obtain ⟨rfl, rfl⟩ := Output.handled.inj heq
    exact .inr ⟨rfl, hcalls⟩
  · exact .inl hs

theorem FrameStep.handledAt {err : Option Failure} (h : FrameStep calls s err s')
    (hs : HandledAt message ok older s'.log) :
    HandledAt message ok older s.log ∨ s.log = older ∧ calls message ok := by
  cases h with
  | ignored => exact .inl hs
  | refused err => exact .inl hs
  | failed called token err hcalls hcursor hprecedes => exact handledAt_called hcalls hs
  | handled called token err hcalls hcursor htoken =>
    simp only [emit, rememberCursor_log] at hs
    rcases handledAt_cons.mp hs with ⟨heq, -⟩ | hs
    · cases heq
    · exact handledAt_called hcalls hs

theorem handledAt_lifecycles {events : List SubscriptionLifecycleEvent} {log : List Output}
    (hs : HandledAt message ok older (events.map .lifecycle ++ log)) :
    HandledAt message ok older log := by
  induction events with
  | nil => exact hs
  | cons event events ih =>
    rcases handledAt_cons.mp hs with ⟨heq, -⟩ | hs
    · cases heq
    · exact ih hs

theorem Disconnect.handledAt {err : Failure} (h : Disconnect s err s')
    (hs : HandledAt message ok older s'.log) : HandledAt message ok older s.log := by
  cases h with
  | stopped events hphase hcursor hlog =>
    rw [hlog] at hs
    simpa [handledAt_cons] using handledAt_lifecycles hs
  | kept event hnone hphase hcursor hlog => simpa [hlog, handledAt_cons] using hs
  | cleared event event' hphase hcursor hlog => simpa [hlog, handledAt_cons] using hs

theorem Move.handledAt (h : Move calls s s') (hs : HandledAt message ok older s'.log) :
    HandledAt message ok older s.log ∨ s.log = older ∧ calls message ok := by
  cases h with
  | idle hcursor hlog hphase => exact .inl (hlog ▸ hs)
  | undialled err hphase hd => exact .inl (hd.handledAt hs)
  | unwritten err hphase hd =>
    exact .inl (by simpa [emit, handledAt_cons] using hd.handledAt hs)
  | requested requestID hphase => exact .inl (by simpa [emit, handledAt_cons] using hs)
  | confirmed event hphase => exact .inl (by simpa [emitLifecycle, emit, handledAt_cons] using hs)
  | frame hphase hstep => exact hstep.handledAt hs
  | lost result err hphase hstep hd => exact hstep.handledAt (hd.handledAt hs)

/-- Every handler call in the log is that of one frame of the run, with the outcome it had there. -/
theorem handledAt_exec (subscriptionID : String) (es : List Event) :
    ∀ message ok older, HandledAt message ok older (exec step { subscriptionID } es).log →
      ∃ k, EventAt step { subscriptionID } es k fun s e => s.log = older ∧ e.Calls message ok := by
  refine exec_history (P := fun es (s : Subscription) => ∀ message ok older,
    HandledAt message ok older s.log → ∃ k, EventAt step { subscriptionID } es k fun s e =>
      s.log = older ∧ e.Calls message ok) ?_ ?_ es
  · intro message ok older h
    cases List.suffix_nil.mp h
  · intro es e ih message ok older h
    have hvalid := ((safe_new subscriptionID).exec es).1.recorded.valid
    rcases (step_move hvalid e).handledAt h with h | h
    · obtain ⟨k, hk⟩ := ih message ok older h
      exact ⟨k, hk.concat⟩
    · exact ⟨es.length, .last h⟩

end HandledAt

/-- The cursor of a subscription after any run. It is a token that was handled since the last
reset; until the next reset it moves on within its stream and epoch; only what has been handled is
acknowledged; what failed lies after the cursor of the next request; and after a gap that request
has no cursor. What is handled is the message of a frame, and it failed as its handler did. -/
theorem cursor_safety (subscriptionID : String) (es : List Event) :
    let s := exec step { subscriptionID } es
    (∀ c, s.cursor = some c → c ∈ handledSinceReset s.log) ∧
    (∀ fs new, (exec step s fs).log = new ++ s.log → .reset ∉ new → ∀ c, s.cursor = some c →
      ∃ c', (exec step s fs).cursor = some c' ∧ (c' = c ∨ c.Precedes c')) ∧
    (∀ token older, (.ack token :: older) <:+ s.log →
      ∃ message rest, older = .handled message true :: rest ∧ message.cursor = some token) ∧
    (∀ cursor older, (.request cursor :: older) <:+ s.log →
      ∀ message ∈ failedSinceRequest older, message.messageType ≠ .eose →
        Replays cursor message) ∧
    (∀ cursor older, (.request cursor :: older) <:+ s.log →
      gapSinceRequest older = true → cursor = none) ∧
    (∀ message ok older, (.handled message ok :: older) <:+ s.log →
      ∃ k, EventAt step { subscriptionID } es k fun s e => s.log = older ∧ e.Calls message ok) := by
  intro s
  have hsafe : s.Safe := ((safe_new subscriptionID).exec es).1
  have hallowed {o : Output} {older : List Output} (h : (o :: older) <:+ s.log) : Allowed older o :=
    hsafe.recorded.justified.of_suffix h
  refine ⟨hsafe.recorded.handled, ?_, ?_, ?_, ?_, handledAt_exec subscriptionID es⟩
  · intro fs new hlog hreset
    obtain ⟨new', hlog', hadvances⟩ := (hsafe.exec fs).2
    obtain rfl := List.append_cancel_right (hlog.symm.trans hlog')
    exact hadvances hreset
  · intro token older h
    exact hallowed h
  · intro cursor older h
    exact (hallowed h).1
  · intro cursor older h
    exact (hallowed h).2

/-! ### The positions as numbers -/

theorem rememberCursor_cursor (token : ProgressToken) (s : Subscription) :
    (s.rememberCursor token).cursor =
      if shouldReplaceProgressToken s.cursor token then some token else s.cursor := by
  rw [rememberCursor]
  split_ifs
  · rfl
  · rfl

/-- Remembering tokens of one stream and epoch in turn keeps the greater one. -/
theorem foldl_rememberCursor {streamID epoch : String} {tokens : List ProgressToken}
    (h : ∀ t ∈ tokens, t.InLog streamID epoch)
    (hcursor : ∀ c, s.cursor = some c → c.InLog streamID epoch) :
    (tokens.foldl (fun s t => s.rememberCursor t) s).cursor =
      tokens.foldl (keepGreater ProgressToken.number) s.cursor := by
  induction tokens generalizing s with
  | nil => rfl
  | cons t tokens ih =>
    have ht : t.InLog streamID epoch := h t List.mem_cons_self
    have hnext : (s.rememberCursor t).cursor = keepGreater ProgressToken.number s.cursor t := by
      rw [rememberCursor_cursor, ProgressToken.InLog.keep_eq hcursor ht]
    rw [List.foldl_cons, List.foldl_cons, ← hnext]
    refine ih (fun u hu => h u (List.mem_cons_of_mem t hu)) fun c hc => ?_
    rw [rememberCursor_cursor] at hc
    split_ifs at hc with hreplace
    · exact Option.some.inj hc ▸ ht
    · exact hcursor c hc

/-- Positions compare as the numbers they stand for, whatever their leading zeros. So replacement
within one stream and epoch is a strict total order up to equal numbers, and what a subscription
remembers of any tokens is the first with the greatest number. -/
theorem cursor_positions_are_numbers :
    (∀ a b : String, Decimal a.toList → Decimal b.toList →
      compareDecimalPositions a b = compare (decimalValue a.toList) (decimalValue b.toList)) ∧
    (∀ (streamID epoch : String) (p q r : ProgressToken),
      p.InLog streamID epoch → q.InLog streamID epoch → r.InLog streamID epoch →
      let below p q := shouldReplaceProgressToken (some p) q = true
      (p.number = q.number → ¬ below p q) ∧ (below p q → below q r → below p r) ∧
        (below p q ∨ p.number = q.number ∨ below q p)) ∧
    ∀ (streamID epoch : String) (tokens : List ProgressToken) (s : Subscription),
      (∀ t ∈ tokens, t.InLog streamID epoch) → s.cursor = none →
      (tokens.foldl (fun s t => s.rememberCursor t) s).cursor =
        tokens.find? fun t => tokens.all fun u => decide (u.number ≤ t.number) := by
  refine ⟨fun a b ha hb => compareDecimalPositions_eq ha hb, ?_, ?_⟩
  · intro streamID epoch p q r hp hq hr below
    simp only [below, hp.shouldReplace_iff hq, hq.shouldReplace_iff hr, hp.shouldReplace_iff hr,
      hq.shouldReplace_iff hp]
    omega
  · intro streamID epoch tokens s htokens hcursor
    rw [foldl_rememberCursor htokens (by simp [hcursor]), hcursor]
    exact foldl_keepGreater tokens

example :
    let tokens := ["9", "010", "10", "2"].map fun position => ProgressToken.mk "s" "1" position ""
    (tokens.foldl (fun (s : Subscription) t => s.rememberCursor t) { subscriptionID := "sub" }).cursor =
      some ⟨"s", "1", "010", ""⟩ := by
  decide

end Subscription

end Meshd.Dwn
