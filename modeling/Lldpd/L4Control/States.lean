import Lldpd.L4Control.Connection

/-!
# The states of a connection

A state in which an answer is waited for should mean that the request is sent,
and a connection whose answer has come should be idle. Neither holds
(`request_stuck`): a `send` callback that takes only a part of the request is
taken for one that took it all, and an answer that is refused, undecodable or of
another type leaves the connection waiting for one, so that every other request
is refused from then on. For the configuration a failed `send` is enough, since
the states before and after it are the same number.

With callbacks and a daemon that do none of this (`Cooperative`) both hold in
every state of a connection (`settled_reachable`).
-/
namespace Lldpd.Control
open Core

section
variable {V N : Type} {dec : Decoders V N} {c : Conn N} {req : Request}

/-! ## Conditions on callbacks and on the daemon -/

def Conn.pending (c : Conn N) (req : Request) : Bytes :=
  if c.state = .idle then req.content.elim [] fun content => ctlMsgSend req.type content c.output
  else c.output

def Conn.Takes (c : Conn N) (req : Request) : Prop :=
  (c.state = .idle ∧ req.content ≠ none) ∨
    ((c.state = req.stateSend ∨ c.state = req.stateRecv) ∧ req.Matches c)

/-- The buffer once `lldpctl_recv` has looked for a notification. -/
def withoutNotification (input : Bytes) : Bytes :=
  match readHead input with
  | .message type _ rest => if type = HmsgType.notification.code then rest else input
  | _ => input

/-- What the buffer starts with, if it is complete, is an answer to the
request. -/
def HeadAnswers (dec : Decoders V N) (req : Request) (input : Bytes) : Prop :=
  match readHead input with
  | .short _ => True
  | .tooLarge => False
  | .message type payload _ => type = req.type.code ∧ unserialize (req.toRecv dec) payload ≠ none

/-- Besides notifications that come one by one, the first message to be complete
is an answer to the request. -/
def WellAnswered (dec : Decoders V N) (req : Request) : Bytes → List RecvResult → Prop
  | input, .data bytes :: recvs =>
    HeadAnswers dec req input ∧
      ∀ n, readHead input = .short n → bytes.take n ≠ [] →
        readHead (input ++ bytes.take n) ≠ .tooLarge ∧
          WellAnswered dec req (withoutNotification (input ++ bytes.take n)) recvs
  | input, _ => HeadAnswers dec req input

structure Cooperates (dec : Decoders V N) (c : Conn N) (req : Request) (send : SendResult)
    (recvs : List RecvResult) : Prop where
  /-- What is sent is sent whole. -/
  whole : c.pending req ≠ [] → ∀ n, send = .sent n → n = (c.pending req).length
  /-- Asking for the configuration does not fail. -/
  config : req = .getConfiguration → c.pending req ≠ [] → send ≠ .fails
  answer : (c.pending req ≠ [] → send ≠ .fails) → WellAnswered dec req c.input recvs

def Cooperative (dec : Decoders V N) (c : Conn N) : Call → Prop
  | .request req send recvs => c.Takes req → Cooperates dec c req send recvs
  | .recv data => c.state ≠ .idle → readHead (c.input ++ data) ≠ .tooLarge
  | .process => c.state ≠ .idle → readHead c.input ≠ .tooLarge
  | .send r => c.output ≠ [] → ∀ n, r = .sent n → n ≤ c.output.length
  | .watch _ => True

/-! ## Frames -/

theorem check_frame : (checkForNotification dec c).state = c.state ∧
    (checkForNotification dec c).stateData = c.stateData ∧
      (checkForNotification dec c).output = c.output := by
  unfold checkForNotification
  split
  · exact ⟨rfl, rfl, rfl⟩
  · exact ⟨rfl, rfl, rfl⟩
  · dsimp only
    split <;> exact ⟨rfl, rfl, rfl⟩

theorem check_answered (h : readHead c.input ≠ .tooLarge) :
    (checkForNotification dec c).answered = c.answered := by
  unfold checkForNotification
  split
  · rfl
  · simp [h, decide_false]
  · dsimp only
    split <;> rfl

theorem check_input (h : readHead c.input ≠ .tooLarge) :
    (checkForNotification dec c).input = withoutNotification c.input := by
  unfold checkForNotification ctlMsgRecvUnserialized withoutNotification
  cases hhead : readHead c.input with
  | short n => rfl
  | tooLarge => exact absurd hhead h
  | message type payload rest =>
    dsimp only
    by_cases ht : type = HmsgType.notification.code
    · rw [if_neg (not_not_intro ht), if_pos ht]
      cases unserialize (some dec.notification) payload with
      | none => rfl
      | some change =>
        dsimp only [Option.elim]
        split <;> rfl
    · rw [if_pos ht, if_neg ht, if_pos rfl]

theorem recv_frame (data : Bytes) : (lldpctlRecv dec data c).state = c.state ∧
    (lldpctlRecv dec data c).stateData = c.stateData ∧
      (lldpctlRecv dec data c).output = c.output := by
  unfold lldpctlRecv
  split
  · exact ⟨rfl, rfl, rfl⟩
  · exact check_frame

theorem recv_answered {data : Bytes} (h : readHead (c.input ++ data) ≠ .tooLarge) :
    (lldpctlRecv dec data c).answered = c.answered := by
  unfold lldpctlRecv
  split
  · rfl
  · exact check_answered h

theorem recv_input {data : Bytes} (hne : data ≠ []) (h : readHead (c.input ++ data) ≠ .tooLarge) :
    (lldpctlRecv dec data c).input = withoutNotification (c.input ++ data) := by
  unfold lldpctlRecv
  rw [if_neg hne]
  exact check_input h

/-! ## The invariant -/

structure Conn.Settled (c : Conn N) : Prop where
  sent : c.state.isRecv = true → c.output = []
  idle : c.state = .idle → c.output = []
  answered : c.answered = true → c.state = .idle

/-- What receives nothing but notifications. -/
theorem Conn.Settled.frame {c' : Conn N} (hc : c.Settled) (hstate : c'.state = c.state)
    (houtput : c'.output = c.output)
    (hanswered : c.state ≠ .idle → c'.answered = c.answered) : c'.Settled where
  sent h := by
    rw [houtput]
    exact hc.sent (hstate ▸ h)
  idle h := by
    rw [houtput]
    exact hc.idle (hstate ▸ h)
  answered h := by
    rw [hstate]
    refine Classical.byContradiction fun hne => hne (hc.answered ?_)
    rw [← hanswered hne]
    exact h

structure Conn.Waiting (c : Conn N) (req : Request) : Prop where
  state : c.state = req.stateRecv
  output : c.output = []
  answered : c.answered = false

theorem Conn.Waiting.settled (hc : c.Waiting req) : c.Settled where
  sent _ := hc.output
  idle _ := hc.output
  answered h := by
    rw [hc.answered] at h
    cases h

variable {n : Nat} {recvs : List RecvResult}

section
variable (h : readHead c.input = .short n)
include h

theorem receive_short_nil : receive dec req [] c = (c, .error .callback) := by
  rw [receive, ctlMsgRecvUnserialized, h]

theorem receive_short_error {r : RecvResult} {e : ConnError} (hn : lldpctlNeeds dec n r c = .error e) :
    receive dec req (r :: recvs) c = (c, .error e) := by
  rw [receive, ctlMsgRecvUnserialized, h]
  dsimp only
  rw [hn]

theorem receive_short_ok {r : RecvResult} {c' : Conn N} (hn : lldpctlNeeds dec n r c = .ok c') :
    receive dec req (r :: recvs) c = receive dec req recvs c' := by
  rw [receive, ctlMsgRecvUnserialized, h]
  dsimp only
  rw [hn]

end

theorem receive_message {payload rest : Bytes} {v : Option V}
    (h : readHead c.input = .message req.type.code payload rest)
    (hv : unserialize (req.toRecv dec) payload = some v) :
    receive dec req recvs c =
      ({ c with input := rest, answered := true, state := .idle, stateData := none }, .ok v) := by
  rw [receive, ctlMsgRecvUnserialized, h]
  dsimp only
  rw [if_neg (not_not_intro rfl), hv]
  rfl

theorem WellAnswered.head {input : Bytes}
    (h : WellAnswered dec req input recvs) : HeadAnswers dec req input := by
  unfold WellAnswered at h
  split at h
  · exact h.1
  · exact h

theorem HeadAnswers.cases {input : Bytes} (h : HeadAnswers dec req input) :
    (∃ n, readHead input = .short n) ∨
      ∃ payload rest v, readHead input = .message req.type.code payload rest ∧
        unserialize (req.toRecv dec) payload = some v := by
  unfold HeadAnswers at h
  cases hhead : readHead input with
  | short n => exact .inl ⟨n, rfl⟩
  | tooLarge =>
    rw [hhead] at h
    exact h.elim
  | message type payload rest =>
    rw [hhead] at h
    obtain ⟨rfl, hv⟩ := h
    obtain ⟨v, hv⟩ := Option.ne_none_iff_exists'.1 hv
    exact .inr ⟨payload, rest, v, rfl, hv⟩

/-- The loop: the request waits on, or its answer has come. -/
theorem receive_settled (hc : c.Waiting req)
    (hw : WellAnswered dec req c.input recvs) : (receive dec req recvs c).1.Settled := by
  induction recvs generalizing c with
  | nil =>
    rcases hw.head.cases with ⟨n, hn⟩ | ⟨payload, rest, v, hhead, hv⟩
    · rw [receive_short_nil hn]
      exact hc.settled
    · rw [receive_message hhead hv]
      exact ⟨fun _ => hc.output, fun _ => hc.output, fun _ => rfl⟩
  | cons r recvs ih =>
    rcases hw.head.cases with ⟨n, hn⟩ | ⟨payload, rest, v, hhead, hv⟩
    · cases r with
      | fails =>
        rw [receive_short_error hn rfl]
        exact hc.settled
      | data bytes =>
        by_cases hempty : bytes.take n = []
        · have hneeds : lldpctlNeeds dec n (.data bytes) c = .error .eof := if_pos hempty
          rw [receive_short_error hn hneeds]
          exact hc.settled
        · have hneeds : lldpctlNeeds dec n (.data bytes) c = .ok _ := if_neg hempty
          rw [receive_short_ok hn hneeds]
          obtain ⟨hsize, hrest⟩ := hw.2 n hn hempty
          obtain ⟨hstate, -, houtput⟩ := @recv_frame V N dec c (bytes.take n)
          refine ih ⟨hstate.trans hc.state, houtput.trans hc.output, ?_⟩ ?_
          · rw [recv_answered hsize]
            exact hc.answered
          · rw [recv_input hempty hsize]
            exact hrest
    · rw [receive_message hhead hv]
      exact ⟨fun _ => hc.output, fun _ => hc.output, fun _ => rfl⟩

/-! ## A request -/

theorem isRecv_stateRecv : req.stateRecv.isRecv = true := by cases req <;> rfl

theorem stateSend_ne_idle : req.stateSend ≠ .idle := by cases req <;> exact fun h => nomatch h

theorem isRecv_stateSend (h : req ≠ .getConfiguration) : req.stateSend.isRecv = false := by
  cases req with
  | getConfiguration => exact absurd rfl h
  | _ => rfl

/-- The message was just built. -/
theorem matches_built {content : Bytes} : req.Matches (built req content c) := by
  unfold Request.Matches built
  cases hdata : req.stateData with
  | none => exact .inl rfl
  | some data => exact .inr rfl

def SendResult.left (output : Bytes) : SendResult → Bytes
  | .fails => output
  | .sent n => output.drop n

theorem send_eq {r : SendResult} : lldpctlSend r c =
    ({ c with output := r.left c.output }, decide (c.output = [] ∨ r ≠ .fails)) := by
  unfold lldpctlSend
  by_cases hout : c.output = []
  · have hleft : r.left c.output = c.output := by
      cases r with
      | fails => rfl
      | sent n => rw [hout]; exact List.drop_nil
    rw [if_pos hout, hleft, decide_eq_true (.inl hout)]
  · rw [if_neg hout]
    cases r with
    | fails => rw [decide_eq_false (fun h => h.elim hout fun h => h rfl)]; rfl
    | sent n => rw [decide_eq_true (.inr fun h => nomatch h)]; rfl

section
variable {send : SendResult} {recvs : List RecvResult}

theorem proceed_fails (hstate : c.state = req.stateSend) (hmatch : req.Matches c)
    (hsend : ¬ (c.output = [] ∨ send ≠ .fails)) :
    proceed dec req send recvs c = (c, .error .callback) := by
  have hfails : send = .fails := Classical.byContradiction fun h => hsend (.inr h)
  unfold proceed transmit
  rw [if_pos ⟨hstate, hmatch⟩, send_eq, decide_eq_false hsend, hfails]
  rfl

theorem proceed_sent (hstate : c.state = req.stateSend) (hmatch : req.Matches c)
    (hsend : c.output = [] ∨ send ≠ .fails) :
    proceed dec req send recvs c =
      receive dec req recvs { c with output := send.left c.output, state := req.stateRecv } := by
  unfold proceed transmit
  rw [if_pos ⟨hstate, hmatch⟩, send_eq, decide_eq_true hsend]
  exact if_pos (And.intro rfl hmatch)

/-- The message was sent before. -/
theorem proceed_recv (hne : c.state ≠ req.stateSend) (hstate : c.state = req.stateRecv)
    (hmatch : req.Matches c) : proceed dec req send recvs c = receive dec req recvs c := by
  unfold proceed transmit
  rw [if_neg fun h => hne h.1]
  exact if_pos (And.intro hstate hmatch)

/-- Another request is under way. -/
theorem proceed_refused (h : ¬ ((c.state = req.stateSend ∨ c.state = req.stateRecv) ∧ req.Matches c)) :
    proceed dec req send recvs c = (c, .error .invalidState) := by
  unfold proceed transmit
  rw [if_neg fun h' => h ⟨.inl h'.1, h'.2⟩]
  have hrecv : ¬ (c.state = req.stateRecv ∧ req.Matches c) := fun h' => h ⟨.inr h'.1, h'.2⟩
  exact if_neg hrecv

theorem proceed_settled (hstate : c.state = req.stateSend) (hmatch : req.Matches c)
    (hanswered : c.answered = false) (hwhole : c.output ≠ [] → ∀ n, send = .sent n → n = c.output.length)
    (hconfig : req = .getConfiguration → c.output ≠ [] → send ≠ .fails)
    (hanswer : (c.output ≠ [] → send ≠ .fails) → WellAnswered dec req c.input recvs) :
    (proceed dec req send recvs c).1.Settled := by
  by_cases hsend : c.output = [] ∨ send ≠ .fails
  · rw [proceed_sent hstate hmatch hsend]
    refine receive_settled ⟨rfl, ?_, hanswered⟩ (hanswer hsend.resolve_left)
    cases send with
    | fails => exact hsend.resolve_right fun h => h rfl
    | sent n =>
      by_cases hout : c.output = []
      · rw [hout]
        exact List.drop_nil
      · exact List.drop_eq_nil_of_le (Nat.le_of_eq (hwhole hout n rfl).symm)
  · rw [proceed_fails hstate hmatch hsend]
    have hreq : req ≠ .getConfiguration :=
      fun h => hsend (.inr (hconfig h fun hout => hsend (.inl hout)))
    refine ⟨fun h => ?_, fun h => ?_, fun h => ?_⟩
    · rw [hstate, isRecv_stateSend hreq] at h
      cases h
    · exact absurd (hstate.symm.trans h) stateSend_ne_idle
    · rw [hanswered] at h
      cases h

/-- A request under conditions. -/
theorem Conn.Settled.doSomething (hc : c.Settled)
    (hcoop : c.Takes req → Cooperates dec c req send recvs) :
    (lldpctlDoSomething dec req send recvs c).1.Settled := by
  unfold lldpctlDoSomething build
  by_cases hidle : c.state = .idle
  · rw [if_pos hidle]
    cases hcontent : req.content with
    | none => exact hc
    | some content =>
      have hco := hcoop (.inl ⟨hidle, by rw [hcontent]; exact fun h => nomatch h⟩)
      have hpending : c.pending req = ctlMsgSend req.type content c.output := by
        unfold Conn.pending
        rw [if_pos hidle, hcontent]
        rfl
      obtain ⟨hwhole, hconfig, hanswer⟩ := hco
      rw [hpending] at hwhole hconfig hanswer
      exact proceed_settled rfl matches_built rfl hwhole hconfig hanswer
  · rw [if_neg hidle]
    have hpending : c.pending req = c.output := if_neg hidle
    have hanswered : c.answered = false := by
      cases h : c.answered with
      | false => rfl
      | true => exact absurd (hc.answered h) hidle
    show (proceed dec req send recvs c).1.Settled
    by_cases htakes : (c.state = req.stateSend ∨ c.state = req.stateRecv) ∧ req.Matches c
    · obtain ⟨hwhole, hconfig, hanswer⟩ := hcoop (.inr htakes)
      rw [hpending] at hwhole hconfig hanswer
      obtain ⟨hstate, hmatch⟩ := htakes
      by_cases hsend : c.state = req.stateSend
      · exact proceed_settled hsend hmatch hanswered hwhole hconfig hanswer
      · have hrecv := hstate.resolve_left hsend
        have hout := hc.sent (by rw [hrecv]; exact isRecv_stateRecv)
        rw [proceed_recv hsend hrecv hmatch]
        exact receive_settled ⟨hrecv, hout, hanswered⟩ (hanswer fun h => absurd hout h)
    · rw [proceed_refused htakes]
      exact hc

end

/-! ## Runs -/

theorem Conn.Settled.watchCb (hc : c.Settled) (cb : Bool) : Conn.Settled { c with watchCb := cb } :=
  ⟨hc.sent, hc.idle, hc.answered⟩

/-- `lldpctl_watch` only runs when the connection is idle, and keeps it so. -/
theorem watchLoop_settled (hidle : c.state = .idle) (hout : c.output = []) :
    (lldpctlWatch.loop dec recvs c).Settled := by
  induction recvs generalizing c with
  | nil => exact ⟨fun _ => hout, fun _ => hout, fun _ => hidle⟩
  | cons r recvs ih =>
    unfold lldpctlWatch.loop
    split
    · exact ⟨fun _ => hout, fun _ => hout, fun _ => hidle⟩
    · cases hneeds : lldpctlNeeds dec 1 r c with
      | error e => exact ⟨fun _ => hout, fun _ => hout, fun _ => hidle⟩
      | ok c' =>
        obtain ⟨hstate, houtput⟩ : c'.state = c.state ∧ c'.output = c.output := by
          unfold lldpctlNeeds at hneeds
          cases r with
          | fails => cases hneeds
          | data bytes =>
            dsimp only at hneeds
            split at hneeds
            · cases hneeds
            · obtain rfl := Except.ok.inj hneeds
              exact ⟨(recv_frame _).1, (recv_frame _).2.2⟩
        exact ih (hstate.trans hidle) (houtput.trans hout)

theorem Conn.Settled.call (hc : c.Settled) {call : Call} (hcoop : Cooperative dec c call) :
    (c.call dec call).Settled := by
  cases call with
  | request req send recvs =>
    have hdo : (lldpctlDoSomething dec req send recvs c).1.Settled := hc.doSomething hcoop
    show (request dec req send recvs c).1.Settled
    unfold request
    split
    rename_i c' r heq
    rw [heq] at hdo
    split
    · exact hdo.watchCb _
    · exact hdo
  | send r =>
    show (lldpctlSend r c).1.Settled
    rw [send_eq]
    have hleft : c.output = [] → r.left c.output = [] := by
      intro h
      rw [h]
      cases r with
      | fails => rfl
      | sent n => exact List.drop_nil
    exact ⟨fun h => hleft (hc.sent h), fun h => hleft (hc.idle h), hc.answered⟩
  | recv data =>
    exact hc.frame (recv_frame data).1 (recv_frame data).2.2 fun hne => recv_answered (hcoop hne)
  | process => exact hc.frame check_frame.1 check_frame.2.2 fun hne => check_answered (hcoop hne)
  | watch recvs =>
    show (lldpctlWatch dec recvs c).Settled
    unfold lldpctlWatch
    split
    · exact hc
    · rename_i hidle
      have hidle : c.state = .idle := Classical.not_not.1 hidle
      exact watchLoop_settled hidle (hc.idle hidle)

/-- The loop does not refuse a request. -/
theorem receive_ne_invalidState : (receive dec req recvs c).2 ≠ .error .invalidState := by
  induction recvs generalizing c with
  | nil =>
    unfold receive
    split <;> exact fun h => nomatch h
  | cons r recvs ih =>
    unfold receive
    split
    · exact fun h => nomatch h
    · exact fun h => nomatch h
    · dsimp only
      split
      · rename_i e he
        unfold lldpctlNeeds at he
        cases r with
        | fails =>
          cases he
          exact fun h => nomatch h
        | data bytes =>
          dsimp only at he
          split at he
          · cases he
            exact fun h => nomatch h
          · cases he
      · exact ih

theorem idle_takes (hidle : c.state = .idle) (req : Request) (send : SendResult)
    (recvs : List RecvResult) :
    (lldpctlDoSomething dec req send recvs c).2 ≠ .error .invalidState := by
  unfold lldpctlDoSomething build
  rw [if_pos hidle]
  cases req.content with
  | none => exact fun h => nomatch h
  | some content =>
    show (proceed dec req send recvs (built req content c)).2 ≠ _
    by_cases hsend : (built req content c).output = [] ∨ send ≠ .fails
    · rw [proceed_sent rfl matches_built hsend]
      exact receive_ne_invalidState
    · rw [proceed_fails rfl matches_built hsend]
      exact fun h => nomatch h

end

/-- **The state of a connection** tells the truth in every run with callbacks
and a daemon that cooperate: a connection that waits for an answer has sent the
whole request, and one that has had its answer is idle and takes every other
request. -/
theorem settled_reachable {V N : Type} (dec : Decoders V N) (c : Conn N)
    (hc : ((connection dec).guard (Cooperative dec)).Reachable c) :
    (c.state.isRecv = true → c.output = []) ∧
      (c.answered = true → c.state = .idle ∧ ∀ req send recvs,
        (lldpctlDoSomething dec req send recvs c).2 ≠ .error .invalidState) := by
  have hsettled : c.Settled := by
    induction hc with
    | init hi =>
      obtain rfl := hi
      exact ⟨fun _ => rfl, fun _ => rfl, fun h => nomatch h⟩
    | step _ hst ih =>
      obtain rfl := Option.some.inj hst.2
      exact ih.call hst.1
  exact ⟨hsettled.sent, fun h => ⟨hsettled.answered h, idle_takes (hsettled.answered h)⟩⟩

/-- An application that looks at nothing. -/
def blind : Decoders Unit Unit where
  answer _ _ := some ()
  notification _ := some ()
  known _ := true

/-- The answer to `lldpctl_watch_callback`. -/
def subscribed : Bytes := leBytes 4 6 ++ List.replicate 12 0

theorem settled_reachable_watch :
    let c := ({} : Conn Unit).call blind
      (.request (.watchCallback true) (.sent 16) [.data subscribed])
    c.answered = true ∧ c.state = .idle := by
  refine ⟨by decide, ((settled_reachable blind _ (.step (.init rfl) ⟨?_, rfl⟩)).2 (by decide)).1⟩
  intro _
  refine ⟨?_, fun h => (nomatch h), fun _ => ⟨trivial, ?_⟩⟩
  · intro _ n hn
    cases hn
    decide
  · intro n hn _
    cases hn
    exact ⟨by decide, rfl, fun h => nomatch h⟩

/-- The `send` callback takes eight of sixteen bytes, and the connection waits
for an answer. The daemon answers `NONE`, and from then on every other request
is refused. -/
theorem request_stuck :
    (∃ c, (connection blind).Reachable c ∧ c.state.isRecv = true ∧ c.output ≠ []) ∧
      ∃ c, (connection blind).Reachable c ∧ c.answered = true ∧ c.state ≠ .idle ∧
        (lldpctlDoSomething blind .getConfiguration (.sent 16) [] c).2 = .error .invalidState :=
  ⟨⟨_, .step (l := .request (.watchCallback true) (.sent 8) []) (.init rfl) rfl, by decide⟩,
    _, .step (l := .request (.watchCallback true) (.sent 16) [.data (List.replicate 16 0)])
      (.init rfl) rfl, rfl, by decide, rfl⟩

end Lldpd.Control
