import Lldpd.L4Control.States

/-!
# Notifications around an answer

Notifications come in between, and `lldpctl_recv` takes one of them out of the
buffer for each piece it is given. When a piece completes two of them in front
of the answer, the request finds the second one: it throws it away and fails
(`notification_lost`). When the last piece completes two of them behind the
answer, the second one stays in the buffer.

So every notification is delivered and the request gets its answer exactly when
the pieces are small enough (`demultiplexed_iff`): a piece completes at most one
of the notifications in front of the answer, and those behind it get through one
for each piece (`Paced`).
-/
namespace Lldpd.Control
open Core

section
variable {V N : Type} {dec : Decoders V N} {c : Conn N} {req : Request}

/-- What a call of the request says, if it is not to be called again. -/
def finished : Except ConnError (Option V) → Option (Except ConnError (Option V))
  | .error .callback => none
  | r => some r

abbrev Exchange (V N : Type) := Conn N × Option (Except ConnError (Option V))

/-- A piece arrives, and the application calls the request again if it is not
finished. There is nothing more to read. -/
def arrive (dec : Decoders V N) (req : Request) (x : Exchange V N) (chunk : Bytes) : Exchange V N :=
  let c := lldpctlRecv dec chunk x.1
  if x.2.isSome then (c, x.2)
  else
    let r := request dec req .fails [] c
    (r.1, finished r.2)

/-- What the application is told of a message: only notifications of a known
kind concern it. -/
def change (dec : Decoders V N) (m : Message) : Option N :=
  if m.type = .notification ∧ m.payload ≠ [] then (dec.notification m.payload).filter dec.known
  else none

/-- As long as the answer, behind `a` notifications, is not complete, a piece
completes one notification at most. The piece that completes the answer
completes one notification in front of it at most, and from then on a piece for
each notification is enough. -/
def Paced (ms : List Message) (a : Nat) : Nat → List Bytes → Prop
  | _, [] => True
  | n, chunk :: chunks =>
    let n' := n + chunk.length
    if whole Message.bytes ms n' ≤ a then
      whole Message.bytes ms n' ≤ whole Message.bytes ms n + 1 ∧ Paced ms a n' chunks
    else
      a ≤ whole Message.bytes ms n + 1 ∧ ms.length ≤ served Message.bytes ms (a + 1) n' chunks

/-! ## What `lldpctl_recv` takes out -/

variable {rest : Bytes}

theorem check_notification {m : Message} {n : N}
    (hinput : c.input = m.bytes ++ rest) (hn : change dec m = some n) (hcb : c.watchCb = true) :
    checkForNotification dec c =
      { c with input := rest, watched := c.watched ++ [n], watchTriggered := true } := by
  unfold change at hn
  split at hn
  case isFalse => cases hn
  rename_i hm
  obtain ⟨hx, hknown⟩ := Option.filter_eq_some_iff.1 hn
  have hrecv : ctlMsgRecvUnserialized .notification (some dec.notification) c.input =
      .value (some n) rest := by
    unfold ctlMsgRecvUnserialized
    rw [hinput, readHead_bytes]
    dsimp only
    rw [hm.1]
    unfold unserialize
    rw [Option.elim_some, if_neg hm.2, hx]
    rfl
  unfold checkForNotification
  rw [hrecv]
  dsimp only
  rw [Option.filter_some, if_pos hknown, hcb]

theorem check_other {m : Message} (hinput : c.input = m.bytes ++ rest)
    (ht : m.type ≠ .notification) : checkForNotification dec c = c := by
  have hhead : readHead c.input = .message m.type.code m.payload rest := by
    rw [hinput]
    exact readHead_bytes m rest
  have hcode : m.type.code ≠ HmsgType.notification.code := fun h => ht (HmsgType.code_injective h)
  unfold checkForNotification ctlMsgRecvUnserialized
  rw [hhead]
  dsimp only
  rw [if_pos hcode]
  simp [reduceCtorEq, decide_false]

/-- No message is complete. -/
theorem check_short {n : Nat} (h : readHead c.input = .short n) : checkForNotification dec c = c := by
  unfold checkForNotification ctlMsgRecvUnserialized
  rw [h]

/-! ## What the request takes out -/

/-- The request has been sent, and the application is still called back. -/
structure Conn.Outstanding (c : Conn N) (req : Request) : Prop where
  state : c.state = req.stateRecv
  data : req.Matches c
  output : c.output = []
  watchCb : c.watchCb = true

theorem doSomething_outstanding (hc : c.Outstanding req) (recvs : List RecvResult) :
    lldpctlDoSomething dec req .fails recvs c = receive dec req recvs c := by
  have hidle : c.state ≠ .idle := by
    rw [hc.state]
    cases req <;> exact fun h => nomatch h
  unfold lldpctlDoSomething build
  rw [if_neg hidle]
  show proceed dec req .fails recvs c = receive dec req recvs c
  by_cases hsend : c.state = req.stateSend
  · rw [proceed_sent hsend hc.data (.inl hc.output)]
    show receive dec req recvs { c with state := req.stateRecv } = _
    rw [← hc.state]
  · exact proceed_recv hsend hc.state hc.data

theorem receive_other {recvs : List RecvResult} {type : Nat} {payload : Bytes}
    (h : readHead c.input = .message type payload rest) (ht : type ≠ req.type.code) :
    receive dec req recvs c =
      ({ c with input := rest, answered := true }, .error .serialization) := by
  have hn : req.type ≠ .notification := by cases req <;> exact fun h => nomatch h
  rw [receive, ctlMsgRecvUnserialized, h]
  dsimp only
  rw [if_pos ht, if_neg hn]

/-! ## The stream of the daemon -/

structure Talk (dec : Decoders V N) (req : Request) (before : List Message) (reply : Message)
    (after : List Message) (v : Option V) : Prop where
  notifications : ∀ m ∈ before ++ after, ∃ n, change dec m = some n
  type : reply.type = req.type
  value : unserialize (req.toRecv dec) reply.payload = some v

section
variable {before after : List Message} {reply : Message} {v : Option V} {k n : Nat}

variable {m : Message} {chunks : List Bytes}

theorem type_change {x : N} (h : change dec m = some x) : m.type = .notification := by
  unfold change at h
  split at h
  · rename_i hm
    exact hm.1
  · cases h

theorem Talk.reply_type (ht : Talk dec req before reply after v) : reply.type ≠ .notification := by
  rw [ht.type]
  cases req <;> exact fun h => nomatch h

theorem Talk.change_reply (ht : Talk dec req before reply after v) : change dec reply = none :=
  if_neg fun h => ht.reply_type h.1

theorem get_reply : (before ++ reply :: after)[before.length]? = some reply := by simp

theorem Talk.get_other (ht : Talk dec req before reply after v)
    (hm : (before ++ reply :: after)[k]? = some m) (hk : k ≠ before.length) :
    ∃ x, change dec m = some x := by
  refine ht.notifications m (List.mem_append.2 ?_)
  rw [List.getElem?_append] at hm
  split at hm
  · exact .inl (List.mem_of_getElem? hm)
  · obtain ⟨i, hi⟩ : ∃ i, k - before.length = i + 1 := ⟨k - before.length - 1, by omega⟩
    rw [hi] at hm
    exact .inr (List.mem_of_getElem? hm)

/-- The first `k` messages are consumed of the first `n` bytes, and the
application was told of them. -/
structure Told (dec : Decoders V N) (ms : List Message) (w : List N) (k n : Nat) (c : Conn N) :
    Prop where
  pending : Pending Message.bytes ms k n c.input
  watched : c.watched = w ++ (ms.take k).filterMap (change dec)
  watchCb : c.watchCb = true

variable {ms : List Message} {w : List N}

/-- The next message was consumed, with or without a callback. -/
theorem Told.next {c' : Conn N} (ht : Told dec ms w k n c) (hm : ms[k]? = some m)
    (hp : Pending Message.bytes ms (k + 1) n c'.input)
    (hw : c'.watched = c.watched ++ (change dec m).toList) (hcb : c'.watchCb = true) :
    Told dec ms w (k + 1) n c' := by
  refine ⟨hp, ?_, hcb⟩
  rw [hw, ht.watched, List.take_add_one, hm, List.filterMap_append, List.append_assoc]
  congr 2

section
variable {chunk later : Bytes}

/-- No message is complete that was not consumed. -/
theorem Told.short (ht : Told dec ms w k n c) (hk : k = whole Message.bytes ms n) :
    ∃ missing, readHead c.input = .short missing := by
  rcases ht.pending.short hk with ⟨-, hnil⟩ | ⟨m, later, -, hm, hne⟩
  · rw [hnil]
    exact ⟨_, readHead_nil⟩
  · exact ⟨_, readHead_short m hm hne⟩

/-- The piece is in the buffer, before anything is looked for. -/
theorem Told.append (ht : Told dec ms w k n c)
    (hchunk : (stream Message.bytes ms).drop n = chunk ++ later) :
    Told dec ms w k (n + chunk.length) { c with input := c.input ++ chunk } :=
  ⟨ht.pending.append hchunk, ht.watched, ht.watchCb⟩

theorem recv_eq (hne : chunk ≠ []) : lldpctlRecv dec chunk c =
    checkForNotification dec { c with input := c.input ++ chunk } := if_neg hne

/-- A piece arrives, and the next message is a notification. -/
theorem Told.recv (ht : Told dec ms w k n c) (hne : chunk ≠ [])
    (hchunk : (stream Message.bytes ms).drop n = chunk ++ later)
    (hnext : ∀ m, ms[k]? = some m → ∃ x, change dec m = some x) :
    Told dec ms w (min (k + 1) (whole Message.bytes ms (n + chunk.length))) (n + chunk.length)
      (lldpctlRecv dec chunk c) := by
  have ht' := ht.append hchunk
  rw [recv_eq hne]
  rcases Nat.lt_or_eq_of_le ht'.pending.le with hk | hk
  · rw [Nat.min_eq_left hk]
    obtain ⟨m, rest, hm, hbuf, hrest⟩ := ht'.pending.complete hk
    obtain ⟨x, hx⟩ := hnext m hm
    rw [check_notification hbuf hx ht'.watchCb]
    refine ht'.next hm hrest ?_ ht'.watchCb
    rw [hx]
    rfl
  · obtain ⟨missing, hshort⟩ := ht'.short hk
    have hmin : min (k + 1) (whole Message.bytes ms (n + chunk.length)) = k := by omega
    rw [hmin, check_short hshort]
    exact ht'

/-- A piece arrives, and the next message is the answer. -/
theorem Told.recv_reply (ht : Told dec ms w k n c) (hne : chunk ≠ [])
    (hchunk : (stream Message.bytes ms).drop n = chunk ++ later) (hreply : ms[k]? = some reply)
    (htype : reply.type ≠ .notification) :
    Told dec ms w k (n + chunk.length) (lldpctlRecv dec chunk c) := by
  have ht' := ht.append hchunk
  rw [recv_eq hne]
  rcases Nat.lt_or_eq_of_le ht'.pending.le with hk | hk
  · obtain ⟨m, rest, hm, hbuf, hrest⟩ := ht'.pending.complete hk
    cases hreply.symm.trans hm
    rw [check_other hbuf htype]
    exact ht'
  · obtain ⟨missing, hshort⟩ := ht'.short hk
    rw [check_short hshort]
    exact ht'

end

theorem Conn.Outstanding.recv (hc : c.Outstanding req) {chunk : Bytes}
    (hcb : (lldpctlRecv dec chunk c).watchCb = true) : (lldpctlRecv dec chunk c).Outstanding req := by
  obtain ⟨hstate, hdata, houtput⟩ := @recv_frame V N dec c chunk
  refine ⟨hstate.trans hc.state, ?_, houtput.trans hc.output, hcb⟩
  have hmatch := hc.data
  unfold Request.Matches at hmatch ⊢
  rw [hdata]
  exact hmatch

/-! ## The request after a piece -/

/-- No message is complete: it is called again later. -/
theorem request_short (hc : c.Outstanding req) (ht : Told dec ms w k n c)
    (hk : k = whole Message.bytes ms n) : request dec req .fails [] c = (c, .error .callback) := by
  obtain ⟨missing, hshort⟩ := ht.short hk
  unfold request
  rw [doSomething_outstanding hc, receive_short_nil hshort]
  cases req <;> rfl

variable (htalk : Talk dec req before reply after v)
include htalk

/-- The answer is complete. -/
theorem request_reply (hreq : req ≠ .watchCallback false)
    (hc : c.Outstanding req) (ht : Told dec (before ++ reply :: after) w before.length n c)
    (hk : before.length < whole Message.bytes (before ++ reply :: after) n) :
    ∃ c', request dec req .fails [] c = (c', .ok v) ∧
      Told dec (before ++ reply :: after) w (before.length + 1) n c' := by
  obtain ⟨m, rest, hm, hbuf, hrest⟩ := ht.pending.complete hk
  cases get_reply.symm.trans hm
  have hhead : readHead c.input = .message req.type.code reply.payload rest := by
    rw [hbuf, readHead_bytes, htalk.type]
  unfold request
  rw [doSomething_outstanding hc, receive_message hhead htalk.value]
  refine ⟨{ c with input := rest, answered := true, state := .idle, stateData := none }, ?_, ?_⟩
  · cases req with
    | watchCallback cb =>
      cases cb with
      | false => exact absurd rfl hreq
      | true => exact congrArg (fun cb => (({ c with
          input := rest
          answered := true
          state := .idle
          stateData := none
          watchCb := cb } : Conn N), Except.ok v)) hc.watchCb.symm
    | _ => rfl
  · refine ht.next hm hrest ?_ hc.watchCb
    rw [htalk.change_reply]
    exact (List.append_nil _).symm

theorem request_notification (hc : c.Outstanding req)
    (ht : Told dec (before ++ reply :: after) w k n c) (hne : k ≠ before.length)
    (hk : k < whole Message.bytes (before ++ reply :: after) n) :
    (request dec req .fails [] c).2 = .error .serialization := by
  obtain ⟨m, rest, hm, hbuf, hrest⟩ := ht.pending.complete hk
  obtain ⟨x, hx⟩ := htalk.get_other hm hne
  have hhead : readHead c.input = .message HmsgType.notification.code m.payload rest := by
    rw [hbuf, readHead_bytes, type_change hx]
  have hcode : HmsgType.notification.code ≠ req.type.code := by
    cases req <;> exact fun h => nomatch h
  unfold request
  rw [doSomething_outstanding hc, receive_other hhead hcode]
  cases req <;> rfl

/-! ## All pieces -/

omit htalk in
/-- The application, through all pieces. -/
def arriveAll (dec : Decoders V N) (req : Request) (x : Exchange V N) (chunks : List Bytes) :
    Exchange V N :=
  chunks.foldl (arrive dec req) x

variable {r : Except ConnError (Option V)}

/-- What is behind the answer: one notification for each piece. -/
theorem Told.arriveAll (ht : Told dec (before ++ reply :: after) w k n c) (hk : before.length < k)
    (hne : ∀ chunk ∈ chunks, chunk ≠ [])
    (hchunks : (stream Message.bytes (before ++ reply :: after)).drop n = chunks.flatten) :
    ∃ c' k', arriveAll dec req (c, some r) chunks = (c', some r) ∧
      k' = served Message.bytes (before ++ reply :: after) k n chunks ∧ before.length < k' ∧
        Told dec (before ++ reply :: after) w k' (n + chunks.flatten.length) c' := by
  induction chunks generalizing c k n with
  | nil => exact ⟨c, k, rfl, rfl, hk, ht⟩
  | cons chunk chunks ih =>
    rw [List.flatten_cons] at hchunks
    have ht' := ht.recv (hne chunk List.mem_cons_self) hchunks fun m hm => htalk.get_other hm (by omega)
    have hle := ht.pending.le
    have hmono : whole Message.bytes (before ++ reply :: after) n ≤
        whole Message.bytes (before ++ reply :: after) (n + chunk.length) :=
      whole_mono _ (Nat.le_add_right _ _)
    have hrest : (stream Message.bytes (before ++ reply :: after)).drop (n + chunk.length) =
        chunks.flatten := by
      rw [← List.drop_drop, hchunks, List.drop_left]
    obtain ⟨c', k', hrun, hserved, hk', hc'⟩ :=
      ih ht' (by omega) (fun b hb => hne b (List.mem_cons_of_mem _ hb)) hrest
    refine ⟨c', k', hrun, hserved, hk', ?_⟩
    rw [List.flatten_cons, List.length_append, ← Nat.add_assoc]
    exact hc'

omit htalk in
theorem arriveAll_failed : (arriveAll dec req (c, some r) chunks).2 = some r := by
  induction chunks generalizing c with
  | nil => rfl
  | cons chunk chunks ih => exact ih

omit htalk in
theorem whole_of_drop {n : Nat} (h : (stream Message.bytes ms).drop n = []) :
    whole Message.bytes ms n = ms.length := by
  refine Nat.le_antisymm (whole_le_length ms n) ?_
  rw [← @whole_length _ Message.bytes ms]
  exact whole_mono ms (List.drop_eq_nil_iff.1 h)

/-- The application was told of everything once everything is consumed, and not
before: what is behind the answer is notifications. -/
theorem Told.watched_iff
    (ht : Told dec (before ++ reply :: after) w k n c) (hk : before.length < k) :
    c.watched = w ++ (before ++ reply :: after).filterMap (change dec) ↔
      (before ++ reply :: after).length ≤ k := by
  constructor
  · intro h
    refine Nat.le_of_not_lt fun hlt => ?_
    rw [ht.watched] at h
    have hsplit := congrArg (List.filterMap (change dec))
      (List.take_append_drop k (before ++ reply :: after))
    rw [← List.append_cancel_left h, List.filterMap_append] at hsplit
    have hnil := List.append_right_eq_self.1 hsplit
    rw [List.drop_eq_getElem_cons hlt] at hnil
    obtain ⟨x, hx⟩ := htalk.get_other (List.getElem?_eq_getElem hlt) (by omega)
    rw [List.filterMap_cons_some hx] at hnil
    cases hnil
  · intro h
    rw [ht.watched, List.take_of_length_le h]

/-- The outcome of an exchange, while the request waits for its answer. -/
theorem arriveAll_iff (hreq : req ≠ .watchCallback false) (hc : c.Outstanding req)
    (ht : Told dec (before ++ reply :: after) w k n c)
    (hk : k = whole Message.bytes (before ++ reply :: after) n) (ha : k ≤ before.length)
    (hne : ∀ chunk ∈ chunks, chunk ≠ [])
    (hchunks : (stream Message.bytes (before ++ reply :: after)).drop n = chunks.flatten) :
    ((arriveAll dec req (c, none) chunks).2 = some (.ok v) ∧
        (arriveAll dec req (c, none) chunks).1.watched =
          w ++ (before ++ reply :: after).filterMap (change dec)) ↔
      Paced (before ++ reply :: after) before.length n chunks := by
  induction chunks generalizing c k n with
  | nil =>
    have hall := whole_of_drop hchunks
    rw [List.length_append, List.length_cons] at hall
    omega
  | cons chunk chunks ih =>
    rw [List.flatten_cons] at hchunks
    have hchunk := hne chunk List.mem_cons_self
    have hne' : ∀ b ∈ chunks, b ≠ [] := fun b hb => hne b (List.mem_cons_of_mem _ hb)
    have hrest : (stream Message.bytes (before ++ reply :: after)).drop (n + chunk.length) =
        chunks.flatten := by
      rw [← List.drop_drop, hchunks, List.drop_left]
    -- `lldpctl_recv` consumes a notification, if one is next and complete
    obtain ⟨k1, ht1, hk1⟩ : ∃ k1, Told dec (before ++ reply :: after) w k1 (n + chunk.length)
        (lldpctlRecv dec chunk c) ∧ k1 = if k = before.length then k else
          min (k + 1) (whole Message.bytes (before ++ reply :: after) (n + chunk.length)) := by
      refine ⟨_, ?_, rfl⟩
      split
      · rename_i heq
        exact ht.recv_reply hchunk hchunks (heq ▸ get_reply) htalk.reply_type
      · rename_i heq
        exact ht.recv hchunk hchunks fun m hm => htalk.get_other hm heq
    have hc1 := hc.recv ht1.watchCb
    have hrun : arriveAll dec req (c, none) (chunk :: chunks) = arriveAll dec req
        ((request dec req .fails [] (lldpctlRecv dec chunk c)).1,
          finished (request dec req .fails [] (lldpctlRecv dec chunk c)).2) chunks := rfl
    rw [hrun, Paced]
    -- then the request finds nothing, the answer, or a notification
    by_cases hwait : k1 = whole Message.bytes (before ++ reply :: after) (n + chunk.length)
    · have hle : k1 ≤ before.length := by
        split at hk1 <;> omega
      rw [request_short hc1 ht1 hwait, if_pos (hwait ▸ hle)]
      refine (ih hc1 ht1 hwait hle hne' hrest).trans (and_iff_right ?_).symm
      split at hk1 <;> omega
    have hlt := Nat.lt_of_le_of_ne ht1.pending.le hwait
    by_cases hreply : k1 = before.length
    · subst hreply
      obtain ⟨c', hrequest, ht'⟩ := request_reply htalk hreq hc1 ht1 hlt
      obtain ⟨c'', k', hrun', hserved, hk', ht''⟩ :=
        Told.arriveAll htalk ht' (Nat.lt_succ_self _) hne' hrest
      have hfinished : finished (Except.ok v : Except ConnError (Option V)) = some (.ok v) := rfl
      rw [hrequest, if_neg (Nat.not_le.2 hlt), hfinished, hrun', ht''.watched_iff htalk hk', hserved]
      refine (and_iff_right rfl).trans (and_iff_right ?_).symm
      split at hk1 <;> omega
    · have hfails := request_notification htalk hc1 ht1 hreply hlt
      rw [hfails]
      have hfinished : finished (.error .serialization : Except ConnError (Option V)) =
          some (.error .serialization) := rfl
      rw [hfinished, arriveAll_failed]
      constructor
      · rintro ⟨h, -⟩
        cases h
      · intro h
        split at h <;> split at hk1 <;> omega

end

end

/-- **Notifications and the answer come apart** exactly when the pieces are
small enough: then the application is told of each notification once and in
order, and the request ends with the value of its answer. -/
theorem demultiplexed_iff {V N : Type} (dec : Decoders V N) (req : Request) (c : Conn N)
    (hc : c.Outstanding req) (hinput : c.input = []) (hreq : req ≠ .watchCallback false)
    (before : List Message) (reply : Message) (after : List Message) (v : Option V)
    (htalk : Talk dec req before reply after v) (chunks : List Bytes)
    (hne : ∀ chunk ∈ chunks, chunk ≠ [])
    (hchunks : chunks.flatten = stream Message.bytes (before ++ reply :: after)) :
    ((arriveAll dec req (c, none) chunks).2 = some (.ok v) ∧
        (arriveAll dec req (c, none) chunks).1.watched =
          c.watched ++ (before ++ reply :: after).filterMap (change dec)) ↔
      Paced (before ++ reply :: after) before.length 0 chunks := by
  have hstart : Told dec (before ++ reply :: after) c.watched 0 0 c := by
    refine ⟨?_, (List.append_nil _).symm, hc.watchCb⟩
    rw [hinput]
    exact Pending.zero _
  exact arriveAll_iff htalk hreq hc hstart (whole_zero Message.bytes_ne_nil _).symm (Nat.zero_le _)
    hne hchunks.symm

def asking : Conn Unit := { state := .getConfig, watchCb := true }

theorem length_padding : ([0, 0, 0, 0] : Bytes).length = 4 := rfl

theorem byte_fits : ([1] : Bytes).length ≤ HMSG_MAX_SIZE := by decide

def noteMessage : Message := ⟨.notification, ⟨[0, 0, 0, 0], length_padding⟩, [1], byte_fits⟩

def configMessage : Message := ⟨.getConfig, ⟨[0, 0, 0, 0], length_padding⟩, [1], byte_fits⟩

/-- A notification, the answer and a notification, in two pieces. -/
def noteConfigNote : List Bytes :=
  [noteMessage.bytes ++ configMessage.bytes ++ noteMessage.bytes.take 5, noteMessage.bytes.drop 5]

theorem demultiplexed_iff_one :
    (arriveAll blind .getConfiguration (asking, none) noteConfigNote).2 = some (.ok (some ())) ∧
      (arriveAll blind .getConfiguration (asking, none) noteConfigNote).1.watched = [(), ()] := by
  refine (demultiplexed_iff blind .getConfiguration asking ⟨rfl, .inl rfl, rfl, rfl⟩ rfl
    (fun h => nomatch h) [noteMessage] configMessage [noteMessage] (some ()) ⟨?_, rfl, rfl⟩
    noteConfigNote (by decide) rfl).2 ?_
  · intro m hm
    rcases List.mem_cons.1 hm with rfl | hm
    · exact ⟨(), rfl⟩
    · rw [List.mem_singleton.1 hm]
      exact ⟨(), rfl⟩
  · unfold noteConfigNote
    rw [Paced, if_neg (by decide)]
    decide

/-- Two notifications and the answer in one piece: the request fails, and the
application was told of one notification only. -/
theorem notification_lost :
    let x := arriveAll blind .getConfiguration (asking, none)
      [noteMessage.bytes ++ noteMessage.bytes ++ configMessage.bytes]
    x.2 = some (.error .serialization) ∧ x.1.watched = [()] ∧ x.1.input = configMessage.bytes :=
  ⟨rfl, rfl, rfl⟩

end Lldpd.Control
