import Lldpd.L4Control.Clients

/-!
# The requests of a client, in pieces

`levent_ctl_recv` handles one request and returns, and libevent calls it again
only when more data arrives. A request that came together with another one
waits in the buffer for the next piece, and if it was in the last piece it is
never answered (`second_request_waits`). All requests of a stream are handled,
each once and in order, exactly when there are enough pieces: whenever some have
arrived, there are no more requests still to be completed than pieces to come
(`requests_handled_iff`).
-/
namespace Lldpd.Control
open Core

section
variable {σ : Type} {svc : Service σ} {s : Server σ} {a : Nat}

/-- Events, one after the other; `none` when a client was misused. -/
def Server.run (svc : Service σ) (s : Server σ) (evs : List ServerEvent) : Option (Server σ) :=
  evs.foldlM (fun s ev => (s.step svc ev).bind Except.toOption) s

/-- The pieces of a stream arrive from a client. There is memory, and what the
daemon writes is written. -/
def arrivals (a : Nat) (chunks : List Bytes) : List ServerEvent :=
  chunks.map fun chunk => .data a chunk true {}

/-! ## What is to be done -/

/-- The daemon as one client sees it, without what was not read yet. -/
structure Session (σ : Type) where
  cfg : σ
  output : List Answer
  subscribed : Bool

def Session.answer (svc : Service σ) (x : Session σ) (m : Message) : Option (Session σ) :=
  (clientHandle svc x.cfg m.type m.payload).map fun r =>
    { cfg := r.1
      output := x.output ++ [r.2]
      subscribed := x.subscribed || m.type = .subscribe }

/-- Requests, each once and in order. -/
def Session.answers (svc : Service σ) (x : Session σ) (ms : List Message) : Option (Session σ) :=
  ms.foldlM (Session.answer svc) x

/-- The daemon has the client `a`, which has been answered as `x` says and has
`input` left. -/
def Server.Serves (s : Server σ) (a : Nat) (x : Session σ) (input : Bytes) : Prop :=
  s.cfg = x.cfg ∧
    s.lldpdClients.deref a = some { input := input, output := x.output, subscribed := x.subscribed }

theorem requestOf_code {t : HmsgType} (h : t ≠ .notification) : requestOf t.code = some t := by
  cases t with
  | notification => exact absurd rfl h
  | _ => rfl

variable {ms : List Message} {x y : Session σ}

section
variable (h : x.answers svc ms = some y)
include h

theorem type_of_answers : ∀ m ∈ ms, m.type ≠ .notification := by
  induction ms generalizing x with
  | nil => exact fun m hm => absurd hm List.not_mem_nil
  | cons m ms ih =>
    obtain ⟨x1, h1, h⟩ := Option.bind_eq_some_iff.1 h
    intro m' hm'
    rcases List.mem_cons.1 hm' with rfl | hm'
    · intro ht
      unfold Session.answer at h1
      rw [ht] at h1
      cases h1
    · exact ih h m' hm'

theorem length_output_answers : y.output.length = x.output.length + ms.length := by
  induction ms generalizing x with
  | nil =>
    cases h
    rfl
  | cons m ms ih =>
    obtain ⟨x1, h1, h⟩ := Option.bind_eq_some_iff.1 h
    obtain ⟨r, -, rfl⟩ := Option.map_eq_some_iff.1 h1
    rw [ih h, List.length_append, List.length_cons, List.length_cons, List.length_nil]
    omega

theorem answers_concat {z : Session σ} {m : Message} (hm : y.answer svc m = some z) :
    x.answers svc (ms ++ [m]) = some z := by
  unfold Session.answers at h ⊢
  rw [List.foldlM_append, h]
  show List.foldlM (Session.answer svc) y [m] = some z
  rw [List.foldlM_cons, hm]
  rfl

end

/-! ## One piece -/

section
variable {x : Session σ} {input : Bytes} (hs : s.Serves a x input)
include hs

/-- A piece arrives: the handler is called with it behind the input. -/
theorem Server.Serves.step (svc : Service σ) (chunk : Bytes) :
    s.step svc (.data a chunk true {}) = some (leventCtlRecv svc a true {} (s.arrived a chunk)) ∧
      (s.arrived a chunk).lldpdClients.deref a =
        some { input := input ++ chunk, output := x.output, subscribed := x.subscribed } := by
  have ha : a ∈ s.lldpdClients.addrs := by
    rw [← Heap.isSome_deref, hs.2]
    rfl
  exact ⟨if_pos ha, arrived_client.2 ⟨_, hs.2, rfl⟩⟩

/-- A piece arrives, and a request is complete. -/
theorem step_complete {chunk rest : Bytes} {m : Message} (hm : m.type ≠ .notification)
    (hinput : input ++ chunk = m.bytes ++ rest) :
    ∃ y s', x.answer svc m = some y ∧ s.step svc (.data a chunk true {}) = some (.ok s') ∧
      s'.Serves a y rest := by
  obtain ⟨hstep, hc⟩ := hs.step svc chunk
  have hr : (s.arrived a chunk).Requests a true
      { input := input ++ chunk, output := x.output, subscribed := x.subscribed }
      m.type.code m.payload rest m.type :=
    { client := hc
      head := by
        rw [hinput]
        exact readHead_bytes m rest
      memory := fun _ => rfl
      request := requestOf_code hm }
  obtain ⟨cfg, answer, hh⟩ := @exists_handle σ svc m.type.code m.type hr.request s.cfg m.payload
  have hanswer : x.answer svc m =
      some ⟨cfg, x.output ++ [answer], x.subscribed || m.type = .subscribe⟩ := by
    unfold Session.answer
    rw [← hs.1, hh]
    rfl
  have hwritten : ({} : Writes).written answer.2 = true := by
    unfold Writes.written
    rw [Bool.or_true]
    rfl
  have hrecv := (recv_request hr hh).trans (if_pos hwritten)
  refine ⟨_, _, hanswer, hstep.trans (congrArg some hrecv), cfg_handled, ?_⟩
  rw [client_setClient, client_handled, client_setClient, hr.client]
  rfl

/-- A piece arrives, and nothing is complete. -/
theorem step_short {chunk : Bytes} {n : Nat} (hinput : readHead (input ++ chunk) = .short n) :
    ∃ s', s.step svc (.data a chunk true {}) = some (.ok s') ∧ s'.Serves a x (input ++ chunk) := by
  obtain ⟨hstep, hc⟩ := hs.step svc chunk
  have hrecv : leventCtlRecv svc a true {} (s.arrived a chunk) = .ok (s.arrived a chunk) := by
    unfold leventCtlRecv Server.client
    rw [hc, Option.elim_some, ok_bind, hinput]
    rfl
  exact ⟨_, hstep.trans (congrArg some hrecv), hs.1, hc⟩

end

/-- The first `n` bytes of the requests have arrived, and `k` requests are
handled. -/
structure Server.Handling (svc : Service σ) (x : Session σ) (ms : List Message) (a k n : Nat)
    (s : Server σ) : Prop where
  serves : ∃ y input, x.answers svc (ms.take k) = some y ∧ s.Serves a y input ∧
    Pending Message.bytes ms k n input

variable {x : Session σ} {ms : List Message} {k n : Nat}

variable (hreq : ∀ m ∈ ms, m.type ≠ .notification)
include hreq

/-- One piece: at most one more request is handled. -/
theorem Server.Handling.step (hs : s.Handling svc x ms a k n) {chunk later : Bytes}
    (hchunk : (stream Message.bytes ms).drop n = chunk ++ later) :
    ∃ s', s.step svc (.data a chunk true {}) = some (.ok s') ∧
      s'.Handling svc x ms a (min (k + 1) (whole Message.bytes ms (n + chunk.length)))
        (n + chunk.length) := by
  obtain ⟨y, input, hy, hserves, hp⟩ := hs.serves
  have hp' := hp.append hchunk
  rcases Nat.lt_or_eq_of_le hp'.le with hk | hk
  · obtain ⟨m, rest, hm, hbuf, hrest⟩ := hp'.complete hk
    obtain ⟨z, s', hz, hstep, hserves'⟩ :=
      step_complete hserves (hreq m (List.mem_of_getElem? hm)) hbuf
    refine ⟨s', hstep, ⟨z, rest, ?_, hserves', ?_⟩⟩
    · rw [Nat.min_eq_left hk, List.take_add_one, hm]
      exact answers_concat hy hz
    · rw [Nat.min_eq_left hk]
      exact hrest
  · have hshort : ∃ missing, readHead (input ++ chunk) = .short missing := by
      rcases hp'.short hk with ⟨-, hnil⟩ | ⟨m, later, -, hm, hne⟩
      · rw [hnil]
        exact ⟨_, readHead_nil⟩
      · exact ⟨_, readHead_short m hm hne⟩
    obtain ⟨missing, hshort⟩ := hshort
    obtain ⟨s', hstep, hserves'⟩ := step_short hserves hshort
    have hmin : min (k + 1) (whole Message.bytes ms (n + chunk.length)) = k := by omega
    rw [hmin]
    exact ⟨s', hstep, ⟨y, _, hy, hserves', hp'⟩⟩

theorem Server.Handling.run {chunks : List Bytes} (hs : s.Handling svc x ms a k n)
    (hchunks : (stream Message.bytes ms).drop n = chunks.flatten) :
    ∃ s', s.run svc (arrivals a chunks) = some s' ∧
      s'.Handling svc x ms a (served Message.bytes ms k n chunks) (n + chunks.flatten.length) := by
  induction chunks generalizing s k n with
  | nil => exact ⟨s, rfl, hs⟩
  | cons chunk chunks ih =>
    rw [List.flatten_cons] at hchunks
    obtain ⟨s1, hstep, hs1⟩ := hs.step hreq hchunks
    have hrest : (stream Message.bytes ms).drop (n + chunk.length) = chunks.flatten := by
      rw [← List.drop_drop, hchunks, List.drop_left]
    obtain ⟨s', hrun, hs'⟩ := ih hs1 hrest
    refine ⟨s', ?_, ?_⟩
    · unfold Server.run arrivals at hrun ⊢
      rw [List.map_cons, List.foldlM_cons, hstep]
      exact hrun
    · rw [List.flatten_cons, List.length_append, ← Nat.add_assoc]
      exact hs'

end

/-- **All requests of a client are handled**, each once and in order, and each
is answered, exactly when they are requests and, whenever some pieces have
arrived, no more of them are still to be completed than pieces are to come. -/
theorem requests_handled_iff {σ : Type} (svc : Service σ) (s : Server σ) (a : Nat) (x : Session σ)
    (hs : s.Serves a x []) (ms : List Message) (chunks : List Bytes)
    (hchunks : chunks.flatten = stream Message.bytes ms) :
    (∃ y s', x.answers svc ms = some y ∧ s.run svc (arrivals a chunks) = some s' ∧
        s'.Serves a y []) ↔
      (∀ m ∈ ms, m.type ≠ .notification) ∧
        ∀ before after, chunks = before ++ after →
          ms.length ≤ whole Message.bytes ms before.flatten.length + after.length := by
  have hstart : s.Handling svc x ms a 0 0 := ⟨x, [], rfl, hs, Pending.zero ms⟩
  rw [← length_le_served_iff Message.bytes_ne_nil]
  constructor
  · rintro ⟨y, s', hy, hrun, hserves⟩
    have hreq := type_of_answers hy
    refine ⟨hreq, ?_⟩
    obtain ⟨s'', hrun', hs''⟩ := hstart.run hreq hchunks.symm
    cases hrun.symm.trans hrun'
    obtain ⟨z, input, hz, hserves', -⟩ := hs''.serves
    -- as many answers as requests, so all requests are handled
    have hout : y.output = z.output :=
      (Client.mk.inj (Option.some.inj (hserves.2.symm.trans hserves'.2))).2.1
    have hlen := length_output_answers hy
    rw [hout, length_output_answers hz, List.length_take] at hlen
    omega
  · rintro ⟨hreq, hserved⟩
    obtain ⟨s', hrun, hs'⟩ := hstart.run hreq hchunks.symm
    obtain ⟨y, input, hy, hserves, hp⟩ := hs'.serves
    rw [List.take_of_length_le hserved] at hy
    refine ⟨y, s', hy, hrun, ?_⟩
    have hinput : input = [] := by
      rw [hp.eq, List.take_of_length_le hserved, List.drop_eq_nil_iff, List.length_take]
      exact Nat.min_le_right _ _
    rw [← hinput]
    exact hserves

def noopMessage : Message := ⟨.none, ⟨[0, 0, 0, 0], rfl⟩, [], by decide⟩

def freshSession : Session Unit := ⟨(), [], false⟩

theorem requests_handled_iff_two :
    ∃ y s', freshSession.answers silent [noopMessage, noopMessage] = some y ∧
      oneClient.run silent (arrivals 0 [noop ++ noop.take 8, noop.drop 8]) = some s' ∧
        s'.Serves 0 y [] := by
  exact (requests_handled_iff silent oneClient 0 freshSession ⟨rfl, rfl⟩ _ _ rfl).2
    ⟨by decide, (length_le_served_iff Message.bytes_ne_nil).1 (by decide)⟩

/-- Two requests in one piece: the second waits for a piece that does not
come. -/
theorem second_request_waits :
    oneClient.run silent (arrivals 0 [noop ++ noop]) =
      some { oneClient with
        lldpdClients := [(0, { input := noop, output := [(.none, [])], subscribed := false })] } :=
  rfl

end Lldpd.Control
