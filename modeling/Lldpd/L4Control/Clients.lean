import Lldpd.Core.Except
import Lldpd.L4Control.Server

/-!
# Who frees a client

`levent_ctl_send` frees a client that it cannot write to and returns -1, and
`client_handle_client` hands this -1 to `levent_ctl_recv`, which takes it for a
request without a handler and frees the client again
(`answer_frees_client_twice`). Everywhere else a client is freed once: the loop
of `levent_ctl_notify` has the next client before it sends, a request without a
handler sends nothing, and what libevent reports comes from a client that is
there. So a run misuses a client exactly when an answer cannot be written
(`clients_released_once`).
-/
namespace Lldpd.Control
open Core

section
variable {σ : Type} {svc : Service σ} {s s' : Server σ} {a : Nat}

def AnswerWritten (svc : Service σ) (s : Server σ) (ev : ServerEvent) : Prop :=
  match ev with
  | .data a chunk malloc w =>
    ∀ c type payload rest t cfg answer, s.lldpdClients.deref a = some c →
      readHead (c.input ++ chunk) = .message type payload rest → (payload ≠ [] → malloc = true) →
        requestOf type = some t → clientHandle svc s.cfg t payload = some (cfg, answer) →
          w.written answer.2 = true
  | _ => True

/-! ## The functions, on a client that is there -/

theorem client_of_mem (h : a ∈ s.lldpdClients.addrs) :
    ∃ c, s.lldpdClients.deref a = some c ∧ s.client a = .ok c := by
  obtain ⟨c, hc⟩ := Option.isSome_iff_exists.1 (Heap.isSome_deref.2 h)
  exact ⟨c, hc, by unfold Server.client; rw [hc]; rfl⟩

theorem client_of_not_mem (h : a ∉ s.lldpdClients.addrs) : s.client a = .error .freedClient := by
  unfold Server.client
  rw [Heap.deref_eq_none.2 h]
  rfl

def Server.without (s : Server σ) (a : Nat) : Server σ :=
  { s with lldpdClients := s.lldpdClients.filter fun e => e.1 ≠ a }

theorem not_mem_without : a ∉ (s.without a).lldpdClients.addrs := by
  intro h
  obtain ⟨c, hc⟩ := Heap.mem_addrs.1 h
  exact absurd rfl (of_decide_eq_true (List.mem_filter.1 hc).2)

theorem mem_without {a' : Nat} (h : a' ∈ s.lldpdClients.addrs) (hne : a' ≠ a) :
    a' ∈ (s.without a).lldpdClients.addrs := by
  obtain ⟨c, hc⟩ := Heap.mem_addrs.1 h
  exact Heap.mem_addrs.2 ⟨c, List.mem_filter.2 ⟨hc, decide_eq_true hne⟩⟩

theorem freeClient_ok (h : a ∈ s.lldpdClients.addrs) : leventCtlFreeClient a s = .ok (s.without a) := by
  obtain ⟨c, -, hc⟩ := client_of_mem h
  unfold leventCtlFreeClient
  rw [hc]
  rfl

theorem freeClient_error (h : a ∉ s.lldpdClients.addrs) :
    leventCtlFreeClient a s = .error .freedClient := by
  unfold leventCtlFreeClient
  rw [client_of_not_mem h]
  rfl

@[simp] theorem addrs_setClient (f : Client → Client) :
    (s.setClient a f).lldpdClients.addrs = s.lldpdClients.addrs := Heap.addrs_write

theorem client_setClient (f : Client → Client) :
    (s.setClient a f).lldpdClients.deref a = (s.lldpdClients.deref a).map f := by
  unfold Server.setClient
  rw [Heap.deref_write, if_pos rfl]

theorem send_ok (h : a ∈ s.lldpdClients.addrs) (w : Writes) (type : HmsgType) (data : Bytes) :
    leventCtlSend a w type data s = .ok (w.written data,
      if w.written data then s.setClient a fun c => { c with output := c.output ++ [(type, data)] }
      else s.without a) := by
  obtain ⟨c, -, hc⟩ := client_of_mem h
  unfold leventCtlSend
  rw [hc]
  cases hw : w.written data with
  | true =>
    simp only [if_true]
    rfl
  | false =>
    simp only [freeClient_ok h, Bool.false_eq_true, if_false]
    rfl

/-! ## Addresses -/

structure Server.Distinct (s : Server σ) : Prop where
  nodup : s.lldpdClients.addrs.Nodup
  lt : ∀ a ∈ s.lldpdClients.addrs, a < s.nextAddr

theorem Server.Distinct.without (hd : s.Distinct) (a : Nat) : (s.without a).Distinct where
  nodup := hd.nodup.sublist (Heap.addrs_filter_sublist _ _)
  lt a' h := hd.lt a' ((Heap.addrs_filter_sublist _ _).subset h)

theorem Server.Distinct.setClient (hd : s.Distinct) (a : Nat) (f : Client → Client) :
    (s.setClient a f).Distinct where
  nodup := by
    rw [addrs_setClient]
    exact hd.nodup
  lt a' h := by
    rw [addrs_setClient] at h
    exact hd.lt a' h

/-- The loop of `levent_ctl_notify`, over clients that are there. It visits each
of them once, and sending to one leaves the others. -/
theorem notifyLoop_ok (w : Nat → Writes) (output : Option Bytes) {as : List Nat}
    (hnodup : as.Nodup) (hmem : ∀ a ∈ as, a ∈ s.lldpdClients.addrs) (hd : s.Distinct) :
    ∃ s', notifyLoop w output as s = .ok s' ∧ s'.Distinct := by
  induction as generalizing s with
  | nil => exact ⟨s, rfl, hd⟩
  | cons a as ih =>
    rw [List.nodup_cons] at hnodup
    have ha := hmem a List.mem_cons_self
    have hrest : ∀ a' ∈ as, a' ∈ s.lldpdClients.addrs :=
      fun a' h => hmem a' (List.mem_cons_of_mem _ h)
    obtain ⟨c, -, hc⟩ := client_of_mem ha
    unfold notifyLoop
    rw [hc]
    show ∃ s', (if c.subscribed = true then _ else notifyLoop w output as s) = .ok s' ∧ s'.Distinct
    split
    · cases output with
      | none => exact ⟨s, rfl, hd⟩
      | some data =>
        dsimp only
        rw [send_ok ha]
        split
        · exact ih hnodup.2 (by simpa using hrest) (hd.setClient a _)
        · refine ih hnodup.2 (fun a' h => ?_) (hd.without a)
          exact mem_without (hrest a' h) fun heq => hnodup.1 (heq ▸ h)
    · exact ih hnodup.2 hrest hd

/-! ## A request -/

/-- The server once a request is handled, before the answer.
mirrors client.c:388-396, 411-414 -/
def Server.handled (s : Server σ) (a : Nat) (t : HmsgType) (cfg : σ) : Server σ :=
  let s := { s with cfg := cfg }
  if t = .subscribe then s.setClient a fun c => { c with subscribed := true } else s

variable {t : HmsgType} {type : Nat} {w : Writes} {cfg : σ}

theorem addrs_handled : (s.handled a t cfg).lldpdClients.addrs = s.lldpdClients.addrs := by
  unfold Server.handled
  split
  · rw [addrs_setClient]
  · rfl

theorem cfg_handled : (s.handled a t cfg).cfg = cfg := by
  unfold Server.handled
  split <;> rfl

theorem client_handled : (s.handled a t cfg).lldpdClients.deref a =
    (s.lldpdClients.deref a).map fun c =>
      { c with subscribed := c.subscribed || t = .subscribe } := by
  unfold Server.handled
  split
  · rename_i ht
    rw [client_setClient]
    simp [ht, decide_true]
  · rename_i ht
    simp only [ht, decide_false, Bool.or_false]
    exact Option.map_id'.symm

theorem Server.Distinct.handled (hd : s.Distinct) : (s.handled a t cfg).Distinct := by
  have hd' : Server.Distinct { s with cfg := cfg } := ⟨hd.nodup, hd.lt⟩
  unfold Server.handled
  split
  · exact hd'.setClient a _
  · exact hd'

theorem handleClient_none {input : Bytes} (h : requestOf type = none) :
    clientHandleClient svc a w type input s = .ok (false, s) := by
  unfold clientHandleClient
  rw [h]
  rfl

theorem handleClient_some {input : Bytes} {answer : Answer} (ht : requestOf type = some t)
    (hh : clientHandle svc s.cfg t input = some (cfg, answer)) :
    clientHandleClient svc a w type input s =
      leventCtlSend a w answer.1 answer.2 (s.handled a t cfg) := by
  unfold clientHandleClient
  rw [ht, Option.bind_some, hh]
  rfl

theorem exists_handle {type : Nat} {t : HmsgType} (ht : requestOf type = some t) (cfg : σ)
    (input : Bytes) : ∃ cfg' answer, clientHandle svc cfg t input = some (cfg', answer) := by
  have hmem := List.mem_of_find?_eq_some ht
  cases t with
  | notification => simp at hmem
  | _ => exact ⟨_, _, rfl⟩

/-- The header is read, the content is there, and nothing has gone wrong before
the request is handled. -/
structure Server.Requests (s : Server σ) (a : Nat) (malloc : Bool) (c : Client) (type : Nat)
    (payload rest : Bytes) (t : HmsgType) : Prop where
  client : s.lldpdClients.deref a = some c
  head : readHead c.input = .message type payload rest
  memory : payload ≠ [] → malloc = true
  request : requestOf type = some t

theorem requestOf_notification : requestOf HmsgType.notification.code = none := by decide

theorem recv_request {malloc : Bool} {c : Client} {payload rest : Bytes}
    (hr : s.Requests a malloc c type payload rest t) {answer : Answer}
    (hh : clientHandle svc s.cfg t payload = some (cfg, answer)) :
    leventCtlRecv svc a malloc w s =
      if w.written answer.2 then
        .ok (((s.setClient a fun c => { c with input := rest }).handled a t cfg).setClient a
          fun c => { c with output := c.output ++ [answer] })
      else .error .freedClient := by
  have ha : a ∈ s.lldpdClients.addrs := by
    rw [← Heap.isSome_deref, hr.client]
    rfl
  have hclient : s.client a = .ok c := by
    unfold Server.client
    rw [hr.client]
    rfl
  have hack : ¬ (payload = [] ∧ type = HmsgType.notification.code) := by
    rintro ⟨-, rfl⟩
    cases requestOf_notification.symm.trans hr.request
  have hmemory : ¬ (payload ≠ [] ∧ (!malloc) = true) := by
    rintro ⟨hne, hnot⟩
    rw [hr.memory hne] at hnot
    cases hnot
  have hlive : a ∈ ((s.setClient a fun c => { c with input := rest }).handled a t
      cfg).lldpdClients.addrs := by
    rw [addrs_handled, addrs_setClient]
    exact ha
  unfold leventCtlRecv
  rw [hclient, ok_bind, hr.head]
  dsimp only
  rw [if_neg hmemory, if_neg hack,
    handleClient_some (s := s.setClient a fun c => { c with input := rest }) hr.request hh,
    send_ok hlive]
  cases w.written answer.2 with
  | true => rfl
  | false =>
    show leventCtlFreeClient a (Server.without _ a) = _
    rw [freeClient_error not_mem_without]
    rfl

/-- `levent_ctl_recv` when it does not come to a request: it waits, or it frees
the client. -/
theorem recv_other (hd : s.Distinct) (ha : a ∈ s.lldpdClients.addrs) {malloc : Bool}
    (hr : ∀ c type payload rest t, ¬ s.Requests a malloc c type payload rest t) :
    ∃ s', leventCtlRecv svc a malloc w s = .ok s' ∧ s'.Distinct := by
  obtain ⟨c, hderef, hclient⟩ := client_of_mem ha
  have hfree : ∃ s', leventCtlFreeClient a s = .ok s' ∧ s'.Distinct :=
    ⟨_, freeClient_ok ha, hd.without a⟩
  unfold leventCtlRecv
  rw [hclient, ok_bind]
  cases hhead : readHead c.input with
  | short n => exact ⟨s, rfl, hd⟩
  | tooLarge => exact hfree
  | message type payload rest =>
    dsimp only
    split
    · exact hfree
    rename_i hmemory
    have hmemory : payload ≠ [] → malloc = true := by
      intro hne
      cases malloc with
      | true => rfl
      | false => exact absurd ⟨hne, rfl⟩ hmemory
    have hset := hd.setClient a fun c => { c with input := rest }
    split
    · exact ⟨_, rfl, hset⟩
    · have hnone : requestOf type = none := by
        cases hreq : requestOf type with
        | none => rfl
        | some t => exact absurd ⟨hderef, hhead, hmemory, hreq⟩ (hr c type payload rest t)
      rw [handleClient_none hnone]
      refine ⟨_, freeClient_ok ?_, hset.without a⟩
      rw [addrs_setClient]
      exact ha

/-! ## Events -/

/-- New data is in the buffer of the client. -/
def Server.arrived (s : Server σ) (a : Nat) (chunk : Bytes) : Server σ :=
  s.setClient a fun c => { c with input := c.input ++ chunk }

theorem arrived_client {chunk : Bytes} {c' : Client} :
    (s.arrived a chunk).lldpdClients.deref a = some c' ↔
      ∃ c, s.lldpdClients.deref a = some c ∧ { c with input := c.input ++ chunk } = c' := by
  unfold Server.arrived
  rw [client_setClient, Option.map_eq_some_iff]

/-- One event: it is taken without a misuse when an answer is written, and
clients keep their own addresses. -/
theorem step_cases (hd : s.Distinct) {ev : ServerEvent} {r : Except Misuse (Server σ)}
    (h : s.step svc ev = some r) :
    (AnswerWritten svc s ev ∧ ∃ s', r = .ok s' ∧ s'.Distinct) ∨
      (¬ AnswerWritten svc s ev ∧ r = .error .freedClient) := by
  cases ev with
  | accept calloc bev =>
    refine .inl ⟨trivial, ?_⟩
    obtain rfl := Option.some.inj h
    unfold leventCtlAccept
    have hnew : Server.Distinct { s with
        lldpdClients := s.lldpdClients ++ [(s.nextAddr, {})], nextAddr := s.nextAddr + 1 } := by
      have haddrs : Heap.addrs (s.lldpdClients ++ [(s.nextAddr, ({} : Client))]) =
          s.lldpdClients.addrs ++ [s.nextAddr] := Heap.addrs_append _ _
      constructor
      · rw [haddrs, List.nodup_append]
        refine ⟨hd.nodup, List.pairwise_singleton _ _, ?_⟩
        intro a' ha' b hb
        have := hd.lt a' ha'
        rw [List.mem_singleton.1 hb]
        omega
      · intro a' ha'
        rw [haddrs] at ha'
        rcases List.mem_append.1 ha' with ha' | ha'
        · exact Nat.lt_succ_of_lt (hd.lt a' ha')
        · rw [List.mem_singleton.1 ha']
          exact Nat.lt_succ_self _
    split
    · exact ⟨s, rfl, hd⟩
    · split
      · exact ⟨_, rfl, hnew⟩
      · refine ⟨_, freeClient_ok ?_, hnew.without _⟩
        exact Heap.mem_addrs.2 ⟨{}, List.mem_append_right _ List.mem_cons_self⟩
  | data a chunk malloc w =>
    unfold Server.step at h
    dsimp only at h
    split at h
    case isFalse => cases h
    rename_i ha
    obtain rfl := Option.some.inj h
    change (AnswerWritten svc s _ ∧ ∃ s', leventCtlRecv svc a malloc w (s.arrived a chunk) = .ok s' ∧
        s'.Distinct) ∨ (¬ AnswerWritten svc s _ ∧
        leventCtlRecv svc a malloc w (s.arrived a chunk) = .error .freedClient)
    have hd' : (s.arrived a chunk).Distinct := hd.setClient a _
    by_cases hex : ∃ c type payload rest t, (s.arrived a chunk).Requests a malloc c type payload rest t
    · obtain ⟨c, type, payload, rest, t, hr⟩ := hex
      obtain ⟨cfg, answer, hh⟩ := @exists_handle σ svc type t hr.request s.cfg payload
      rw [recv_request hr hh]
      cases hw : w.written answer.2 with
      | true =>
        refine .inl ⟨?_, _, rfl, ((hd'.setClient a _).handled).setClient a _⟩
        intro c0 type' payload' rest' t' cfg' answer' hc0 hhead _ hreq hh'
        obtain ⟨c1, hc1, rfl⟩ := arrived_client.1 hr.client
        cases hc1.symm.trans hc0
        cases hr.head.symm.trans hhead
        cases hr.request.symm.trans hreq
        cases hh.symm.trans hh'
        exact hw
      | false =>
        refine .inr ⟨fun hans => ?_, rfl⟩
        obtain ⟨c1, hc1, rfl⟩ := arrived_client.1 hr.client
        have hwritten := hans c1 type payload rest t cfg answer hc1 hr.head hr.memory hr.request hh
        rw [hw] at hwritten
        cases hwritten
    · have hnone : ∀ c type payload rest t,
          ¬ (s.arrived a chunk).Requests a malloc c type payload rest t :=
        fun c type payload rest t hr => hex ⟨c, type, payload, rest, t, hr⟩
      refine .inl ⟨?_, recv_other hd' ?_ hnone⟩
      · intro c type payload rest t cfg answer hc hhead hmemory hreq hh
        exact absurd ⟨arrived_client.2 ⟨c, hc, rfl⟩, hhead, hmemory, hreq⟩
          (hnone { c with input := c.input ++ chunk } type payload rest t)
      · unfold Server.arrived
        rw [addrs_setClient]
        exact ha
  | closed a =>
    unfold Server.step at h
    dsimp only at h
    split at h
    case isFalse => cases h
    rename_i ha
    obtain rfl := Option.some.inj h
    exact .inl ⟨trivial, _, freeClient_ok ha, hd.without a⟩
  | notify output w =>
    obtain rfl := Option.some.inj h
    exact .inl ⟨trivial, notifyLoop_ok w output hd.nodup (fun a h => h) hd⟩

theorem distinct_reachable (hs : (server svc).Reachable s) : s.Distinct := by
  induction hs with
  | init hi =>
    obtain ⟨cfg, rfl⟩ := hi
    exact ⟨List.nodup_nil, fun a h => absurd h List.not_mem_nil⟩
  | step _ hst ih =>
    rcases step_cases ih hst with ⟨-, s', hok, hd⟩ | ⟨-, herr⟩
    · cases hok
      exact hd
    · cases herr

end

/-- **No client is misused** as long as the answers to requests can be written:
in every run, an event is taken without using or freeing a client again after it
was freed exactly when it does not leave an answer unwritten. -/
theorem clients_released_once {σ : Type} (svc : Service σ) (s : Server σ)
    (hs : (server svc).Reachable s) (ev : ServerEvent) (r : Except Misuse (Server σ))
    (h : s.step svc ev = some r) :
    (∃ s', r = .ok s') ↔ AnswerWritten svc s ev := by
  rcases step_cases (distinct_reachable hs) h with ⟨hw, s', hok, -⟩ | ⟨hw, herr⟩
  · exact ⟨fun _ => hw, fun _ => ⟨s', hok⟩⟩
  · constructor
    · rintro ⟨s', hok⟩
      cases herr.symm.trans hok
    · exact fun h => absurd h hw

def silent : Service Unit where
  getConfiguration _ := []
  setConfiguration _ _ := ((), false)
  getInterfaces _ := []
  getInterface _ _ := []
  setPort _ _ := ((), false)

def oneClient : Server Unit := { cfg := (), lldpdClients := [(0, {})], nextAddr := 1 }

theorem oneClient_reachable : (server silent).Reachable oneClient :=
  .step (l := .accept true true) (.init ⟨(), rfl⟩) rfl

/-- The message of `lldpctl` that asks for nothing. -/
def noop : Bytes := List.replicate 16 0

theorem clients_released_once_noop :
    (∃ s', oneClient.step silent (.data 0 noop true {}) = some (.ok s')) := by
  obtain ⟨s', h⟩ := (clients_released_once silent oneClient oneClient_reachable (.data 0 noop true {})
    _ rfl).2 (by
      intro c type payload rest t cfg answer _ _ _ _ _
      cases answer.2 <;> rfl)
  exact ⟨s', congrArg some h⟩

/-- The answer to a request cannot be written: `levent_ctl_send` frees the
client, and then `levent_ctl_recv` does. -/
theorem answer_frees_client_twice :
    (server silent).Reachable oneClient ∧
      oneClient.step silent (.data 0 noop true { header := false }) =
        some (.error .freedClient) :=
  ⟨oneClient_reachable, rfl⟩

end Lldpd.Control
