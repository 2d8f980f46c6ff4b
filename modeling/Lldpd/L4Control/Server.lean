import Lldpd.Core.Heap
import Lldpd.Core.LTS
import Lldpd.L4Control.Message

/-!
# The clients of the daemon (`event.c`, `client.c`)

libevent keeps the input and the output of a client and calls the daemon when
something has happened: `levent_ctl_accept` for a new connection,
`levent_ctl_recv` for new data, `levent_ctl_event` for the end. The daemon
itself calls `levent_ctl_notify` when a neighbor changes.

A client is an object on the heap that `lldpd_clients` is: the only way out of
the list is `free`. Its bufferevent is made and freed with it. To use a client
that is not on the list is a misuse (`Misuse`), and freeing it again is one.

Which allocations fail and which `bufferevent_write` is part of an event.
-/
namespace Lldpd.Control
open Core

/-! ## Requests -/

/-- What is behind the handlers. `[]` is an answer that could not be serialized,
`false` a request that was refused. -/
structure Service (σ : Type) where
  getConfiguration : σ → Bytes
  setConfiguration : σ → Bytes → σ × Bool
  getInterfaces : σ → Bytes
  getInterface : σ → Bytes → Bytes
  setPort : σ → Bytes → σ × Bool

abbrev Answer := HmsgType × Bytes

def replyWith (type : HmsgType) (output : Bytes) : Answer :=
  if output = [] then (.none, []) else (type, output)

def replyDone (type : HmsgType) (done : Bool) : Answer := if done then (type, []) else (.none, [])

section
variable {σ : Type}

/-- `client_handles[]`: what is left of the daemon, and the answer. Nothing
handles a notification.
mirrors client.c:20-396 -/
def clientHandle (svc : Service σ) (cfg : σ) (type : HmsgType) (input : Bytes) :
    Option (σ × Answer) :=
  match type with
  | .none => some (cfg, (.none, []))
  | .getConfig => some (cfg, replyWith .getConfig (svc.getConfiguration cfg))
  | .setConfig =>
    let (cfg, done) := svc.setConfiguration cfg input
    some (cfg, replyDone .setConfig done)
  | .getInterfaces => some (cfg, replyWith .getInterfaces (svc.getInterfaces cfg))
  | .getInterface => some (cfg, replyWith .getInterface (svc.getInterface cfg input))
  | .setPort =>
    let (cfg, done) := svc.setPort cfg input
    some (cfg, replyDone .setPort done)
  | .subscribe => some (cfg, (.subscribe, []))
  | .notification => none

/-! ## Clients -/

/-- `struct lldpd_one_client`, with the buffers of its bufferevent.
mirrors event.c:208-213 -/
structure Client where
  input : Bytes := []
  output : List Answer := []
  subscribed : Bool := false
  deriving DecidableEq, Repr

structure Server (σ : Type) where
  cfg : σ
  lldpdClients : Heap Client := []
  nextAddr : Nat := 0

inductive Misuse where
  | freedClient
  deriving DecidableEq, Repr

/-- Which of the two `bufferevent_write` of an answer succeed. -/
structure Writes where
  header : Bool := true
  data : Bool := true
  deriving DecidableEq, Repr

/-- The answer is written. Without content there is nothing to write behind the
header. -/
def Writes.written (w : Writes) (data : Bytes) : Bool := w.header && (data.isEmpty || w.data)

namespace Server

def client (s : Server σ) (a : Nat) : Except Misuse Client :=
  (s.lldpdClients.deref a).elim (.error .freedClient) .ok

def setClient (s : Server σ) (a : Nat) (f : Client → Client) : Server σ :=
  { s with lldpdClients := s.lldpdClients.write a f }

end Server

/-- `levent_ctl_free_client`: reads `client->bev`, and takes the client off the
list.
mirrors event.c:216-224 -/
def leventCtlFreeClient (a : Nat) (s : Server σ) : Except Misuse (Server σ) := do
  let _ ← s.client a
  return { s with lldpdClients := s.lldpdClients.filter fun e => e.1 ≠ a }

/-- `levent_ctl_send`; `false` is -1. A client that cannot be written to is
freed.
mirrors event.c:226-240 -/
def leventCtlSend (a : Nat) (w : Writes) (type : HmsgType) (data : Bytes) (s : Server σ) :
    Except Misuse (Bool × Server σ) := do
  let _ ← s.client a
  if w.written data then
    return (true, s.setClient a fun c => { c with output := c.output ++ [(type, data)] })
  else
    let s ← leventCtlFreeClient a s
    return (false, s)

/-- The loop of `levent_ctl_notify`. The address of the next client is read
before the client is sent anything, and a client that is sent something can
only be freed itself: the clients to visit are those of the start. `output` is
`none` when the neighbor cannot be serialized.
mirrors event.c:256-281 -/
def notifyLoop (w : Nat → Writes) (output : Option Bytes) :
    List Nat → Server σ → Except Misuse (Server σ)
  | [], s => .ok s
  | a :: rest, s => do
    let c ← s.client a
    if c.subscribed then
      match output with
      | none => return s
      | some data => do
        let (_, s) ← leventCtlSend a (w a) .notification data s
        notifyLoop w output rest s
    else notifyLoop w output rest s

/-- `levent_ctl_notify`.
mirrors event.c:242-284 -/
def leventCtlNotify (w : Nat → Writes) (output : Option Bytes) (s : Server σ) :
    Except Misuse (Server σ) :=
  notifyLoop w output s.lldpdClients.addrs s

/-- The type with a number, if `client_handles[]` has it. -/
def requestOf (type : Nat) : Option HmsgType :=
  [.none, .getConfig, .setConfig, .getInterfaces, .getInterface, .setPort, .subscribe].find?
    fun t => t.code = type

/-- `client_handle_client`; `false` is -1: the answer was not sent, or there is
no handler.
mirrors client.c:398-424 -/
def clientHandleClient (svc : Service σ) (a : Nat) (w : Writes) (type : Nat) (input : Bytes)
    (s : Server σ) : Except Misuse (Bool × Server σ) :=
  match (requestOf type).bind fun t => (clientHandle svc s.cfg t input).map (Prod.mk t) with
  | none => .ok (false, s)
  | some (t, cfg, answer) =>
    let s := { s with cfg := cfg }
    let s := if t = .subscribe then s.setClient a fun c => { c with subscribed := true } else s
    leventCtlSend a w answer.1 answer.2 s

/-- `levent_ctl_recv`, on the data that has arrived so far. `malloc` is whether
there is memory for the content.
mirrors event.c:293-337 -/
def leventCtlRecv (svc : Service σ) (a : Nat) (malloc : Bool) (w : Writes) (s : Server σ) :
    Except Misuse (Server σ) := do
  let c ← s.client a
  match readHead c.input with
  | .short _ => return s
  | .tooLarge => leventCtlFreeClient a s
  | .message type payload rest =>
    if payload ≠ [] ∧ !malloc then leventCtlFreeClient a s
    else
      let s := s.setClient a fun c => { c with input := rest }
      if payload = [] ∧ type = HmsgType.notification.code then return s
      else
        let (sent, s) ← clientHandleClient svc a w type payload s
        if sent then return s else leventCtlFreeClient a s

/-- `levent_ctl_accept`, behind `accept`. `calloc` and `bev` are whether there is
memory for the client and for its bufferevent.
mirrors event.c:353-391 -/
def leventCtlAccept (calloc bev : Bool) (s : Server σ) : Except Misuse (Server σ) :=
  if !calloc then .ok s
  else
    let a := s.nextAddr
    let s := { s with lldpdClients := s.lldpdClients ++ [(a, {})], nextAddr := a + 1 }
    if bev then .ok s else leventCtlFreeClient a s

/-! ## The machine -/

inductive ServerEvent where
  | accept (calloc bev : Bool)
  /-- New data from a client, and `levent_ctl_recv`. -/
  | data (a : Nat) (chunk : Bytes) (malloc : Bool) (w : Writes)
  /-- The connection is broken or closed: `levent_ctl_event`. -/
  | closed (a : Nat)
  | notify (output : Option Bytes) (w : Nat → Writes)

/-- One event. libevent calls for a client only as long as its bufferevent
exists: otherwise `none`. -/
def Server.step (svc : Service σ) (s : Server σ) : ServerEvent → Option (Except Misuse (Server σ))
  | .accept calloc bev => some (leventCtlAccept calloc bev s)
  | .data a chunk malloc w =>
    if a ∈ s.lldpdClients.addrs then
      some (leventCtlRecv svc a malloc w (s.setClient a fun c => { c with input := c.input ++ chunk }))
    else none
  | .closed a => if a ∈ s.lldpdClients.addrs then some (leventCtlFreeClient a s) else none
  | .notify output w => some (leventCtlNotify w output s)

/-- The control socket of a daemon. -/
def server (svc : Service σ) : LTS (Server σ) ServerEvent where
  init s := ∃ cfg, s = { cfg := cfg }
  step s ev s' := s.step svc ev = some (.ok s')

end

end Lldpd.Control
