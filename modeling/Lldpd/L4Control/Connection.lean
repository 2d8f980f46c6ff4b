import Lldpd.Core.LTS
import Lldpd.L4Control.Message

/-!
# A connection of the library (`lib/connection.c`, `lib/atom.c`, `ctl.c`)

A request is built in the output buffer, handed to the `send` callback and
answered in the input buffer. The state of the connection says how far it is, so
that an application whose callbacks would block can call the same function again
later. Everything that arrives goes through `lldpctl_recv`, which takes a
notification out of the input buffer and calls the application back.

What the callbacks return is part of a call. What the content of a message means
is left open (`Decoders`). `watched` and `answered` are history: no function
reads them.
-/
namespace Lldpd.Control
open Core

/-- `conn->state`. `CONN_STATE_GET_CONFIG_SEND` and `CONN_STATE_GET_CONFIG_RECV`
are the same number.
mirrors private.h:39-51 -/
inductive ConnState where
  | idle
  | getInterfacesSend | getInterfacesRecv
  | getPortSend | getPortRecv
  | setPortSend | setPortRecv
  | setWatchSend | setWatchRecv
  | getConfig
  | setConfigSend | setConfigRecv
  deriving DecidableEq, Repr

def ConnState.isRecv : ConnState → Bool
  | .getInterfacesRecv | .getPortRecv | .setPortRecv | .setWatchRecv | .getConfig
  | .setConfigRecv => true
  | _ => false

/-- `marshal_unserialize_` on the content of an answer and of a notification;
`none` when it fails. `known` is whether the kind of change is one of the
three the library passes on. -/
structure Decoders (V N : Type) where
  answer : HmsgType → Bytes → Option V
  notification : Bytes → Option N
  known : N → Bool

/-- `struct lldpctl_conn_t`.
mirrors private.h:24-65 -/
structure Conn (N : Type) where
  state : ConnState := .idle
  stateData : Option Bytes := none
  input : Bytes := []
  output : Bytes := []
  watchCb : Bool := false
  watchTriggered : Bool := false
  /-- What the application was called back with. -/
  watched : List N := []
  /-- Since the request was built, an answer was taken out of the input buffer,
  or thrown away with it. -/
  answered : Bool := false
  deriving DecidableEq, Repr

inductive ConnError where
  /-- Whatever the callback has returned. -/
  | callback
  | eof | serialization | invalidState
  deriving DecidableEq, Repr

/-- What the `send` callback returns: a failure, or how much it took. -/
inductive SendResult where
  | fails
  | sent (n : Nat)
  deriving DecidableEq, Repr

/-- What the `recv` callback returns: a failure, or what it has read. It has not
read more than it was asked for. -/
inductive RecvResult where
  | fails
  | data (bytes : Bytes)
  deriving DecidableEq, Repr

/-! ## Messages -/

/-- `ctl_msg_recv_unserialized`: so many bytes are missing, -1, or 0; with what
is left of the buffer. -/
inductive Received (V : Type) where
  | needs (n : Nat)
  | failed (rest : Bytes)
  | value (v : V) (rest : Bytes)
  deriving DecidableEq, Repr

/-- `if (t)`: the content, when something is wanted of it. An answer without
content will not do then.
mirrors ctl.c:232-243 -/
def unserialize {V : Type} (t : Option (Bytes → Option V)) (payload : Bytes) : Option (Option V) :=
  t.elim (some none) fun decode => if payload = [] then none else (decode payload).map some

/-- `ctl_msg_recv_unserialized`. A message of another type is thrown away,
unless a notification is looked for.
mirrors ctl.c:197-257 -/
def ctlMsgRecvUnserialized {V : Type} (expectedType : HmsgType) (t : Option (Bytes → Option V))
    (input : Bytes) : Received (Option V) :=
  match readHead input with
  | .short missing => .needs missing
  | .tooLarge => .failed []
  | .message type payload rest =>
    if type ≠ expectedType.code then
      if expectedType = .notification then .failed input else .failed rest
    else (unserialize t payload).elim (.failed rest) fun v => .value v rest

/-- `ctl_msg_send_unserialized`, once the content is serialized.
mirrors ctl.c:140-168 -/
def ctlMsgSend (type : HmsgType) (content output : Bytes) : Bytes :=
  output ++ (leBytes 4 type.code ++ [0, 0, 0, 0] ++ leBytes 8 content.length ++ content)

section
variable {V N : Type} (dec : Decoders V N)

/-- `check_for_notification`.
mirrors connection.c:182-233 -/
def checkForNotification (c : Conn N) : Conn N :=
  match ctlMsgRecvUnserialized .notification (some dec.notification) c.input with
  | .needs _ => c
  | .failed rest =>
    { c with input := rest, answered := c.answered || readHead c.input = .tooLarge }
  | .value change rest =>
    let c := { c with input := rest }
    match change.filter dec.known, c.watchCb with
    | some n, true => { c with watched := c.watched ++ [n], watchTriggered := true }
    | _, _ => c

/-- `lldpctl_recv`.
mirrors connection.c:235-263 -/
def lldpctlRecv (data : Bytes) (c : Conn N) : Conn N :=
  if data = [] then c else checkForNotification dec { c with input := c.input ++ data }

/-- `_lldpctl_needs`.
mirrors connection.c:157-180 -/
def lldpctlNeeds (length : Nat) (r : RecvResult) (c : Conn N) : Except ConnError (Conn N) :=
  match r with
  | .fails => .error .callback
  | .data bytes =>
    let data := bytes.take length
    if data = [] then .error .eof else .ok (lldpctlRecv dec data c)

/-- `lldpctl_send`; `false` when the callback fails.
mirrors connection.c:276-303 -/
def lldpctlSend (r : SendResult) (c : Conn N) : Conn N × Bool :=
  if c.output = [] then (c, true)
  else
    match r with
    | .fails => (c, false)
    | .sent n => ({ c with output := c.output.drop n }, true)

/-! ## Requests -/

/-- The functions of the library that ask the daemon for something.
`serialized` is what they send, `none` when it cannot be serialized, and
`canary` the string that tells two changes from each other.
mirrors atom.c:355-464, atom-private.c:461-471, 561-571, 889-901 -/
inductive Request where
  | watchCallback (cb : Bool)
  | getConfiguration
  | getInterfaces
  | getPort (name : Bytes) (serialized : Option Bytes)
  | setPort (canary : Bytes) (serialized : Option Bytes)
  | setConfig (canary : Bytes) (serialized : Option Bytes)
  deriving DecidableEq, Repr

namespace Request

def stateSend : Request → ConnState
  | watchCallback _ => .setWatchSend
  | getConfiguration => .getConfig
  | getInterfaces => .getInterfacesSend
  | getPort _ _ => .getPortSend
  | setPort _ _ => .setPortSend
  | setConfig _ _ => .setConfigSend

def stateRecv : Request → ConnState
  | watchCallback _ => .setWatchRecv
  | getConfiguration => .getConfig
  | getInterfaces => .getInterfacesRecv
  | getPort _ _ => .getPortRecv
  | setPort _ _ => .setPortRecv
  | setConfig _ _ => .setConfigRecv

def stateData : Request → Option Bytes
  | getPort name _ => some name
  | setPort canary _ | setConfig canary _ => some canary
  | _ => none

def type : Request → HmsgType
  | watchCallback _ => .subscribe
  | getConfiguration => .getConfig
  | getInterfaces => .getInterfaces
  | getPort _ _ => .getInterface
  | setPort _ _ => .setPort
  | setConfig _ _ => .setConfig

/-- The content to send: nothing, or a structure. -/
def content : Request → Option Bytes
  | getPort _ serialized | setPort _ serialized | setConfig _ serialized => serialized
  | _ => some []

def toRecv : Request → Option (Bytes → Option V)
  | getConfiguration => some (dec.answer .getConfig)
  | getInterfaces => some (dec.answer .getInterfaces)
  | getPort _ _ => some (dec.answer .getInterface)
  | _ => none

/-- `state_data == NULL || !strcmp(conn->state_data, state_data)`. The
connection has such data in the states of a request that has. -/
def Matches (req : Request) (c : Conn N) : Prop := req.stateData = none ∨ c.stateData = req.stateData

instance (req : Request) (c : Conn N) : Decidable (req.Matches c) := by
  unfold Matches
  infer_instance

end Request

/-- The loop of `_lldpctl_do_something`. When `recvs` is used up, the callback
would block.
mirrors atom.c:333-350 -/
def receive (req : Request) (recvs : List RecvResult) (c : Conn N) :
    Conn N × Except ConnError (Option V) :=
  match ctlMsgRecvUnserialized req.type (req.toRecv dec) c.input with
  | .failed rest => ({ c with input := rest, answered := true }, .error .serialization)
  | .value v rest =>
    ({ c with input := rest, answered := true, state := .idle, stateData := none }, .ok v)
  | .needs n =>
    match recvs with
    | [] => (c, .error .callback)
    | r :: recvs =>
      match lldpctlNeeds dec n r c with
      | .error e => (c, .error e)
      | .ok c => receive req recvs c

/-- The connection with the message of a request.
mirrors atom.c:318-323 -/
def built (req : Request) (content : Bytes) (c : Conn N) : Conn N :=
  { c with
    output := ctlMsgSend req.type content c.output
    state := req.stateSend
    stateData := req.stateData.or c.stateData
    answered := false }

/-- The message is built, when there is none under way; `none` when this fails.
mirrors atom.c:315-324 -/
def build (req : Request) (c : Conn N) : Option (Conn N) :=
  if c.state = .idle then req.content.map fun content => built req content c else some c

/-- The message is sent, if this is still to be done.
mirrors atom.c:325-332 -/
def transmit (req : Request) (r : SendResult) (c : Conn N) : Conn N × Bool :=
  if c.state = req.stateSend ∧ req.Matches c then
    let (c, sent) := lldpctlSend r c
    (if sent then { c with state := req.stateRecv } else c, sent)
  else (c, true)

/-- The message is built: it is sent, and the answer received.
mirrors atom.c:325-353 -/
def proceed (req : Request) (send : SendResult) (recvs : List RecvResult) (c : Conn N) :
    Conn N × Except ConnError (Option V) :=
  let (c, sent) := transmit req send c
  if !sent then (c, .error .callback)
  else if c.state = req.stateRecv ∧ req.Matches c then receive dec req recvs c
  else (c, .error .invalidState)

/-- `_lldpctl_do_something`.
mirrors atom.c:306-353 -/
def lldpctlDoSomething (req : Request) (send : SendResult) (recvs : List RecvResult) (c : Conn N) :
    Conn N × Except ConnError (Option V) :=
  (build req c).elim (c, .error .serialization) (proceed dec req send recvs)

/-- A request of the application. `lldpctl_watch_callback` notes the callback
when the daemon has agreed. -/
def request (req : Request) (send : SendResult) (recvs : List RecvResult) (c : Conn N) :
    Conn N × Except ConnError (Option V) :=
  let (c, r) := lldpctlDoSomething dec req send recvs c
  match req, r with
  | .watchCallback cb, .ok v => ({ c with watchCb := cb }, .ok v)
  | _, r => (c, r)

/-- `lldpctl_watch`: reads byte by byte until the application is called back.
mirrors atom.c:375-394 -/
def lldpctlWatch (recvs : List RecvResult) (c : Conn N) : Conn N :=
  if c.state ≠ .idle then c else loop recvs { c with watchTriggered := false }
where
  loop : List RecvResult → Conn N → Conn N
    | [], c => c
    | r :: recvs, c =>
      if c.watchTriggered then c
      else
        match lldpctlNeeds dec 1 r c with
        | .error _ => c
        | .ok c => loop recvs c

/-! ## The machine -/

inductive Call where
  | request (req : Request) (send : SendResult) (recvs : List RecvResult)
  /-- `lldpctl_send` -/
  | send (r : SendResult)
  /-- `lldpctl_recv` -/
  | recv (data : Bytes)
  /-- `lldpctl_process_conn_buffer` -/
  | process
  /-- `lldpctl_watch` -/
  | watch (recvs : List RecvResult)
  deriving DecidableEq, Repr

def Conn.call (c : Conn N) : Call → Conn N
  | .request req send recvs => (request dec req send recvs c).1
  | .send r => (lldpctlSend r c).1
  | .recv data => lldpctlRecv dec data c
  | .process => checkForNotification dec c
  | .watch recvs => lldpctlWatch dec recvs c

def connection : LTS (Conn N) Call := LTS.ofFn (fun c => c = {}) fun c call => some (c.call dec call)

end

end Lldpd.Control
