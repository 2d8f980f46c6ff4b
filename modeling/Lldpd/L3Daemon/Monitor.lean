import Lldpd.Core.Datagrams
import Lldpd.Core.Format
import Lldpd.Core.Slices
import Lldpd.L3Daemon.Priv

/-!
# The privileged process (`priv.c`, `priv-linux.c`)

`priv_loop` reads a command from the unprivileged process, calls the handler of the
command and starts again. A handler reads its arguments with `must_read` into arrays
of its own or into memory it allocates for a length that it has read before. A
`must_read` that asks for more than the memory it fills, a write outside of it, and a
string without an end are faults here.

What the kernel and the libraries answer (`System`) is arbitrary, except that no
allocation of more than half of the address space succeeds.

A length of -1 makes a handler allocate no byte and ask for all bytes there are;
`asroot_snmp_socket` does not look at what `malloc` has answered (`NoRoom`). Nothing
else a process can write leads to a fault: `privLoop_inside_iff`.
-/
namespace Lldpd.Priv
open Core

inductive End where
  /-- `_exit(0)` -/
  | exit
  | fatal (token : String) (emsg : Option String)
  /-- it reads and there is nothing to read -/
  | waits
  deriving DecidableEq, Repr

/-- mirrors lldpd.h:245-256 -/
inductive Cmd where
  | ping
  | deleteCtlSocket
  | getHostname
  | openFile
  | ethtool
  | ifaceInit
  | ifaceMulticast
  | ifaceDescription
  | ifacePromisc
  | snmpSocket
  deriving DecidableEq, Repr

def Cmd.decode : Nat → Option Cmd
  | 0 => some .ping
  | 1 => some .deleteCtlSocket
  | 2 => some .getHostname
  | 3 => some .openFile
  | 4 => some .ethtool
  | 5 => some .ifaceInit
  | 6 => some .ifaceMulticast
  | 7 => some .ifaceDescription
  | 8 => some .ifacePromisc
  | 9 => some .snmpSocket
  | _ => none

inductive Op where
  | ctlCleanup (name : Bytes)
  | gethostbyname
  | openFile (file : Bytes)
  | ethtool (ifname : Bytes)
  | ifaceInit (ifindex : Int) (name : Bytes)
  | ifaceMulticast (name mac : Bytes) (add : Bool)
  | ifaceDescription (name description : Bytes)
  | ifacePromisc (name : Bytes)
  | connect (addr : Bytes)
  deriving DecidableEq, Repr

/-- What is sent back: the bytes of a `must_write`, or a descriptor. -/
inductive Answer where
  | bytes (bs : Bytes)
  | fd
  deriving DecidableEq, Repr

/-- What is answered to the privileged process. The first argument is the number of
allocations, or of operations, before. -/
structure System where
  malloc : Nat → Nat → Bool
  malloc_huge : ∀ k size, 0x8000000000000000 ≤ size → malloc k size = false
  /-- the name of the node -/
  uname : Nat → Option Bytes
  gethostbyname : Nat → Bytes → Option Bytes
  /-- a descriptor or -1 -/
  openFile : Nat → Bytes → Int
  /-- `rc` and the `struct ethtool_cmd` -/
  ethtool : Nat → Bytes → Int × Bytes
  /-- `rc` and the descriptor -/
  ifaceInit : Nat → Int → Bytes → Int × Int
  ifaceMulticast : Nat → Bytes → Bytes → Bool → Int
  ifaceDescription : Nat → Bytes → Bytes → Int
  ifacePromisc : Nat → Bytes → Int
  /-- whether there is a socket, connected and not blocking -/
  connect : Nat → Bytes → Bool

/-- `queue` is what the other process has written and what is not read yet. -/
structure Monitor where
  queue : List Bytes
  /-- the `static` address of `asroot_snmp_socket` -/
  addr : Option Bytes := none
  mallocs : Nat := 0
  performed : List Op := []
  answers : List Answer := []
  deriving DecidableEq, Repr

/-- The process before it has read anything. -/
def Monitor.start (input : List Bytes) : Monitor := { queue := input }

def ifnamsiz : Nat := 16

def sizeofSockaddrUn : Nat := 110

def afUnix : Nat := 1

/-- Memory of its own; what is in it does not matter. -/
def fresh (size : Nat) : Bytes := List.replicate size 0

namespace Monitor

/-! ## Reading and answering -/

/-- `must_read(PRIV_PRIVILEGED, buf, n)`.
mirrors privsep_io.c:195-215 -/
def mustRead (m : Monitor) (buf : Bytes) (n : Nat) : Run End (Bytes × Monitor) :=
  if n ≤ buf.length then
    match gather n m.queue with
    | .full bs rest => .ok (patch buf 0 bs, { m with queue := rest })
    | .cut => .error (.refused .exit)
    | .waits => .error (.refused .waits)
  else .error (.fault .overflow)

def mustReadInt (m : Monitor) : Run End (Int × Monitor) := do
  let (buf, m) ← m.mustRead (fresh 4) 4
  .ok (toInt32 (leNat buf), m)

def store (buf : Bytes) (i : Int) (v : UInt8) : Run End Bytes :=
  if 0 ≤ i ∧ i < buf.length then .ok (buf.set i.toNat v) else .error (.fault .overflow)

/-- A string at the start of an array, read up to its NUL. -/
def string (buf : Bytes) : Run End Bytes := (readStr buf).mapError .fault

def mustReadName (m : Monitor) : Run End (Bytes × Monitor) := do
  let (name, m) ← m.mustRead (fresh ifnamsiz) ifnamsiz
  let name ← store name (ifnamsiz - 1) 0
  .ok (name, m)

/-- A length, and a text of that length in memory that is allocated for it. `len + 1`
is an `int` that is converted to a `size_t`.
mirrors priv.c:201-206, priv-linux.c:90-94 -/
def mustReadText (sys : System) (token : String) (m : Monitor) : Run End (Bytes × Monitor) := do
  let (len, m) ← m.mustReadInt
  let size := toSize (toInt32 (len + 1))
  if sys.malloc m.mallocs size then
    let (buf, m) ← { m with mallocs := m.mallocs + 1 }.mustRead (fresh size) (toSize len)
    let buf ← store buf len 0
    .ok (buf, m)
  else .error (.refused (.fatal token none))

def perform (m : Monitor) (op : Op) : Monitor := { m with performed := m.performed ++ [op] }

def turn (m : Monitor) : Nat := m.performed.length

def mustWrite (m : Monitor) (bs : Bytes) : Monitor := { m with answers := m.answers ++ [.bytes bs] }

def mustWriteInt (m : Monitor) (rc : Int) : Monitor := m.mustWrite (leBytes 4 (rc % 0x100000000).toNat)

def sendFd (m : Monitor) : Monitor := { m with answers := m.answers ++ [.fd] }

/-! ## The handlers -/

/-- mirrors priv.c:187-192 -/
def asrootPing (m : Monitor) : Run End Monitor := .ok (m.mustWriteInt 1)

/-- mirrors priv.c:194-213 -/
def asrootCtlCleanup (sys : System) (m : Monitor) : Run End Monitor := do
  let (ctlname, m) ← m.mustReadText sys "ctlname"
  let ctlname ← string ctlname
  .ok ((m.perform (.ctlCleanup ctlname)).mustWriteInt 0)

/-- mirrors priv.c:215-236 -/
def asrootGethostbyname (sys : System) (m : Monitor) : Run End Monitor :=
  match sys.uname m.turn with
  | none => .error (.refused (.fatal "privsep" (some "failed to get system information")))
  | some nodename =>
    let name := cstr ((sys.gethostbyname m.turn nodename).getD nodename)
    .ok (((m.perform .gethostbyname).mustWriteInt name.length).mustWrite (name ++ [0]))

/-- mirrors priv-linux.c:67-123 -/
def asrootOpen (sys : System) (m : Monitor) : Run End Monitor := do
  let (file, m) ← m.mustReadText sys "privsep"
  let file ← string file
  match Priv.asrootOpen file with
  | .fatal => .error (.refused (.fatal "privsep" (some "unable to compile a regex")))
  | .refused => .ok (m.mustWriteInt (-1))
  | .opens file =>
    let fd := sys.openFile m.turn file
    let m := m.perform (.openFile file)
    if fd = -1 then .ok (m.mustWriteInt (-1)) else .ok (m.mustWriteInt fd).sendFd

/-- `strlcpy` cuts the name.
mirrors priv-linux.c:125-151 -/
def asrootEthtool (sys : System) (m : Monitor) : Run End Monitor := do
  let (ifname, m) ← m.mustReadText sys "privsep"
  let ifname ← string ifname
  let ifname := ifname.take (ifnamsiz - 1)
  let (rc, ethc) := sys.ethtool m.turn ifname
  let m := (m.perform (.ethtool ifname)).mustWriteInt rc
  if rc ≠ 0 then .ok m else .ok (m.mustWrite ethc)

/-- mirrors priv.c:238-253 -/
def asrootIfaceInit (sys : System) (m : Monitor) : Run End Monitor := do
  let (ifindex, m) ← m.mustReadInt
  let (name, m) ← m.mustReadName
  let name ← string name
  let (rc, fd) := sys.ifaceInit m.turn ifindex name
  let m := (m.perform (.ifaceInit ifindex name)).mustWriteInt rc
  if rc = 0 ∧ 0 ≤ fd then .ok m.sendFd else .ok m

/-- The name is handed to the kernel as it is, the address is read into the 14 bytes
of `sa_data`.
mirrors priv.c:255-292 -/
def asrootIfaceMulticast (sys : System) (m : Monitor) : Run End Monitor := do
  let (name, m) ← m.mustRead (fresh ifnamsiz) ifnamsiz
  let (saData, m) ← m.mustRead (fresh 14) 6
  let (add, m) ← m.mustReadInt
  let rc := sys.ifaceMulticast m.turn name (saData.take 6) (add != 0)
  .ok ((m.perform (.ifaceMulticast name (saData.take 6) (add != 0))).mustWriteInt rc)

/-- mirrors priv.c:294-312 -/
def asrootIfaceDescription (sys : System) (m : Monitor) : Run End Monitor := do
  let (name, m) ← m.mustReadName
  let (description, m) ← m.mustReadText sys "description"
  let name ← string name
  let description ← string description
  let rc := sys.ifaceDescription m.turn name description
  .ok ((m.perform (.ifaceDescription name description)).mustWriteInt rc)

/-- mirrors priv.c:314-323 -/
def asrootIfacePromisc (sys : System) (m : Monitor) : Run End Monitor := do
  let (name, m) ← m.mustReadName
  let name ← string name
  let rc := sys.ifacePromisc m.turn name
  .ok ((m.perform (.ifacePromisc name)).mustWriteInt rc)

/-- The address of the first request is kept. There is nothing behind the pointer if
`malloc` fails.
mirrors priv.c:332-338 -/
def readAddr (sys : System) (m : Monitor) : Run End (Bytes × Monitor) :=
  match m.addr with
  | none =>
    let addr := if sys.malloc m.mallocs sizeofSockaddrUn then fresh sizeofSockaddrUn else []
    { m with mallocs := m.mallocs + 1 }.mustRead addr sizeofSockaddrUn
  | some addr => do
    let (_, m) ← m.mustRead (fresh sizeofSockaddrUn) sizeofSockaddrUn
    .ok (addr, m)

/-- mirrors priv.c:325-373 -/
def asrootSnmpSocket (sys : System) (m : Monitor) : Run End Monitor := do
  let (addr, m) ← m.readAddr sys
  if leNat (addr.take 2) ≠ afUnix then
    .error (.refused (.fatal "privsep" (some "someone is trying to trick me")))
  else
    let addr ← store addr (sizeofSockaddrUn - 1) 0
    let connected := sys.connect m.turn addr
    let m := { m with addr := some addr }.perform (.connect addr)
    if connected then .ok (m.mustWriteInt 0).sendFd else .ok (m.mustWriteInt (-1))

/-- mirrors priv.c:380-394 -/
def action (sys : System) : Cmd → Monitor → Run End Monitor
  | .ping => asrootPing
  | .deleteCtlSocket => asrootCtlCleanup sys
  | .getHostname => asrootGethostbyname sys
  | .openFile => asrootOpen sys
  | .ethtool => asrootEthtool sys
  | .ifaceInit => asrootIfaceInit sys
  | .ifaceMulticast => asrootIfaceMulticast sys
  | .ifaceDescription => asrootIfaceDescription sys
  | .ifacePromisc => asrootIfacePromisc sys
  | .snmpSocket => asrootSnmpSocket sys

/-- One turn of the loop; `none` leaves it.
mirrors priv.c:410-420 -/
def serve (sys : System) (m : Monitor) : Run End (Option Monitor) :=
  match gather 4 m.queue with
  | .waits => .error (.refused .waits)
  | .cut => .ok none
  | .full bs rest =>
    match Cmd.decode (leNat bs) with
    | none => .error (.refused (.fatal "privsep" (some "bogus message received")))
    | some cmd => (action sys cmd { m with queue := rest }).map some

/-- mirrors priv.c:396-421 -/
def privLoop (sys : System) (once : Bool) : Nat → Monitor → Run End Monitor
  | 0, _ => .error (.fault .diverge)
  | fuel + 1, m => do
    match ← m.serve sys with
    | none => .ok m
    | some m => if once then .ok m else privLoop sys once fuel m

/-! ## What a request asks for -/

def lengthBehind (skip : Nat) (q : List Bytes) : Option Int :=
  match gather skip q with
  | .full _ rest =>
    match gather 4 rest with
    | .full bs _ => some (toInt32 (leNat bs))
    | _ => none
  | _ => none

end Monitor

def Cmd.lengthAt : Cmd → Option Nat
  | .deleteCtlSocket => some 0
  | .openFile => some 0
  | .ethtool => some 0
  | .ifaceDescription => some ifnamsiz
  | _ => none

namespace Monitor

/-- The request is for a text of -1 bytes, and there is memory of no byte, or it brings
the first address, and there is no memory for it. -/
def Overruns (sys : System) (cmd : Cmd) (m : Monitor) : Prop :=
  (∃ skip, cmd.lengthAt = some skip ∧ lengthBehind skip m.queue = some (-1) ∧
    sys.malloc m.mallocs 0 = true) ∨
  (cmd = .snmpSocket ∧ m.addr = none ∧ sys.malloc m.mallocs sizeofSockaddrUn = false)

def NoRoom (sys : System) (m : Monitor) : Prop :=
  ∃ bs rest cmd, gather 4 m.queue = .full bs rest ∧ Cmd.decode (leNat bs) = some cmd ∧
    Overruns sys cmd { m with queue := rest }

/-- `m'` is in front of a request of a run from `m` on. -/
inductive Served (sys : System) (once : Bool) (m : Monitor) : Monitor → Prop where
  | start : Served sys once m m
  | next {m' m'' : Monitor} : once = false → Served sys once m m' → m'.serve sys = .ok (some m'') →
      Served sys once m m''

/-! ## What the primitives do -/

/-- Nothing comes back to the queue, and the address is the same. -/
structure Later (m m' : Monitor) : Prop where
  queue : m'.queue.length ≤ m.queue.length
  addr : m'.addr = m.addr

theorem Later.trans {m m' m'' : Monitor} (h : Later m m') (h' : Later m' m'') : Later m m'' :=
  ⟨Nat.le_trans h'.queue h.queue, h'.addr.trans h.addr⟩

section Primitives
variable {m m' : Monitor} {buf buf' : Bytes} {n : Nat}

theorem mustRead_ensures (h : n ≤ buf.length) : Ensures (m.mustRead buf n) fun p =>
    ∃ bs rest, gather n m.queue = .full bs rest ∧ p = (patch buf 0 bs, { m with queue := rest }) := by
  unfold mustRead
  rw [if_pos h]
  cases gather n m.queue with
  | full bs rest => exact ensures_ok ⟨bs, rest, rfl, rfl⟩
  | cut => exact ensures_refused _
  | waits => exact ensures_refused _

variable {bs : Bytes} {rest : List Bytes}

theorem length_patch_gather (h : n ≤ buf.length)
    (hg : gather n m.queue = .full bs rest) : (patch buf 0 bs).length = buf.length := by
  apply patch_length
  rw [gather_length hg]
  omega

theorem later_of_gather (hg : gather n m.queue = .full bs rest) :
    Later m { m with queue := rest } := ⟨gather_le hg, rfl⟩

theorem patch_fresh {size : Nat} (h : bs.length = size) : patch (fresh size) 0 bs = bs := by
  unfold patch fresh
  have hle : (List.replicate size (0 : UInt8)).length ≤ 0 + bs.length := by
    rw [List.length_replicate]
    omega
  rw [List.take_zero, List.nil_append, List.drop_eq_nil_of_le hle, List.append_nil]

theorem length_fresh (size : Nat) : (fresh size).length = size := List.length_replicate

theorem mustRead_fresh_ensures : Ensures (m.mustRead (fresh n) n) fun p =>
    ∃ bs rest, gather n m.queue = .full bs rest ∧ p = (bs, { m with queue := rest }) := by
  have hread := mustRead_ensures (m := m) (Nat.le_of_eq (length_fresh n).symm)
  refine ⟨hread.1, ?_⟩
  intro p hp
  obtain ⟨bs, rest, hg, rfl⟩ := hread.2 p hp
  exact ⟨bs, rest, hg, by rw [patch_fresh (gather_length hg)]⟩

theorem mustReadInt_ensures : Ensures m.mustReadInt fun p =>
    ∃ bs rest, gather 4 m.queue = .full bs rest ∧
      p = (toInt32 (leNat bs), { m with queue := rest }) := by
  apply mustRead_fresh_ensures.bind
  rintro _ ⟨bs, rest, hg, rfl⟩
  exact ensures_ok ⟨bs, rest, hg, rfl⟩

theorem mustReadInt_eq (h : gather 4 m.queue = .full bs rest) :
    m.mustReadInt = .ok (toInt32 (leNat bs), { m with queue := rest }) := by
  unfold mustReadInt mustRead
  rw [if_pos (Nat.le_of_eq (length_fresh 4).symm), h]
  rw [ok_bind]
  rw [patch_fresh (gather_length h)]

theorem store_of_lt {i : Int} {v : UInt8} (h : 0 ≤ i) (h' : i < buf.length) :
    store buf i v = .ok (buf.set i.toNat v) := if_pos ⟨h, h'⟩

/-- A NUL stored in an array ends the string in it. -/
theorem zero_mem_store {i : Int} (h : store buf i 0 = .ok buf') : 0 ∈ buf' := by
  unfold store at h
  split at h
  · cases h
    exact List.mem_of_getElem? (List.getElem?_set_self (by omega))
  · cases h

theorem string_of_zero_mem (h : 0 ∈ buf) : string buf = .ok (cstr buf) := by
  unfold string
  rw [readStr_of_mem h]
  rfl

theorem mustReadName_eq (h : gather ifnamsiz m.queue = .full bs rest) :
    ∃ name, 0 ∈ name ∧ m.mustReadName = .ok (name, { m with queue := rest }) := by
  have hlast : ((ifnamsiz : Nat) : Int) - 1 < bs.length := by
    rw [gather_length h]
    decide
  have hstore : store bs (ifnamsiz - 1) 0 = .ok _ := store_of_lt (by decide) hlast
  refine ⟨_, zero_mem_store hstore, ?_⟩
  unfold mustReadName mustRead
  rw [if_pos (Nat.le_of_eq (length_fresh _).symm), h]
  dsimp only
  rw [ok_bind, patch_fresh (gather_length h), hstore]
  rfl

theorem mustReadName_ensures : Ensures m.mustReadName fun p =>
    0 ∈ p.1 ∧ ∃ bs rest, gather ifnamsiz m.queue = .full bs rest ∧ p.2 = { m with queue := rest } := by
  cases hg : gather ifnamsiz m.queue with
  | full bs rest =>
    obtain ⟨name, hend, heq⟩ := mustReadName_eq hg
    rw [heq]
    exact ensures_ok ⟨hend, bs, rest, rfl, rfl⟩
  | cut =>
    unfold mustReadName mustRead
    rw [hg]
    exact ensures_refused _
  | waits =>
    unfold mustReadName mustRead
    rw [hg]
    exact ensures_refused _

end Primitives

/-! ## A text with its length -/

/-- A size that is not refused is that of no byte or of a length from 0 on. -/
theorem size_cases {n : Int} {len : Int} (hlen : len = toInt32 n)
    (h : toSize (toInt32 (len + 1)) < 0x8000000000000000) :
    len = -1 ∨ 0 ≤ len ∧ toSize (toInt32 (len + 1)) = len.toNat + 1 ∧ toSize len = len.toNat := by
  unfold toInt32 at *
  unfold toSize at *
  omega

section Text
variable {sys : System} {token : String} {m m' : Monitor}

theorem mustReadText_ensures
    (h : ¬ (lengthBehind 0 m.queue = some (-1) ∧ sys.malloc m.mallocs 0 = true)) :
    Ensures (m.mustReadText sys token) fun p => 0 ∈ p.1 ∧ Later m p.2 := by
  apply mustReadInt_ensures.bind
  rintro _ ⟨bs, rest, hg, rfl⟩
  dsimp only
  generalize hlen : toInt32 (leNat bs) = len
  split
  · rename_i hroom
    have hsize : toSize (toInt32 (len + 1)) < 0x8000000000000000 := by
      apply Nat.lt_of_not_le
      intro hhuge
      rw [sys.malloc_huge _ _ hhuge] at hroom
      cases hroom
    rcases size_cases hlen.symm hsize with rfl | ⟨hpos, hroomy, hasked⟩
    · -- no byte is allocated for this length
      refine absurd ⟨?_, hroom⟩ h
      unfold lengthBehind
      simp [gather, hg, hlen]
    · rw [hroomy, hasked]
      have hfits : len.toNat ≤ (fresh (len.toNat + 1)).length := by
        rw [length_fresh]
        omega
      apply (mustRead_ensures hfits).bind
      rintro _ ⟨text, rest', hg', rfl⟩
      have hbuf := length_patch_gather hfits hg'
      rw [length_fresh] at hbuf
      have hlast : len < (patch (fresh (len.toNat + 1)) 0 text).length := by omega
      have hstore := store_of_lt (v := 0) hpos hlast
      rw [hstore]
      exact ensures_ok ⟨zero_mem_store hstore, Nat.le_trans (gather_le hg') (gather_le hg), rfl⟩
  · exact ensures_refused _

/-- A length of -1 asks for all bytes there are. -/
theorem mustReadText_fault (h : lengthBehind 0 m.queue = some (-1))
    (hroom : sys.malloc m.mallocs 0 = true) :
    m.mustReadText sys token = .error (.fault .overflow) := by
  unfold lengthBehind at h
  simp only [gather] at h
  cases hg : gather 4 m.queue with
  | full bs rest =>
    rw [hg] at h
    have hlen : toInt32 (leNat bs) = -1 := Option.some.inj h
    have hsize : toSize (toInt32 (-1 + 1)) = 0 := by decide
    unfold mustReadText
    rw [mustReadInt_eq hg, hlen, ok_bind]
    dsimp only
    rw [hsize, if_pos hroom]
    rfl
  | cut =>
    rw [hg] at h
    cases h
  | waits =>
    rw [hg] at h
    cases h

end Text

/-! ## What a handler does -/

def Sized (m : Monitor) : Prop := ∀ addr, m.addr = some addr → addr.length = sizeofSockaddrUn

section Handlers
variable {sys : System} {m m' : Monitor}

theorem string_ensures {buf : Bytes} (h : 0 ∈ buf) : Ensures (string buf) fun s => s = cstr buf := by
  rw [string_of_zero_mem h]
  exact ensures_ok rfl

section
variable (h : ¬ (lengthBehind 0 m.queue = some (-1) ∧ sys.malloc m.mallocs 0 = true))
include h

/-- A handler that starts with a text goes on with a string that has an end. -/
theorem text_bind {token : String} {g : Bytes × Monitor → Run End Monitor}
    (hg : ∀ buf m', 0 ∈ buf → Later m m' → Ensures (g (buf, m')) (Later m)) :
    Ensures (m.mustReadText sys token >>= g) (Later m) := by
  apply (mustReadText_ensures h).bind
  rintro ⟨buf, m'⟩ ⟨hend, hlater⟩
  exact hg buf m' hend hlater

omit h in
/-- What is done and what is answered is behind what is read. -/
theorem Later.answered {m'' : Monitor} (h : Later m m') (hqueue : m''.queue = m'.queue)
    (haddr : m''.addr = m'.addr) : Ensures (.ok m'' : Run End Monitor) (Later m) :=
  ensures_ok ⟨hqueue ▸ h.queue, haddr.trans h.addr⟩

theorem asrootCtlCleanup_ensures : Ensures (m.asrootCtlCleanup sys) (Later m) := by
  apply text_bind h
  intro buf m' hend hlater
  apply (string_ensures hend).bind
  intro ctlname _
  exact hlater.answered rfl rfl

theorem asrootOpen_ensures : Ensures (m.asrootOpen sys) (Later m) := by
  apply text_bind h
  intro buf m' hend hlater
  apply (string_ensures hend).bind
  intro file _
  cases Priv.asrootOpen file with
  | fatal => exact ensures_refused _
  | refused => exact hlater.answered rfl rfl
  | opens file =>
    dsimp only
    split
    · exact hlater.answered rfl rfl
    · exact hlater.answered rfl rfl

theorem asrootEthtool_ensures : Ensures (m.asrootEthtool sys) (Later m) := by
  apply text_bind h
  intro buf m' hend hlater
  apply (string_ensures hend).bind
  intro ifname _
  dsimp only
  split
  · exact hlater.answered rfl rfl
  · exact hlater.answered rfl rfl

end

theorem asrootGethostbyname_ensures : Ensures (m.asrootGethostbyname sys) (Later m) := by
  unfold asrootGethostbyname
  cases sys.uname m.turn with
  | none => exact ensures_refused _
  | some nodename => exact ensures_ok ⟨Nat.le_refl _, rfl⟩

theorem asrootIfaceInit_ensures : Ensures (m.asrootIfaceInit sys) (Later m) := by
  apply mustReadInt_ensures.bind
  rintro _ ⟨bs, rest, hindex, rfl⟩
  apply mustReadName_ensures.bind
  rintro ⟨name, m2⟩ ⟨hend, bs', rest', hname, rfl⟩
  have hlater := (later_of_gather hindex).trans (later_of_gather hname)
  apply (string_ensures hend).bind
  intro name _
  dsimp only
  split
  · exact hlater.answered rfl rfl
  · exact hlater.answered rfl rfl

theorem asrootIfaceMulticast_ensures : Ensures (m.asrootIfaceMulticast sys) (Later m) := by
  apply mustRead_fresh_ensures.bind
  rintro _ ⟨name, rest, hname, rfl⟩
  apply (mustRead_ensures (by rw [length_fresh]; decide)).bind
  rintro _ ⟨mac, rest', hmac, rfl⟩
  apply mustReadInt_ensures.bind
  rintro _ ⟨add, rest'', hadd, rfl⟩
  have hlater := ((later_of_gather hname).trans (later_of_gather hmac)).trans (later_of_gather hadd)
  exact hlater.answered rfl rfl

theorem asrootIfacePromisc_ensures : Ensures (m.asrootIfacePromisc sys) (Later m) := by
  apply mustReadName_ensures.bind
  rintro ⟨name, m1⟩ ⟨hend, bs, rest, hname, rfl⟩
  apply (string_ensures hend).bind
  intro name _
  exact (later_of_gather hname).answered rfl rfl

theorem lengthBehind_of_full {skip : Nat} {q rest : List Bytes} {bs : Bytes}
    (h : gather skip q = .full bs rest) : lengthBehind skip q = lengthBehind 0 rest := by
  unfold lengthBehind
  rw [h]
  simp [gather]

theorem asrootIfaceDescription_ensures
    (h : ¬ (lengthBehind ifnamsiz m.queue = some (-1) ∧ sys.malloc m.mallocs 0 = true)) :
    Ensures (m.asrootIfaceDescription sys) (Later m) := by
  apply mustReadName_ensures.bind
  rintro ⟨name, m1⟩ ⟨hname, bs, rest, hg, rfl⟩
  rw [lengthBehind_of_full hg] at h
  apply (mustReadText_ensures h).bind
  rintro ⟨description, m2⟩ ⟨hend, hlater⟩
  apply (string_ensures hname).bind
  intro name _
  apply (string_ensures hend).bind
  intro description _
  exact ((later_of_gather hg).trans hlater).answered rfl rfl

theorem readAddr_ensures (hsized : Sized m)
    (h : ¬ (m.addr = none ∧ sys.malloc m.mallocs sizeofSockaddrUn = false)) :
    Ensures (m.readAddr sys) fun p =>
      p.1.length = sizeofSockaddrUn ∧ p.2.queue.length ≤ m.queue.length := by
  unfold readAddr
  cases haddr : m.addr with
  | none =>
    have hroom : sys.malloc m.mallocs sizeofSockaddrUn = true := by
      cases hmalloc : sys.malloc m.mallocs sizeofSockaddrUn with
      | true => rfl
      | false => exact absurd ⟨haddr, hmalloc⟩ h
    rw [if_pos hroom]
    refine ⟨mustRead_fresh_ensures.1, ?_⟩
    intro p hp
    obtain ⟨bs, rest, hg, rfl⟩ := mustRead_fresh_ensures.2 p hp
    exact ⟨gather_length hg, gather_le hg⟩
  | some addr =>
    apply mustRead_fresh_ensures.bind
    rintro _ ⟨bogus, rest, hg, rfl⟩
    exact ensures_ok ⟨hsized addr haddr, gather_le hg⟩

/-- What is left of the queue, and that an address keeps its size. -/
structure Kept (m m' : Monitor) : Prop where
  queue : m'.queue.length ≤ m.queue.length
  sized : Sized m'

theorem asrootSnmpSocket_ensures (hsized : Sized m)
    (h : ¬ (m.addr = none ∧ sys.malloc m.mallocs sizeofSockaddrUn = false)) :
    Ensures (m.asrootSnmpSocket sys) (Kept m) := by
  apply (readAddr_ensures hsized h).bind
  rintro ⟨addr, m1⟩ ⟨hlen, hqueue⟩
  dsimp only at hlen hqueue ⊢
  split
  · exact ensures_refused _
  · have hlast : ((sizeofSockaddrUn : Nat) : Int) - 1 < addr.length := by
      rw [hlen]
      decide
    rw [store_of_lt (by decide) hlast, ok_bind]
    have hsized' : (addr.set ((sizeofSockaddrUn : Nat) - 1 : Int).toNat 0).length =
        sizeofSockaddrUn := by
      rw [List.length_set, hlen]
    split
    · exact ensures_ok ⟨hqueue, fun a ha => Option.some.inj ha ▸ hsized'⟩
    · exact ensures_ok ⟨hqueue, fun a ha => Option.some.inj ha ▸ hsized'⟩

variable {cmd : Cmd}

theorem not_and_of_not_overruns {skip : Nat} (hcmd : cmd.lengthAt = some skip)
    (h : ¬ Overruns sys cmd m) :
    ¬ (lengthBehind skip m.queue = some (-1) ∧ sys.malloc m.mallocs 0 = true) :=
  fun hbad => h (.inl ⟨skip, hcmd, hbad⟩)

theorem Later.kept (h : Ensures (m.action sys cmd) (Later m)) (hsized : Sized m) :
    Ensures (m.action sys cmd) (Kept m) := by
  refine ⟨h.1, ?_⟩
  intro m' hm'
  have hlater := h.2 m' hm'
  refine ⟨hlater.queue, ?_⟩
  intro addr haddr
  exact hsized addr (hlater.addr.symm.trans haddr)

theorem action_ensures (hsized : Sized m) (h : ¬ Overruns sys cmd m) :
    Ensures (m.action sys cmd) (Kept m) := by
  cases cmd with
  | ping => exact ensures_ok ⟨Nat.le_refl _, hsized⟩
  | deleteCtlSocket =>
    exact Later.kept (asrootCtlCleanup_ensures (not_and_of_not_overruns rfl h)) hsized
  | getHostname => exact Later.kept asrootGethostbyname_ensures hsized
  | openFile => exact Later.kept (asrootOpen_ensures (not_and_of_not_overruns rfl h)) hsized
  | ethtool => exact Later.kept (asrootEthtool_ensures (not_and_of_not_overruns rfl h)) hsized
  | ifaceInit => exact Later.kept asrootIfaceInit_ensures hsized
  | ifaceMulticast => exact Later.kept asrootIfaceMulticast_ensures hsized
  | ifaceDescription =>
    exact Later.kept (asrootIfaceDescription_ensures (not_and_of_not_overruns rfl h)) hsized
  | ifacePromisc => exact Later.kept asrootIfacePromisc_ensures hsized
  | snmpSocket => exact asrootSnmpSocket_ensures hsized fun hbad => h (.inr ⟨rfl, hbad⟩)

/-- A request without room for what it asks for. -/
theorem action_fault (h : Overruns sys cmd m) : m.action sys cmd = .error (.fault .overflow) := by
  rcases h with ⟨skip, hcmd, hlen, hroom⟩ | ⟨rfl, haddr, hroom⟩
  · cases cmd with
    | deleteCtlSocket =>
      cases hcmd
      simp [action, asrootCtlCleanup, mustReadText_fault hlen hroom]
    | openFile =>
      cases hcmd
      simp [action, asrootOpen, mustReadText_fault hlen hroom]
    | ethtool =>
      cases hcmd
      simp [action, asrootEthtool, mustReadText_fault hlen hroom]
    | ifaceDescription =>
      cases hcmd
      cases hg : gather ifnamsiz m.queue with
      | full bs rest =>
        rw [lengthBehind_of_full hg] at hlen
        obtain ⟨name, -, hname⟩ := mustReadName_eq hg
        simp only [action, asrootIfaceDescription, hname, ok_bind]
        rw [mustReadText_fault (by exact hlen) (by exact hroom), error_bind]
      | cut =>
        unfold lengthBehind at hlen
        rw [hg] at hlen
        cases hlen
      | waits =>
        unfold lengthBehind at hlen
        rw [hg] at hlen
        cases hlen
    | _ => cases hcmd
  · simp only [action, asrootSnmpSocket, readAddr, haddr, hroom]
    rfl

end Handlers

/-! ## A run of the loop -/

section Loop
variable {sys : System} {once : Bool} {m m' : Monitor}

theorem serve_ensures (hsized : Sized m) (h : ¬ NoRoom sys m) : Ensures (m.serve sys) fun next =>
    ∀ m', next = some m' → m'.queue.length < m.queue.length ∧ Sized m' := by
  unfold serve
  cases hg : gather 4 m.queue with
  | waits => exact ensures_refused _
  | cut => exact ensures_ok nofun
  | full bs rest =>
    dsimp only
    cases hcmd : Cmd.decode (leNat bs) with
    | none => exact ensures_refused _
    | some cmd =>
      have hact : Ensures (({ m with queue := rest } : Monitor).action sys cmd) (Kept _) :=
        action_ensures hsized fun hbad => h ⟨bs, rest, cmd, hg, hcmd, hbad⟩
      apply hact.map
      intro m1 hkept m' hm'
      cases hm'
      exact ⟨Nat.lt_of_le_of_lt hkept.queue (gather_shorter hg (by decide)), hkept.sized⟩

theorem serve_fault (h : NoRoom sys m) : m.serve sys = .error (.fault .overflow) := by
  obtain ⟨bs, rest, cmd, hg, hcmd, hbad⟩ := h
  unfold serve
  rw [hg]
  dsimp only
  rw [hcmd]
  dsimp only
  rw [action_fault hbad]
  rfl

/-- A run goes on from behind its first request. -/
theorem Served.of_serve {m'' : Monitor} (honce : once = false) (h : m.serve sys = .ok (some m'))
    (hserved : Served sys once m' m'') : Served sys once m m'' := by
  induction hserved with
  | start => exact .next honce .start h
  | next ho _ hs ih => exact .next ho ih hs

/-- A run is at its first request or behind it. -/
theorem Served.first (h : Served sys once m m') :
    m' = m ∨ ∃ m1, once = false ∧ m.serve sys = .ok (some m1) ∧ Served sys once m1 m' := by
  induction h with
  | start => exact .inl rfl
  | next ho _ hs ih =>
    rcases ih with rfl | ⟨m1, ho', hfirst, hserved⟩
    · exact .inr ⟨_, ho, hs, .start⟩
    · exact .inr ⟨m1, ho', hfirst, .next ho hserved hs⟩

theorem privLoop_safe {fuel : Nat} (hsized : Sized m) (hfuel : m.queue.length < fuel)
    (h : ∀ m', Served sys once m m' → ¬ NoRoom sys m') : Safe (m.privLoop sys once fuel) := by
  induction fuel generalizing m with
  | zero => omega
  | succ fuel ih =>
    have hone := serve_ensures hsized (h m .start)
    apply hone.1.bind
    intro next hserve
    cases next with
    | none => exact safe_ok _
    | some m1 =>
      obtain ⟨hshorter, hsized1⟩ := hone.2 _ hserve m1 rfl
      cases once with
      | true => exact safe_ok _
      | false =>
        apply ih hsized1 (by omega)
        intro m' hserved
        exact h m' (hserved.of_serve rfl hserve)

theorem noRoom_of_privLoop_safe {fuel : Nat} (h : Safe (m.privLoop sys once fuel))
    (hserved : Served sys once m m') : ¬ NoRoom sys m' := by
  intro hbad
  induction fuel generalizing m with
  | zero => exact h .diverge rfl
  | succ fuel ih =>
    unfold privLoop at h
    rcases hserved.first with rfl | ⟨m1, rfl, hserve, hserved⟩
    · rw [serve_fault hbad] at h
      exact h .overflow rfl
    · rw [hserve] at h
      exact ih h hserved

end Loop

end Monitor

/-- Whatever the other process writes: every `must_read` asks for no more than the memory
it fills, every index is inside of it, every string has an end and the loop ends, if and
only if no request that is served has a text of length -1 for which there is memory of no
byte, or brings the first address when there is no memory for it. -/
theorem privLoop_inside_iff (sys : System) (once : Bool) (input : List Bytes) :
    Safe ((Monitor.start input).privLoop sys once (input.length + 1)) ↔
      ∀ m, Monitor.Served sys once (.start input) m → ¬ Monitor.NoRoom sys m := by
  have hsized : (Monitor.start input).Sized := by
    intro addr haddr
    cases haddr
  constructor
  · intro h m hserved
    exact Monitor.noRoom_of_privLoop_safe h hserved
  · intro h
    exact Monitor.privLoop_safe hsized (Nat.lt_succ_self _) h

/-- A system where memory is there and nothing else works. -/
def bareSystem : System where
  malloc _ size := decide (size < 0x8000000000000000)
  malloc_huge _ _ h := decide_eq_false (Nat.not_lt.2 h)
  uname _ := none
  gethostbyname _ _ := none
  openFile _ _ := -1
  ethtool _ _ := (-1, [])
  ifaceInit _ _ _ := (-1, -1)
  ifaceMulticast _ _ _ _ := -1
  ifaceDescription _ _ _ := -1
  ifacePromisc _ _ := -1
  connect _ _ := false

/-- `PRIV_OPEN` with a path of -1 bytes: no byte is allocated, and all there are are
asked for. -/
theorem privLoop_overrun :
    (Monitor.start [leBytes 4 3, [0xff, 0xff, 0xff, 0xff]]).privLoop bareSystem false 3 =
      .error (.fault .overflow) := by
  decide

end Lldpd.Priv
