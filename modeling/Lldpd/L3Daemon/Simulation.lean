import Lldpd.L2Proto.Lldp.Stack
import Lldpd.L3Daemon.Received

/-!
# The daemon keeps a neighbor table

`Daemon.table` is the table a state of the daemon stands for. Every event is
some steps of the table (`step_simulated`), and `Moves` says which ones, so
the runs of the daemon are runs of the table (`table_reachable`): what is
proved of tables step by step holds of the daemon in every run.
-/
namespace Lldpd
open Lldpd.Core Table

def announcements (b : Build) (cfg : Config) (protocols : List Protocol) : Announcements where
  heard frame c p := ∃ mode stack n, lldpdGuessType protocols frame = some mode ∧
    decodeMode b cfg stack mode frame = .ok (.neighbor c p, n)
  heard_protocol := fun ⟨mode, _, _, _, hdec⟩ => ⟨mode, decodeMode_protocol hdec⟩
  maxNeighbors := cfg.cMaxNeighbors

/-- The stack has no say in what a decoder reads from a frame. -/
theorem decodeMode_stack {b : Build} {cfg : Config} {stack stack' : Buffer 32} {mode : Mode}
    {frame : Bytes} {c c' : Chassis} {p p' : Port} {n n' : Nat}
    (h : decodeMode b cfg stack mode frame = .ok (.neighbor c p, n))
    (h' : decodeMode b cfg stack' mode frame = .ok (.neighbor c' p', n')) : c = c' ∧ p = p' := by
  cases mode with
  | lldp =>
    unfold decodeMode at h h'
    simp only at h h'
    split at h
    · rename_i d hd
      split at h'
      · rename_i d' hd'
        obtain ⟨buf, rfl⟩ := Lldp.lldpDecode_stack hd hd'
        cases h
        cases h'
        exact ⟨rfl, rfl⟩
      · cases h'
      · cases h'
    · cases h
    · cases h
  | _ =>
    cases h.symm.trans h'
    exact ⟨rfl, rfl⟩

theorem heard_unique {b : Build} {cfg : Config} {protocols : List Protocol} {frame : Bytes}
    {c c' : Chassis} {p p' : Port} (h : (announcements b cfg protocols).heard frame c p)
    (h' : (announcements b cfg protocols).heard frame c' p') : c = c' ∧ p = p' := by
  obtain ⟨mode, stack, n, hguess, hdec⟩ := h
  obtain ⟨mode', stack', n', hguess', hdec'⟩ := h'
  cases hguess.symm.trans hguess'
  exact decodeMode_stack hdec hdec'

/-! ## The table of a state -/

def Hardware.row (hw : Hardware) : Row := ⟨hw.hLport, ↑(hw.hRports.map Port.untimed)⟩

def rowsOf (hws : List Hardware) : Multiset Row := ↑(hws.map Hardware.row)

def Daemon.table (s : Daemon) : Table :=
  ⟨rowsOf (s.gHardware ++ s.detached), s.gChassis, s.nextAddr⟩

def Daemon.others (s : Daemon) (i : Nat) : List Hardware := s.gHardware.eraseIdx i ++ s.detached

/-- The neighbors other than the one that `c` and `p` announce on the
interface number `i`. -/
def Daemon.otherPorts (s : Daemon) (i : Nat) (hw : Hardware) (c : Chassis) (p : Port) :
    List Port :=
  kept s hw c p ++ (s.others i).flatMap Hardware.hRports

@[simp] theorem rowsOf_cons (hw : Hardware) (hws : List Hardware) :
    rowsOf (hw :: hws) = hw.row ::ₘ rowsOf hws := rfl

theorem rowsOf_append (hws hws' : List Hardware) : rowsOf (hws ++ hws') = rowsOf hws + rowsOf hws' := by
  unfold rowsOf
  rw [List.map_append, ← Multiset.coe_add]

theorem rowsOf_perm {hws hws' : List Hardware} (h : hws.Perm hws') : rowsOf hws = rowsOf hws' :=
  Multiset.coe_eq_coe.2 (h.map _)

theorem rowsOf_concat (hws : List Hardware) (hw : Hardware) :
    rowsOf (hws ++ [hw]) = hw.row ::ₘ rowsOf hws :=
  rowsOf_perm (List.perm_append_singleton hw hws)

theorem neighbors_rowsOf (hws : List Hardware) :
    neighbors (rowsOf hws) = ↑((hws.flatMap Hardware.hRports).map Port.untimed) := by
  induction hws with
  | nil => rfl
  | cons hw hws ih =>
    rw [rowsOf_cons, neighbors_cons, ih, List.flatMap_cons, List.map_append]
    rfl

variable {hw : Hardware} {i : Nat} {s : Daemon}

theorem rowsOf_getElem? (h : s.gHardware[i]? = some hw) :
    rowsOf (s.gHardware ++ s.detached) = hw.row ::ₘ rowsOf (s.others i) := by
  obtain ⟨hi, rfl⟩ := List.getElem?_eq_some_iff.1 h
  exact rowsOf_perm ((List.getElem_cons_eraseIdx_perm hi).symm.append_right _)

theorem rowsOf_set {hw' : Hardware} (h : s.gHardware[i]? = some hw) :
    rowsOf (s.gHardware.set i hw' ++ s.detached) = hw'.row ::ₘ rowsOf (s.others i) := by
  obtain ⟨hi, -⟩ := List.getElem?_eq_some_iff.1 h
  have hi' : i < (s.gHardware.set i hw').length := by rwa [List.length_set]
  have hp := (List.getElem_cons_eraseIdx_perm hi').symm.append_right s.detached
  rw [List.getElem_set_self, List.eraseIdx_set_eq] at hp
  exact rowsOf_perm hp

theorem rowsOf_detached (h : s.detached[i]? = some hw) :
    rowsOf (s.gHardware ++ s.detached) =
      hw.row ::ₘ rowsOf (s.gHardware ++ s.detached.eraseIdx i) := by
  obtain ⟨hi, rfl⟩ := List.getElem?_eq_some_iff.1 h
  rw [← rowsOf_cons]
  refine rowsOf_perm (((List.getElem_cons_eraseIdx_perm hi).symm.append_left _).trans ?_)
  exact List.perm_middle

/-! ## A frame -/

theorem addPort_row (b : Build) (cfg : Config) (known : Bool) (med : UInt8) (hw : Hardware)
    (p : Port) :
    (addPort b cfg known med hw p).row = ⟨hw.hLport, p.untimed ::ₘ ↑(hw.hRports.map Port.untimed)⟩ := by
  rw [addPort_eq, Hardware.row, List.map_append, ← Multiset.coe_add, Multiset.add_comm]
  rfl

/-- The port goes, its chassis is overwritten and it comes back: the count
is what it was. -/
theorem write_release_move_retain (h : Heap Chassis) (a : Addr) (c : Chassis) :
    ((h.write a .release).write a (lldpdMoveChassis c)).write a .retain =
      h.write a (lldpdMoveChassis c) := by
  rw [Heap.write_write, Heap.write_write]
  refine congrArg (h.write a) (funext fun oc => ?_)
  simp [lldpdMoveChassis, Chassis.release, Chassis.retain]

section Learn
variable {e : Announcements} {b : Build} {now : Int} {frame : Bytes} {c : Chassis} {p : Port}
  {s : Daemon} {hw : Hardware}

theorem room_of_not_full (hmax : e.maxNeighbors = s.gConfig.cMaxNeighbors) (h : ¬ Full s hw p) :
    e.Room ↑(hw.hRports.map Port.untimed) p := by
  intro h0
  rw [hmax] at h0 ⊢
  have hcount : Multiset.countP (fun q => q.pProtocol = p.pProtocol)
      (↑(hw.hRports.map Port.untimed) : Multiset Port) =
      hw.hRports.countP fun q => q.pProtocol = p.pProtocol := by
    rw [Multiset.coe_countP, List.countP_map]
    rfl
  have hle := not_lt.1 fun hlt => h ⟨h0, hlt⟩
  omega

theorem learn_step (hheard : e.heard frame c p) (hmax : e.maxNeighbors = s.gConfig.cMaxNeighbors)
    (hok : HasRoom s hw c p) (R : Multiset Row) :
    ∃ a, (learn b now frame c p s hw).1.hRports =
        kept s hw c p ++ [p.heardAt now frame a] ∧
      Step e ⟨hw.row ::ₘ R, s.gChassis, s.nextAddr⟩
        (.learn c a (↑((kept s hw c p).map Port.untimed) + neighbors R))
        ⟨(learn b now frame c p s hw).1.row ::ₘ R, (learn b now frame c p s hw).2.gChassis,
          (learn b now frame c p s hw).2.nextAddr⟩ := by
  refine ⟨(ochassis s hw c p).getD s.nextAddr, learn_hRports hok, ?_⟩
  have hrow : (learn b now frame c p s hw).1.row = ⟨hw.hLport, (p.heardAt now frame
      ((ochassis s hw c p).getD s.nextAddr)).untimed ::ₘ
        ↑((kept s hw c p).map Port.untimed)⟩ := by
    rw [learn_place hok, addPort_row]
  rw [hrow]
  cases hfind : oport s hw c p with
  | some q =>
    have hmsap := sameMsap_iff.1 (List.find?_some hfind)
    obtain ⟨oc, hoc, -⟩ := Option.map_eq_some_iff.1 hmsap
    obtain ⟨a, hq, -⟩ := Option.bind_eq_some_iff.1 hoc
    have ha : ochassis s hw c p = some a := by simp only [ochassis, hfind, hq]
    have hold : hw.row =
        ⟨hw.hLport, q.untimed ::ₘ ↑((kept s hw c p).map Port.untimed)⟩ := by
      exact congrArg (Row.mk hw.hLport) (Multiset.coe_eq_coe.2 ((perm_cons_eraseP hfind).map _))
    rw [learn_known_chassis ha hok, released, hfind, ha, hold]
    simp only [lldpdPortCleanup, hq, write_release_move_retain]
    exact .relearn (p := p) hheard hq hmsap
  | none =>
    have hnew : ∀ q ∈ (↑(hw.hRports.map Port.untimed) : Multiset Port),
        q.msap s.gChassis ≠ some (.of c p) := by
      intro _ hmem hm
      obtain ⟨q, hq, rfl⟩ := List.mem_map.1 (Multiset.mem_coe.1 hmem)
      exact List.find?_eq_none.1 hfind q hq (sameMsap_iff.2 hm)
    have hroom := room_of_not_full hmax (hok hfind)
    rw [kept_of_none hfind]
    cases hsearch : searchChassis s.gChassis c with
    | some a =>
      obtain ⟨oc, hmem, hkey⟩ := searchChassis_some hsearch
      have ha : ochassis s hw c p = some a := by simp only [ochassis, hfind, hsearch]
      rw [learn_known_chassis ha hok, released, hfind, ha]
      exact .share (p := p) hheard hnew hroom hmem hkey
    | none =>
      have ha : ochassis s hw c p = none := by simp only [ochassis, hfind, hsearch]
      rw [learn_newcomer ha hok, released, hfind, ha]
      exact .fresh (p := p) hheard hnew hroom (searchChassis_none hsearch)

end Learn

/-! ## VLANs -/

section Vlans
variable {e : Announcements} {G : Table → Label → Prop} {c : Chassis}

variable {h : Heap Chassis}

theorem isEdpPort_iff {c : Chassis} {q : Port} : isEdpPort h c q = true ↔
    q.pProtocol = some .edp ∧ ∃ oc, q.chassis h = some oc ∧ oc.cIdSubtype = c.cIdSubtype ∧
      oc.cId.getD [] = c.cId.getD [] := by
  unfold isEdpPort
  cases q.chassis h with
  | none => simp
  | some oc => simp

theorem addAddresses_nil (q : Port) : addAddresses [] h q = h := by
  unfold addAddresses
  cases q.pChassis with
  | none => rfl
  | some a =>
    have hid : ∀ oc : Chassis, { oc with cMgmt := oc.cMgmt ++ laterAddresses [] } = oc := by
      simp [laterAddresses]
    simp only [hid]
    refine (List.map_congr_left fun e _ => ?_).trans (List.map_id _)
    split <;> rfl

theorem attachVlans_eq_self {rest : List Port} {vlans : List Vlan} {mgmts : List Mgmt}
    {h : Heap Chassis} (hn : ∀ q ∈ rest, isEdpPort h c q = false) :
    attachVlans c rest vlans mgmts h = (rest, h) := by
  induction rest with
  | nil => rfl
  | cons q rest ih =>
    unfold attachVlans
    rw [if_neg (by simp [hn q List.mem_cons_self]), ih fun q hq => hn q (List.mem_cons_of_mem _ hq)]

/-- The first port of the sender gets the addresses, the others get none. -/
theorem attachVlans_chassis (ports : List Port) (vlans : List Vlan) (mgmts : List Mgmt) :
    (attachVlans c ports vlans mgmts h).2 =
      ((ports.find? (isEdpPort h c)).map (addAddresses mgmts h)).getD h := by
  induction ports generalizing vlans mgmts h with
  | nil => rfl
  | cons q ports ih =>
    unfold attachVlans
    cases hq : isEdpPort h c q with
    | true =>
      rw [List.find?_cons_of_pos hq, if_pos rfl]
      rw [ih]
      cases ports.find? (isEdpPort (addAddresses mgmts h q) c) with
      | none => rfl
      | some q' => exact addAddresses_nil q'
    | false =>
      rw [List.find?_cons_of_neg (by simp [hq])]
      exact ih _ _

/-- What the VLANs are no part of stays. -/
theorem map_attachVlans {β : Type} {k : Port → β} (hk : ∀ q vlans, k { q with pVlans := vlans } = k q)
    (c : Chassis) (rest : List Port) (vlans : List Vlan) (mgmts : List Mgmt) (h : Heap Chassis) :
    (attachVlans c rest vlans mgmts h).1.map k = rest.map k := by
  induction rest generalizing vlans mgmts h with
  | nil => rfl
  | cons q rest ih =>
    unfold attachVlans
    split
    · simp [ih, hk]
    · simp [ih]

theorem attachVlans_steps (hG : ∀ t, G t .note) (l : Port) (R : Multiset Row) (n : Addr)
    (rest : List Port) (vlans : List Vlan) (mgmts : List Mgmt) (h : Heap Chassis)
    (kept : Multiset Port) :
    ((machine e).guard G).Steps ⟨⟨l, kept + ↑(rest.map Port.untimed)⟩ ::ₘ R, h, n⟩
      ⟨⟨l, kept + ↑((attachVlans c rest vlans mgmts h).1.map Port.untimed)⟩ ::ₘ R,
        (attachVlans c rest vlans mgmts h).2, n⟩ := by
  induction rest generalizing vlans mgmts h kept with
  | nil => exact .refl _
  | cons q rest ih =>
    have hmove : ∀ (x : Port) (xs : List Port),
        kept + ↑((x :: xs).map Port.untimed) = (x.untimed ::ₘ kept) + ↑(xs.map Port.untimed) := by
      intro x xs
      rw [List.map_cons, ← Multiset.cons_coe, Multiset.add_cons, Multiset.cons_add]
    unfold attachVlans
    split
    · simp only [hmove]
      refine .head ⟨hG _, ?_⟩ (ih _ _ _ _)
      rw [Multiset.cons_add, Multiset.cons_add]
      exact .note
    · simp only [hmove]
      exact ih _ _ _ _

end Vlans

/-! ## Cleanups -/

section Cleanup
variable {e : Announcements} {G : Table → Label → Prop} {b : Build} {expire all : Bool} {now : Int}

/-- A turn of the loop frees the port or keeps it. -/
theorem remoteCleanupStep_cases (hw : Hardware) (h : Heap Chassis) (p : Port) :
    ∃ hw', hw'.hLport = hw.hLport ∧
      (remoteCleanupStep b expire all now (hw, h) p = (hw', lldpdPortCleanup h p) ∧
          hw'.hRports = hw.hRports ∨
        all = false ∧ remoteCleanupStep b expire all now (hw, h) p = (hw', h) ∧
          hw'.hRports = hw.hRports ++ [p]) := by
  cases hall : all with
  | true =>
    refine ⟨_, ?_, .inl ⟨rfl, ?_⟩⟩
    all_goals simp only [Bool.not_true, Bool.false_and, Bool.not_false, if_true]
    all_goals split <;> rfl
  | false =>
    cases haged : expire && expired now h p with
    | false =>
      refine ⟨_, ?_, .inr ⟨rfl, by simp [remoteCleanupStep, haged]; rfl, ?_⟩⟩
      all_goals rfl
    | true =>
      cases hb : b.ovsdb with
      | true =>
        refine ⟨_, ?_, .inl ⟨by simp [remoteCleanupStep, haged, hb]; rfl, ?_⟩⟩
        all_goals rfl
      | false =>
        refine ⟨_, ?_, .inl ⟨by simp [remoteCleanupStep, haged, hb]; rfl, ?_⟩⟩
        all_goals rfl

theorem foldl_remoteCleanupStep (hG : ∀ t, G t .forget) (R : Multiset Row) (n : Addr)
    (rest : List Port) (hw : Hardware) (h : Heap Chassis) :
    ((machine e).guard G).Steps
      ⟨⟨hw.hLport, ↑(hw.hRports.map Port.untimed) + ↑(rest.map Port.untimed)⟩ ::ₘ R, h, n⟩
      ⟨(rest.foldl (remoteCleanupStep b expire all now) (hw, h)).1.row ::ₘ R,
        (rest.foldl (remoteCleanupStep b expire all now) (hw, h)).2, n⟩ := by
  induction rest generalizing hw h with
  | nil => simpa using .refl _
  | cons p rest ih =>
    rw [List.foldl_cons]
    obtain ⟨hw', hl, ⟨hstep, hr⟩ | ⟨-, hstep, hr⟩⟩ :=
      @remoteCleanupStep_cases b expire all now hw h p
    · rw [hstep]
      refine .head ⟨hG _, ?_⟩ (ih hw' _)
      rw [hl, hr, List.map_cons, ← Multiset.cons_coe, Multiset.add_cons]
      exact .forget
    · rw [hstep]
      have hkeep := ih hw' h
      rw [hl, hr] at hkeep
      simpa using hkeep

theorem remoteCleanup_steps (b : Build) (expire all : Bool) (now : Int) (hG : ∀ t, G t .forget)
    (R : Multiset Row) (n : Addr) (hw : Hardware) (h : Heap Chassis) :
    ((machine e).guard G).Steps ⟨hw.row ::ₘ R, h, n⟩
      ⟨(lldpdRemoteCleanup b expire all now hw h).1.row ::ₘ R,
        (lldpdRemoteCleanup b expire all now hw h).2, n⟩ := by
  have hsteps := @foldl_remoteCleanupStep e G b expire all now hG R n hw.hRports
    { hw with hRports := [] } h
  rwa [List.map_nil] at hsteps

/-- With `all`, no neighbor stays. -/
theorem remoteCleanup_all (hw : Hardware) (h : Heap Chassis) :
    (lldpdRemoteCleanup b expire true now hw h).1.hRports = [] := by
  suffices ∀ (rest : List Port) (acc : Hardware × Heap Chassis), acc.1.hRports = [] →
      (rest.foldl (remoteCleanupStep b expire true now) acc).1.hRports = [] from this _ _ rfl
  intro rest
  induction rest with
  | nil => exact fun _ hacc => hacc
  | cons p rest ih =>
    intro acc hacc
    obtain ⟨hw', -, ⟨hstep, hr⟩ | ⟨hf, -⟩⟩ :=
      @remoteCleanupStep_cases b expire true now acc.1 acc.2 p
    · exact ih _ (by rw [hstep]; exact hr.trans hacc)
    · cases hf

theorem foldl_cleanupStep (hf : ∀ t, G t .forget) (hu : ∀ t, G t .unplug) (R : Multiset Row)
    (n : Addr) (rest kept : List Hardware) (h : Heap Chassis) :
    ((machine e).guard G).Steps ⟨rowsOf rest + (rowsOf kept + R), h, n⟩
      ⟨rowsOf (rest.foldl (cleanupStep b now) (kept, h)).1 + R,
        (rest.foldl (cleanupStep b now) (kept, h)).2, n⟩ := by
  induction rest generalizing kept h with
  | nil => simpa [rowsOf] using .refl _
  | cons hw rest ih =>
    rw [List.foldl_cons, rowsOf_cons, Multiset.cons_add]
    by_cases hflags : hw.hFlags = 0
    · have hstep : cleanupStep b now (kept, h) hw =
          (kept, lldpdHardwareCleanup (lldpdRemoteCleanup b true true now hw h).2
            (lldpdRemoteCleanup b true true now hw h).1) := if_pos hflags
      rw [hstep]
      refine (remoteCleanup_steps b true true now hf _ n hw h).trans (.head ⟨hu _, ?_⟩ (ih kept _))
      unfold Hardware.row
      rw [remoteCleanup_all]
      exact .unplug
    · have hstep : cleanupStep b now (kept, h) hw =
          (kept ++ [(lldpdRemoteCleanup b true false now hw h).1],
            (lldpdRemoteCleanup b true false now hw h).2) := if_neg hflags
      rw [hstep]
      refine (remoteCleanup_steps b true false now hf _ n hw h).trans ?_
      have hkeep := ih (kept ++ [(lldpdRemoteCleanup b true false now hw h).1])
        (lldpdRemoteCleanup b true false now hw h).2
      rwa [rowsOf_concat, Multiset.cons_add, Multiset.add_cons] at hkeep

end Cleanup

/-! ## An event -/

inductive Moves (b : Build) (s s' : Daemon) : Event → Table → Label → Prop where
  | plug {t} : Moves b s s' .allocHardware t .plug
  | unplug {i t} : Moves b s s' (.hardwareCleanup i) t .unplug
  | expire {i expire all now t} : Moves b s s' (.remoteCleanup i expire all now) t .forget
  | forget {now t} : Moves b s s' (.cleanup now) t .forget
  | remove {now t} : Moves b s s' (.cleanup now) t .unplug
  | collect {now t} (hrows : t.rows = s'.table.rows) : Moves b s s' (.cleanup now) t .collect
  | learn {i frame now stack hw mode c p n a} (hget : s.gHardware[i]? = some hw)
      (hguess : lldpdGuessType s.gProtocols (decapsulate frame) = some mode)
      (hdec : decodeMode b s.gConfig stack mode (decapsulate frame) = .ok (.neighbor c p, n)) :
      Moves b s s' (.decode i frame now stack) s.table
        (.learn c a
          ↑((s.otherPorts i hw c
            p).map Port.untimed))
  | note {i frame now stack hw mode c p n q t} (hget : s.gHardware[i]? = some hw)
      (hguess : lldpdGuessType s.gProtocols (decapsulate frame) = some mode)
      (hdec : decodeMode b s.gConfig stack mode (decapsulate frame) = .ok (.vlans c p, n))
      (hq : q ∈ hw.hRports) (hedp : isEdpPort s.gChassis c q = true) :
      Moves b s s' (.decode i frame now stack) t .note

theorem coe_otherPorts (s : Daemon) (i : Nat) (hw : Hardware) (c : Chassis) (p : Port) :
    (↑((kept s hw c p).map Port.untimed) +
        neighbors (rowsOf (s.others i)) : Multiset Port) =
      ↑((s.otherPorts i hw c p).map Port.untimed) := by
  rw [neighbors_rowsOf, Multiset.coe_add, ← List.map_append]
  rfl

section Simulation
variable {b : Build} {cfg : Config} {protocols : List Protocol} {s s' : Daemon}

/-- What the shortcut does not see of a port stays. -/
theorem map_refresh {β : Type} (b : Build) (now : Int) (cur : NbrOpcode) (frame : Bytes)
    (hw : Hardware) {k : Port → β} (hk : ∀ p, k { p with pLastupdate := now } = k p) :
    (refresh b now cur frame hw).hRports.map k = hw.hRports.map k := by
  unfold refresh
  induction hw.hRports with
  | nil => rfl
  | cons p l ih =>
    unfold modifyFirst
    split
    · rw [List.map_cons, List.map_cons, hk]
    · rw [List.map_cons, List.map_cons, ih]

theorem row_refresh (b : Build) (now : Int) (cur : NbrOpcode) (frame : Bytes) (hw : Hardware) :
    (refresh b now cur frame hw).row = hw.row := by
  unfold Hardware.row
  rw [map_refresh _ _ _ _ _ fun _ => rfl]
  rfl

variable {hw : Hardware} {r : Hardware × Daemon} {i : Nat}

/-- The state after an event on the interface `i` that gave `r`. -/
theorem table_set {h : Heap Chassis} {rid : Nat} {n : Addr} (hget : s.gHardware[i]? = some hw)
    (hr : r.2 = { s with gChassis := h, gLastrid := rid, nextAddr := n }) :
    Daemon.table { r.2 with gHardware := r.2.gHardware.set i r.1 } =
      ⟨r.1.row ::ₘ rowsOf (s.others i), r.2.gChassis, r.2.nextAddr⟩ := by
  rw [hr]
  exact congrArg (Table.mk · h n) (rowsOf_set hget)

theorem table_get (hget : s.gHardware[i]? = some hw) :
    s.table = ⟨hw.row ::ₘ rowsOf (s.others i), s.gChassis, s.nextAddr⟩ :=
  congrArg (Table.mk · s.gChassis s.nextAddr) (rowsOf_getElem? hget)

structure Daemon.Steady (cfg : Config) (protocols : List Protocol) (s : Daemon) : Prop where
  config : s.gConfig = cfg
  protocols : s.gProtocols = protocols
  detached : ∀ hw ∈ s.detached, hw.hRports = []

theorem decode_simulated (hs : s.Steady cfg protocols) {frame : Bytes} {now : Int}
    {stack : Buffer 32} (hget : s.gHardware[i]? = some hw)
    (h : lldpdDecode b now stack frame s hw = .ok r) :
    ((machine (announcements b cfg protocols)).guard
      (Moves b s s' (.decode i frame now stack))).Steps s.table
      (Daemon.table { r.2 with gHardware := r.2.gHardware.set i r.1 }) := by
  obtain ⟨heap, rid, n0, hframe⟩ := lldpdDecode_frame h
  rw [table_set hget hframe, table_get hget]
  obtain ⟨hw', s1⟩ := r
  have hrec : Received b now stack frame s hw hw' s1 := received h
  cases hrec with
  | short | ignored | refused => exact .refl _
  | duplicate hlong hdup =>
    rw [row_refresh]
    exact .refl _
  | @vlans cnt c p hlong hdup htells =>
    obtain ⟨mode, n, hguess, hdec⟩ := htells
    by_cases hq : ∃ q ∈ hw.hRports, isEdpPort s.gChassis c q = true
    · obtain ⟨q, hq, hedp⟩ := hq
      have hsteps := @attachVlans_steps (announcements b cfg protocols) _ c
        (fun t => @Moves.note b s s' i frame now stack hw mode c p n q t hget hguess hdec hq hedp)
        hw.hLport (rowsOf (s.others i)) s.nextAddr hw.hRports p.pVlans c.cMgmt s.gChassis 0
      rwa [zero_add] at hsteps
    · simp only [not_exists, not_and, Bool.not_eq_true] at hq
      rw [attachVlans_eq_self hq]
      exact .refl _
  | @learnt cnt mode c p ht =>
    obtain ⟨rfl, rfl, -⟩ := hs
    obtain ⟨-, hguess, n, hdec⟩ := ht.announces
    have hheard : (announcements b s.gConfig s.gProtocols).heard (decapsulate frame) c p :=
      ⟨mode, stack, n, hguess, hdec⟩
    obtain ⟨a, -, hstep⟩ := @learn_step _ b now _ _ _ s ((hw.reset b).unrecognized cnt) hheard rfl
      ht.room (rowsOf (s.others i))
    refine .single ⟨?_, hstep⟩
    rw [coe_otherPorts, ← table_get hget]
    exact @Moves.learn b s s' i frame now stack hw mode c p n a hget hguess hdec

theorem step_simulated (hs : s.Steady cfg protocols) {ev : Event} (h : s.step b ev = some s') :
    ((machine (announcements b cfg protocols)).guard (Moves b s s' ev)).Steps s.table s'.table := by
  cases Daemon.stepped h with
  | allocHardware hlocal =>
    obtain ⟨tl, htl⟩ := List.head?_eq_some_iff.1 hlocal
    unfold Daemon.table
    rw [← List.append_assoc, rowsOf_concat]
    refine .single ⟨.plug, .plug rfl ?_⟩
    rw [htl]
    exact List.mem_cons_self
  | @addHardware i hw hget =>
    have hrows : rowsOf (s.gHardware ++ [hw] ++ s.detached.eraseIdx i) =
        rowsOf (s.gHardware ++ s.detached) := by
      rw [rowsOf_detached hget, List.append_assoc]
      exact rowsOf_perm List.perm_middle
    unfold Daemon.table
    rw [hrows]
    exact .refl _
  | @hardwareCleanup i hw hget =>
    unfold Daemon.table
    rw [rowsOf_detached hget, Hardware.row, hs.detached hw (List.mem_of_getElem? hget)]
    exact .single ⟨.unplug, .unplug⟩
  | scan hget =>
    rw [table_get hget]
    unfold Daemon.table
    rw [rowsOf_set hget]
    exact .refl _
  | decode hget hdec => exact decode_simulated hs hget hdec
  | @remoteCleanup i expire all now hw hget =>
    rw [table_get hget]
    unfold Daemon.table
    rw [rowsOf_set hget]
    exact remoteCleanup_steps b expire all now (fun _ => .expire) _ _ hw s.gChassis
  | @cleanup now =>
    have hstart : s.table =
        ⟨rowsOf s.gHardware + (rowsOf [] + rowsOf s.detached), s.gChassis, s.nextAddr⟩ := by
      unfold Daemon.table
      rw [rowsOf_append, show rowsOf [] = 0 from rfl, zero_add]
    have hrows : (lldpdCleanup b now s).table.rows =
        rowsOf (s.gHardware.foldl (cleanupStep b now) ([], s.gChassis)).1 + rowsOf s.detached :=
      rowsOf_append ..
    rw [hstart]
    refine (foldl_cleanupStep (fun _ => .forget) (fun _ => .remove) _ _ _ [] _).trans
      (.single ⟨.collect hrows.symm, ?_⟩)
    rw [← hrows]
    exact .collect

/-- What is detached has been so before, or is fresh. -/
theorem step_detached {P : Hardware → Prop} (hfresh : ∀ lport, P { hLport := lport }) {ev : Event}
    (hstep : s.step b ev = some s') (h : ∀ hw ∈ s.detached, P hw) : ∀ hw ∈ s'.detached, P hw := by
  cases Daemon.stepped hstep with
  | allocHardware =>
    intro hw hmem
    rcases List.mem_append.1 hmem with hmem | hmem
    · exact h hw hmem
    · rw [List.mem_singleton.1 hmem]
      exact hfresh _
  | addHardware | hardwareCleanup => exact fun hw' hmem => h hw' (List.mem_of_mem_eraseIdx hmem)
  | @decode i frame now stack hw r hget hdec =>
    obtain ⟨_, _, _, hr⟩ := lldpdDecode_frame hdec
    rw [hr]
    exact h
  | scan | remoteCleanup | cleanup => exact h

theorem steady_inductive (b : Build) (cfg : Config) (protocols : List Protocol) :
    (daemon b cfg protocols).Inductive (Daemon.Steady cfg protocols) where
  init := by
    rintro s ⟨c, -, -, rfl⟩
    exact ⟨rfl, rfl, fun hw hmem => by cases hmem⟩
  step := by
    rintro s ev s' ⟨hc, hp, hd⟩ h
    suffices s'.gConfig = s.gConfig ∧ s'.gProtocols = s.gProtocols from
      ⟨this.1.trans hc, this.2.trans hp, step_detached (fun _ => rfl) h hd⟩
    cases Daemon.stepped h with
    | decode hget hdec =>
      obtain ⟨heap, rid, n, hr⟩ := lldpdDecode_frame hdec
      rw [hr]
      exact ⟨rfl, rfl⟩
    | _ => exact ⟨rfl, rfl⟩

theorem table_startUp (h : s.startUp cfg protocols) : Table.Init s.table := by
  obtain ⟨c, hr, hp, rfl⟩ := h
  exact ⟨c, hr, hp, rfl⟩

/-- The runs of the daemon are runs of the table, under any condition that
the steps of the table are known to meet. -/
theorem table_reachable {M : LTS Daemon Event} {G : Table → Label → Prop}
    (hinit : ∀ s, M.init s → (daemon b cfg protocols).init s)
    (hstep : ∀ s ev s', M.step s ev s' →
      (daemon b cfg protocols).step s ev s' ∧ ∀ t l, Moves b s s' ev t l → G t l)
    (hs : M.Reachable s) :
    s.Steady cfg protocols ∧
      ((machine (announcements b cfg protocols)).guard G).Reachable s.table := by
  induction hs with
  | init hi => exact ⟨(steady_inductive b cfg protocols).init _ (hinit _ hi),
      .init (table_startUp (hinit _ hi))⟩
  | step _ hst ih =>
    obtain ⟨hd, hG⟩ := hstep _ _ _ hst
    exact ⟨(steady_inductive b cfg protocols).step _ _ _ ih.1 hd,
      ih.2.steps ((step_simulated ih.1 hd).mono hG)⟩

/-- **The daemon refines the table**: a state of a run stands for a table that is reached,
and an event for steps of the table, as `Moves` has them. -/
theorem daemon_refines (hs : (daemon b cfg protocols).Reachable s) :
    (machine (announcements b cfg protocols)).Reachable s.table ∧
      ∀ ev s', s.step b ev = some s' → ((machine (announcements b cfg protocols)).guard
        (Moves b s s' ev)).Steps s.table s'.table := by
  obtain ⟨hsteady, hreach⟩ := table_reachable (G := fun _ _ => True) (fun _ hi => hi)
    (fun _ _ _ hst => ⟨hst, fun _ _ _ => trivial⟩) hs
  exact ⟨LTS.reachable_of_guard hreach, fun _ _ hst => step_simulated hsteady hst⟩

/-- An LLDP frame: chassis and port with locally assigned ids, and a lifetime. -/
def helloFrame (chassisId portId : Bytes) (ttl : UInt8) (optional : Bytes) : Bytes :=
  Lldp.lldpFrame [0x02, 0, 0, 0, 0, 0x01] ([0x02, UInt8.ofNat (chassisId.length + 1), 7] ++
    chassisId ++ [0x04, UInt8.ofNat (portId.length + 1), 7] ++ portId ++ [0x06, 2, 0, ttl] ++
    optional ++ [0, 0])

/-- Two minutes, and a name. -/
def announcement (chassisId portId name : Bytes) : Bytes :=
  helloFrame chassisId portId 120 ([0x0a, UInt8.ofNat name.length] ++ name)

abbrev hello : Bytes := announcement [1] [1] [65]

/-- The first interface hears it. -/
abbrev Event.greeting (now : Int) : Event := .decode 0 hello now Lldp.zeroStack

/-- Two frames from one chassis on one interface: two neighbors. -/
def twoNeighbors : List Event :=
  [.allocHardware, .addHardware 0,
    .greeting 0,
    .decode 0 (announcement [1] [2] [65]) 0 Lldp.zeroStack]

theorem daemon_refines_neighbors : ∃ s s',
    (Daemon.started {} lldpOnly).run .full (twoNeighbors ++ [.scan 0 1]) = some s ∧
      s.step .full (.cleanup 120) = some s' ∧
      s.gHardware.map (·.hRports.length) = [2] ∧ s'.gHardware.map (·.hRports.length) = [0] ∧
      (machine (announcements .full {} lldpOnly)).Reachable s.table ∧
      ((machine (announcements .full {} lldpOnly)).guard
        (Moves .full s s' (.cleanup 120))).Steps s.table s'.table := by
  obtain ⟨s, hs, s', hs', hlen, hlen'⟩ :
      ∃ s ∈ (Daemon.started {} lldpOnly).run .full (twoNeighbors ++ [.scan 0 1]),
        ∃ s' ∈ s.step .full (.cleanup 120),
          s.gHardware.map (·.hRports.length) = [2] ∧ s'.gHardware.map (·.hRports.length) = [0] := by
    decide
  obtain ⟨hreach, hsteps⟩ := daemon_refines (started_run_reachable hs)
  exact ⟨s, s', hs, hs', hlen, hlen', hreach, hsteps _ _ hs'⟩

end Simulation

end Lldpd
