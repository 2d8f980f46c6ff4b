import Lldpd.L4Ovsdb.Commit

/-!
# The row is a mirror

The Interface row of an interface should be empty exactly when the interface
has no neighbors, and otherwise describe one of them as it is. One note for
all neighbors of an interface cannot do that: when one of two expires the row
is cleared (`mirror_broken_by_expiry`).

`row_mirrors_neighbors`: after every run of `lldpd_run` whose transaction
succeeds the row of each interface is such a mirror, in every history in which

* no frame wipes a note out, and none brings VLANs for a neighbor learnt by
  EDP;
* a cleanup takes all neighbors of an interface away, or none;
* the chassis of the first neighbor of an interface is written to only by a frame
  on this interface or at the end of this neighbor, unless the row is to be
  written in full anyway: the row holds a copy, of its reference count too;
* a row that comes up is empty, and does not come up behind a neighbor;
* commits end in success or are to be tried again, and the run is not so late
  that a row ages out while the neighbor has not.
-/
namespace Lldpd.Ovsdb
open Core

def Described (h : Heap Chassis) (hw : Hardware) (row : IfRow) : Prop :=
  row.lldpNeighborInfo = hw.hRports.head?.map (lldpNbrUpdate h)

/-- The row is up to date but for the time of the first neighbor, or it will be
written in full. -/
def Outdated (h : Heap Chassis) (hw : Hardware) (row : IfRow) : Prop :=
  ∃ q, hw.hRports.head? = some q ∧
    (row.lldpNeighborInfo.bind NbrInfo.chassis = none ∨
      row.lldpNeighborInfo.map (fun info => { info with pLastupdate := q.pLastupdate }) =
        some (lldpNbrUpdate h q))

structure Mirrors (h : Heap Chassis) (hw : Hardware) (row : IfRow) : Prop where
  noop : hw.hRportChangeOpcode = .noop → Described h hw row
  upd : hw.hRportChangeOpcode = .upd → Outdated h hw row

/-- The note fits the ports. -/
structure Tidy (hw : Hardware) : Prop where
  grounded : Grounded hw
  none : hw.hRportChangeOpcode = .del → hw.hRports = []

/-! ## Orderly events -/

def AllOrNone (gone : Port → Bool) (ports : List Port) : Prop :=
  (∀ q ∈ ports, gone q = true) ∨ ∀ q ∈ ports, gone q = false

/-- What an event does to the note and the ports of an interface fits the
row. -/
def Calm (b : Build) (s : Daemon) : Event → Prop
  | .decode i frame _ stack => ∀ hw, s.gHardware[i]? = some hw →
      (hw.hRportChangeOpcode ≠ .noop → Noted b s hw stack frame) ∧
        ∀ c p, TellsVlans b s stack frame c p →
          ∀ q ∈ hw.hRports, isEdpPort s.gChassis c q = false
  | .remoteCleanup i expire all now => ∀ hw, s.gHardware[i]? = some hw →
      AllOrNone (goes expire all now s.gChassis) hw.hRports
  | .cleanup now => ∀ hw ∈ s.gHardware, AllOrNone (goes true false now s.gChassis) hw.hRports
  | _ => True

/-- The event is about the neighbor `q` on the interface number `i`. -/
def Touches (s : Daemon) (i : Nat) (hw : Hardware) (q : Port) : Event → Prop
  | .decode j _ _ _ => j = i
  | .remoteCleanup j expire all now => j = i ∧ goes expire all now s.gChassis q = true
  | .cleanup now => hw.hFlags = 0 ∨ goes true false now s.gChassis q = true
  | _ => False

/-- The event writes to the chassis at `a`: a port is attached to it or taken away from it,
or it is collected. -/
def Rewrites (b : Build) (s : Daemon) (a : Addr) : Event → Prop
  | .allocHardware => ∃ c, s.localChassis = some (a, c)
  | .hardwareCleanup i => ∃ hw, s.detached[i]? = some hw ∧ hw.hLport.pChassis = some a
  | .decode i frame _ stack => ∃ hw mode c p, s.gHardware[i]? = some hw ∧
      Takes b s hw stack frame mode c p ∧
      (ochassis s hw c p).getD s.nextAddr = a
  | .remoteCleanup i expire all now => ∃ hw, s.gHardware[i]? = some hw ∧
      ∃ q ∈ hw.hRports, goes expire all now s.gChassis q = true ∧ q.pChassis = some a
  | .cleanup now =>
    (∃ q ∈ s.gHardware.flatMap (swept now s.gChassis), q.pChassis = some a) ∨
      ∃ c, s.gChassis.deref a = some c ∧ c.cRefcount = 0
  | _ => False

/-- No event writes to the chassis of a first neighbor that it is not about, unless the row
is to be written in full. -/
def LeavesHeads (b : Build) (s : Daemon) (ev : Event) : Prop :=
  ∀ i hw q a, s.gHardware[i]? = some hw → hw.hRports.head? = some q → q.pChassis = some a →
    hw.hRportChangeOpcode = .noop ∨ hw.hRportChangeOpcode = .upd → ¬ Touches s i hw q ev →
    ¬ Rewrites b s a ev

/-- No row ages out while its neighbor has not. -/
def Ovs.InTime (o : Ovs) (now : Int) : Prop :=
  ∀ hw ∈ o.daemon.gHardware, ∀ q c, hw.hRports.head? = some q →
    q.chassis o.daemon.gChassis = some c → now ≤ q.pLastupdate + c.cTtl.toNat + 2

def Orderly (b : Build) (o : Ovs) : OvsEvent → Prop
  | .daemon ev ifrow => Calm b o.daemon ev ∧ LeavesHeads b o.daemon ev ∧
      ∀ i row, ev = .addHardware i → ifrow = some row → row.lldpNeighborInfo = none
  | .ifrow i ifrow => ∀ hw row, o.daemon.gHardware[i]? = some hw → ifrow = some row →
      row.lldpNeighborInfo = none ∧ (hw.hRportChangeOpcode = .noop → hw.hRports = [])
  | .status _ => True
  | .run now status =>
      (status = .success ∨ status = .tryAgain ∨ status = .incomplete) ∧ o.InTime now

/-! ## What an event leaves alone -/

section Kept
variable {b : Build} {s s' : Daemon} {h : Heap Chassis} {hw : Hardware} {a : Addr} {c : Chassis}
  {p : Port}

theorem deref_portCleanup {q : Port} (hq : q.pChassis ≠ some a) :
    (lldpdPortCleanup h q).deref a = h.deref a := by
  unfold lldpdPortCleanup
  split
  · rename_i a' ha'
    refine (Heap.deref_write ..).trans (if_neg ?_)
    rintro rfl
    exact hq ha'
  · rfl

theorem deref_portCleanups {ports : List Port} (hports : ∀ q ∈ ports, q.pChassis ≠ some a) :
    (ports.foldl lldpdPortCleanup h).deref a = h.deref a := by
  induction ports generalizing h with
  | nil => rfl
  | cons q ports ih =>
    obtain ⟨hq, hports⟩ := List.forall_mem_cons.1 hports
    rw [List.foldl_cons, ih hports, deref_portCleanup hq]

theorem deref_released (ha : ochassis s hw c p ≠ some a) :
    (released s hw c p).deref a = s.gChassis.deref a := by
  unfold ochassis at ha
  unfold released
  split
  · rename_i hfind
    rw [hfind] at ha
    exact deref_portCleanup ha
  · rfl

/-- A neighbor that is learnt changes the chassis that it is attached to. -/
theorem deref_learn {now : Int} {frame : Bytes} (hok : HasRoom s hw c p)
    (ha : (ochassis s hw c p).getD s.nextAddr ≠ a) :
    (learn b now frame c p s hw).2.gChassis.deref a = s.gChassis.deref a := by
  cases hc : ochassis s hw c p with
  | some a' =>
    rw [hc, Option.getD_some] at ha
    rw [learn_known_chassis hc hok, Heap.deref_write, if_neg ha.symm, Heap.deref_write,
      if_neg ha.symm, deref_released (by rw [hc]; simpa using ha)]
  | none =>
    rw [hc, Option.getD_none] at ha
    rw [learn_newcomer hc hok, Heap.deref_write, if_neg ha.symm, Heap.deref_concat ha.symm,
      deref_released (by rw [hc]; nofun)]

/-- Step lemma: what is not written to stays. -/
theorem deref_step {ev : Event} (hstep : s.step b ev = some s') (hcalm : Calm b s ev)
    (hno : ¬ Rewrites b s a ev) : s'.gChassis.deref a = s.gChassis.deref a := by
  cases Daemon.stepped hstep with
  | @allocHardware a' c cap hlocal =>
    refine (Heap.deref_write ..).trans (if_neg ?_)
    rintro rfl
    exact hno ⟨c, hlocal⟩
  | addHardware | scan => rfl
  | @hardwareCleanup i hw hget => exact deref_portCleanup fun hq => hno ⟨hw, hget, hq⟩
  | @decode i frame now stack hw r hget hdec =>
    obtain ⟨hw', s'⟩ := r
    cases received hdec with
    | short | duplicate | ignored | refused => rfl
    | @vlans cnt c p hlong hdup htells =>
      show (attachVlans c hw.hRports p.pVlans c.cMgmt s.gChassis).2.deref a = _
      rw [attachVlans_eq_self ((hcalm hw hget).2 c p htells)]
    | @learnt cnt mode c p ht =>
      exact @deref_learn b s ((hw.reset b).unrecognized cnt) a _ _ _ _ ht.room
        fun ha => hno ⟨hw, mode, c, p, hget, ht, ha⟩
  | @remoteCleanup i expire all now hw hget =>
    rw [remoteCleanup_eq]
    refine deref_portCleanups fun q hq ha => hno ⟨hw, hget, q, ?_⟩
    obtain ⟨hmem, hgoes⟩ := List.mem_filter.1 hq
    exact ⟨hmem, hgoes, ha⟩
  | @cleanup now =>
    have hswept := @deref_portCleanups s.gChassis a (s.gHardware.flatMap (swept now s.gChassis))
      fun q hq ha => hno (.inl ⟨q, hq, ha⟩)
    rw [cleanup_eq]
    refine (Heap.deref_filter_of_pos fun c hc => ?_).trans hswept
    rw [hswept] at hc
    exact decide_eq_true fun hzero => hno (.inr ⟨c, hc, hzero⟩)

end Kept

/-! ## One interface -/

section
variable {b : Build} {s s' : Daemon} {h h' : Heap Chassis} {hw hw' : Hardware} {row : IfRow}
  {i : Nat} {ev : Event}

variable {q : Port} {all : Bool} {gone : Port → Bool}

theorem nbrUpdate_congr (hq : q.chassis h' = q.chassis h) :
    lldpNbrUpdate h' q = lldpNbrUpdate h q := by
  unfold lldpNbrUpdate
  rw [hq]

/-- Nothing changes but, perhaps, the heap. -/
theorem Mirrors.same (hm : Mirrors h hw row)
    (hop : hw'.hRportChangeOpcode = hw.hRportChangeOpcode) (hports : hw'.hRports = hw.hRports)
    (hheads : ∀ q, hw.hRports.head? = some q →
      hw.hRportChangeOpcode = .noop ∨ hw.hRportChangeOpcode = .upd → q.chassis h' = q.chassis h) :
    Mirrors h' hw' row := by
  constructor
  · intro hnoop
    rw [hop] at hnoop
    have hd := hm.noop hnoop
    unfold Described at hd ⊢
    rw [hd, hports]
    cases hhead : hw.hRports.head? with
    | none => rfl
    | some q => rw [Option.map_some, Option.map_some, nbrUpdate_congr (hheads q hhead (.inl hnoop))]
  · intro hupd
    rw [hop] at hupd
    obtain ⟨q, hhead, hinfo⟩ := hm.upd hupd
    refine ⟨q, by rw [hports]; exact hhead, hinfo.imp_right fun hinfo => ?_⟩
    rw [hinfo, nbrUpdate_congr (hheads q hhead (.inr hupd))]

theorem Tidy.some (ht : Tidy hw) (hnoop : hw.hRportChangeOpcode ≠ .noop)
    (hdel : hw.hRportChangeOpcode ≠ .del) : hw.hRports ≠ [] :=
  (ht.grounded.resolve_left hnoop).resolve_left hdel

theorem Tidy.same (ht : Tidy hw) (hop : hw'.hRportChangeOpcode = hw.hRportChangeOpcode)
    (hports : hw'.hRports = hw.hRports) : Tidy hw' := by
  obtain ⟨h1, h2⟩ := ht
  unfold Grounded at h1
  rw [← hop, ← hports] at h1 h2
  exact ⟨h1, h2⟩

/-- The first neighbor after a sign of life from some neighbor. -/
theorem head_modifyFirst {q : Port} {p : Port → Bool} {now : Int} {ports : List Port}
    (hhead : ports.head? = some q) :
    ∃ t, (modifyFirst p (fun port => { port with pLastupdate := now }) ports).head? =
      some { q with pLastupdate := t } := by
  cases ports with
  | nil => cases hhead
  | cons q' qs =>
    cases hhead
    unfold modifyFirst
    split
    · exact ⟨now, rfl⟩
    · exact ⟨q.pLastupdate, rfl⟩

/-- A row that describes the first neighbor, or did so some time ago, describes
it but for the time after a sign of life. -/
theorem outdated_refresh {t : Int} (hports : hw.hRports.head? = some q)
    (hports' : hw'.hRports.head? = some { q with pLastupdate := t })
    (hold : Described h hw row ∨ Outdated h hw row) : Outdated h hw' row := by
  refine ⟨_, hports', ?_⟩
  rcases hold with hd | ⟨q', hq', hold⟩
  · rw [hd, hports]
    exact .inr rfl
  · cases hports.symm.trans hq'
    refine hold.imp_right fun hinfo => ?_
    cases hrow : row.lldpNeighborInfo with
    | none => rw [hrow] at hinfo; cases hinfo
    | some info =>
      rw [hrow] at hinfo
      have hinfo := congrArg (Option.map fun info => { info with pLastupdate := t }) hinfo
      exact hinfo

variable {r : Hardware × Daemon} {stack : Buffer 32} {frame : Bytes}

theorem tidy_decode (hb : b.ovsdb = true) {now : Int}
    (hdec : lldpdDecode b now stack frame s hw = .ok r) (ht : Tidy hw) :
    Tidy r.1 := by
  refine ⟨grounded_decode hb hdec ht.grounded, ?_⟩
  have hreset : (hw.reset b).hRportChangeOpcode = .noop := if_pos hb
  obtain ⟨hw', s'⟩ := r
  have hr := received hdec
  simp only at hr ⊢
  cases hr with
  | short _ => exact ht.none
  | duplicate _ _ =>
    intro hdel
    rw [refresh_opcode hb] at hdel
    split at hdel
    · rename_i hop
      rcases hop with hop | hop <;> rw [hop] at hdel <;> cases hdel
    · cases hdel
  | ignored _ _ _ | vlans _ _ _ | refused _ _ _ _ => exact fun hdel => nomatch hreset.symm.trans hdel
  | @learnt cnt mode c p hl =>
    obtain ⟨known, a, fast, heq⟩ := @Takes.learn_eq b now frame c p s hw stack mode cnt hl
    intro hdel
    rw [heq] at hdel
    have hdel : hw.hRportChangeOpcode.learnt b known = .del := hdel
    rcases learnt_opcode hb hw.hRportChangeOpcode known with hop | hop <;> rw [hop] at hdel <;>
      cases hdel

theorem mirrors_decode (hb : b.ovsdb = true) {now : Int}
    (hdec : lldpdDecode b now stack frame s hw = .ok r) (ht : Tidy hw)
    (hnoted : hw.hRportChangeOpcode ≠ .noop → Noted b s hw stack frame)
    (hvlans : ∀ c p, TellsVlans b s stack frame c p →
      ∀ q ∈ hw.hRports, isEdpPort s.gChassis c q = false) (hm : Mirrors s.gChassis hw row) :
    Mirrors r.2.gChassis r.1 row := by
  have hreset : (hw.reset b).hRportChangeOpcode = .noop := if_pos hb
  -- a frame that leaves no note has found none
  have hwas : r.1.hRportChangeOpcode = .noop → hw.hRportChangeOpcode = .noop := by
    intro hop
    by_contra hne
    exact decode_op_ne_noop hb hdec (hnoted hne) hne hop
  obtain ⟨hw', s'⟩ := r
  have hr := received hdec
  simp only at hr hwas ⊢
  cases hr with
  | short _ => exact hm
  | @duplicate _ hdup =>
    have hop := @refresh_opcode b (hw.reset b) hb now hw.hRportChangeOpcode (decapsulate frame)
    obtain ⟨q, qs, hports⟩ : ∃ q qs, hw.hRports = q :: qs := by
      exact List.exists_cons_of_ne_nil (hRports_ne_nil hdup)
    have hhead : hw.hRports.head? = some q := by rw [hports]; rfl
    obtain ⟨t, hhead'⟩ :=
      @head_modifyFirst q (isDuplicate (decapsulate frame)) now hw.hRports hhead
    constructor
    · intro hnoop
      rw [hop] at hnoop
      split at hnoop
      · rename_i hcur
        rw [hnoop] at hcur
        rcases hcur with hcur | hcur <;> cases hcur
      · cases hnoop
    · intro hupd
      refine outdated_refresh hhead hhead' ?_
      cases hcur : hw.hRportChangeOpcode with
      | noop => exact .inl (hm.noop hcur)
      | upd => exact .inr (hm.upd hcur)
      | del => rw [ht.none hcur] at hports; cases hports
      | add => rw [hop, hcur] at hupd; cases hupd
      | mod => rw [hop, hcur] at hupd; cases hupd
  | ignored _ _ _ =>
    exact hm.same (hreset.trans (hwas hreset).symm) rfl fun _ _ _ => rfl
  | refused _ _ _ _ =>
    exact hm.same (hreset.trans (hwas hreset).symm) rfl fun _ _ _ => rfl
  | @vlans cnt c p _ _ htells =>
    have hself := @attachVlans_eq_self c hw.hRports p.pVlans c.cMgmt s.gChassis (hvlans c p htells)
    refine hm.same (hreset.trans (hwas hreset).symm) ?_ fun _ _ _ => ?_
    · rw [hself]
    · rw [hself]
  | @learnt cnt mode c p hl =>
    obtain ⟨known, a, fast, heq⟩ := @Takes.learn_eq b now frame c p s hw stack mode cnt hl
    have hop : hw.hRportChangeOpcode.learnt b known = .mod ∨
      hw.hRportChangeOpcode.learnt b known = .add := learnt_opcode hb _ known
    rw [heq]
    constructor
    · intro hnoop
      have hnoop : hw.hRportChangeOpcode.learnt b known = .noop := hnoop
      rw [hnoop] at hop
      rcases hop with hop | hop <;> cases hop
    · intro hupd
      have hupd : hw.hRportChangeOpcode.learnt b known = .upd := hupd
      rw [hupd] at hop
      rcases hop with hop | hop <;> cases hop

/-! ### Ports that go -/

theorem forget_every (hb : b.ovsdb = true)
    (hall : ∀ q ∈ hw.hRports, gone q = true) (hne : hw.hRports ≠ []) :
    (hw.forget b all gone).hRportChangeOpcode = .del ∧ (hw.forget b all gone).hRports = [] := by
  constructor
  · obtain ⟨q, qs, hq⟩ := List.exists_cons_of_ne_nil hne
    have hany : hw.hRports.any gone = true :=
      List.any_eq_true.2 ⟨q, by rw [hq]; exact List.mem_cons_self, hall q (by simp [hq])⟩
    show (if b.ovsdb && hw.hRports.any gone then _ else _) = _
    rw [hany, hb]
    rfl
  · refine List.filter_eq_nil_iff.2 fun q hq => ?_
    rw [hall q hq]
    decide

/-- All go or all stay. -/
theorem AllOrNone.cases {all : Bool} {gone : Port → Bool} (hb : b.ovsdb = true)
    (hgone : AllOrNone gone hw.hRports) :
    ((hw.forget b all gone).hRportChangeOpcode = .del ∧ (hw.forget b all gone).hRports = []) ∨
      ((∀ q ∈ hw.hRports, gone q = false) ∧
        (hw.forget b all gone).hRportChangeOpcode = hw.hRportChangeOpcode ∧
        (hw.forget b all gone).hRports = hw.hRports) := by
  rcases hgone with hall | hnone
  · by_cases hnil : hw.hRports = []
    · have hnone : ∀ q ∈ hw.hRports, gone q = false := by
        rw [hnil]
        intro q hq
        cases hq
      exact .inr ⟨hnone, forget_none hnone⟩
    · exact .inl (forget_every hb hall hnil)
  · exact .inr ⟨hnone, forget_none hnone⟩

theorem tidy_forget {all : Bool} {gone : Port → Bool} (hb : b.ovsdb = true)
    (hgone : AllOrNone gone hw.hRports) (ht : Tidy hw) : Tidy (hw.forget b all gone) := by
  rcases @AllOrNone.cases b hw all gone hb hgone with ⟨hop, hports⟩ | ⟨-, hop, hports⟩
  · exact ⟨.inr (.inl hop), fun _ => hports⟩
  · exact ht.same hop hports

theorem mirrors_forget (hb : b.ovsdb = true) (hgone : AllOrNone gone hw.hRports)
    (hheads : ∀ q, hw.hRports.head? = some q →
      hw.hRportChangeOpcode = .noop ∨ hw.hRportChangeOpcode = .upd → gone q = false →
      q.chassis h' = q.chassis h) (hm : Mirrors h hw row) :
    Mirrors h' (hw.forget b all gone) row := by
  rcases @AllOrNone.cases b hw all gone hb hgone with ⟨hop, hports⟩ | ⟨hnone, hop, hports⟩
  · constructor
    · intro h
      rw [hop] at h
      cases h
    · intro h
      rw [hop] at h
      cases h
  · refine hm.same hop hports fun q hq hops => ?_
    exact hheads q hq hops (hnone q (List.mem_of_mem_head? hq))

/-! ### An event of the daemon -/

theorem Touches.concerns (ht : Touches s i hw q ev) : ev.concerns i = true := by
  cases ev with
  | decode j frame now stack => exact decide_eq_true ht
  | remoteCleanup j expire all now => exact decide_eq_true ht.1
  | cleanup now => rfl
  | _ => cases ht

theorem tidy_step (hb : b.ovsdb = true) (hst : Hardware.Step b s s' i hw ev hw')
    (hget : s.gHardware[i]? = some hw) (hcalm : Calm b s ev) (ht : Tidy hw) : Tidy hw' := by
  cases hst with
  | scan => exact ht.same rfl rfl
  | decode hdec _ => exact tidy_decode hb hdec ht
  | remoteCleanup => exact tidy_forget hb (hcalm hw hget) ht
  | cleanup => exact tidy_forget hb (hcalm hw (List.mem_of_getElem? hget)) ht
  | other _ => exact ht

theorem mirrors_step (hb : b.ovsdb = true) (hst : Hardware.Step b s s' i hw ev hw')
    (hstep : s.step b ev = some s') (hget : s.gHardware[i]? = some hw) (hcalm : Calm b s ev)
    (hheads : LeavesHeads b s ev) (ht : Tidy hw) (hm : Mirrors s.gChassis hw row) :
    Mirrors s'.gChassis hw' row := by
  have hheads : ∀ q, hw.hRports.head? = some q →
      hw.hRportChangeOpcode = .noop ∨ hw.hRportChangeOpcode = .upd → ¬ Touches s i hw q ev →
      q.chassis s'.gChassis = q.chassis s.gChassis := by
    intro q hq hop htouch
    unfold Port.chassis
    cases ha : q.pChassis with
    | none => rfl
    | some a => exact deref_step hstep hcalm (hheads i hw q a hget hq ha hop htouch)
  cases hst with
  | scan => exact hm.same rfl rfl fun q hq hop => hheads q hq hop fun h => h
  | decode hdec hs' =>
    rw [hs']
    exact mirrors_decode hb hdec ht (hcalm hw hget).1 (hcalm hw hget).2 hm
  | remoteCleanup =>
    refine mirrors_forget hb (hcalm hw hget) (fun q hq hop hgone => ?_) hm
    refine hheads q hq hop fun htouch => ?_
    cases hgone.symm.trans htouch.2
  | cleanup hkept =>
    refine mirrors_forget hb (hcalm hw (List.mem_of_getElem? hget)) (fun q hq hop hgone => ?_) hm
    refine hheads q hq hop fun htouch => ?_
    cases hgone.symm.trans (htouch.resolve_left hkept)
  | other hev =>
    refine hm.same rfl rfl fun q hq hop => hheads q hq hop fun htouch => ?_
    rw [htouch.concerns] at hev
    cases hev

end

/-! ## The transaction -/

/-- Nothing is noted, and the row describes the first neighbor. -/
structure Synced (h : Heap Chassis) (hw : Hardware) (slot : Slot) : Prop where
  noop : slot.row.isSome = true → hw.hRportChangeOpcode = .noop
  described : ∀ row, slot.row = some row → Described h hw row

section
variable {b : Build} {h h' : Heap Chassis} {hw hw' : Hardware} {row : IfRow} {slot : Slot}

theorem write_row (hsome : slot.row.isSome = true) (row : IfRow) :
    (slot.write row).row = some row := by
  rw [row_isSome] at hsome
  obtain ⟨ifrow, hifrow⟩ := Option.isSome_iff_exists.1 hsome
  unfold Slot.row
  rw [write_ifrow, write_written row hsome, hifrow]
  rfl

theorem Synced.mirrors (hs : Synced h hw slot) (hrow : slot.row = some row) : Mirrors h hw row := by
  have hnoop := hs.noop (by rw [hrow]; rfl)
  refine ⟨fun _ => hs.described row hrow, fun hupd => ?_⟩
  rw [hnoop] at hupd
  cases hupd

/-- What is written for a note makes the row a description. -/
theorem nbrWrite_describes {w : Option IfRow} (ht : Tidy hw) (hm : Mirrors h hw row)
    (hok : nbrWrite h hw row = .ok w) : Described h hw (w.getD row) := by
  rcases nbrWrite_cases hok with ⟨hop, rfl⟩ | ⟨hop, rfl⟩ | ⟨hnoop, hdel, rfl⟩ | ⟨hop, hsome, rfl⟩
  · exact hm.noop hop
  · unfold Described
    rw [ht.none hop]
    rfl
  · obtain ⟨q, qs, hq⟩ := List.exists_cons_of_ne_nil (ht.some hnoop hdel)
    unfold Described
    rw [hq]
    rfl
  · obtain ⟨q, hq, hinfo⟩ := hm.upd hop
    rcases hinfo with hinfo | hinfo
    · rw [hinfo] at hsome
      cases hsome
    · unfold Described
      rw [hq]
      exact hinfo

theorem synced_nbrsRunStep {x y : Hardware × Slot} (hy : nbrsRunStep h x = .ok y)
    (ht : Tidy x.1) (hm : ∀ row, x.2.row = some row → Mirrors h x.1 row) :
    Synced h y.1 y.2 := by
  rcases nbrsRunStep_cases hy with ⟨hnone, rfl⟩ | ⟨ifrow, w, hrow, hw, hhw, hnone, hwrite⟩
  · refine ⟨fun hsome => ?_, fun row hrow => ?_⟩
    · rw [hnone] at hsome
      cases hsome
    · rw [hnone] at hrow
      cases hrow
  have hd := nbrWrite_describes ht (hm ifrow hrow) hw
  have hrow' : y.2.row = some (w.getD ifrow) := by
    cases w with
    | none => rw [hnone rfl]; exact hrow
    | some row =>
      rw [hwrite row rfl]
      exact write_row (by rw [hrow]; rfl) row
  refine ⟨fun _ => by rw [hhw], fun row hr => ?_⟩
  cases hrow'.symm.trans hr
  rw [hhw]
  exact hd

theorem synced_changeAllStep (x : Hardware × Slot) :
    Synced h (changeAllStep h x).1 (changeAllStep h x).2 := by
  unfold changeAllStep
  cases hrow : x.2.row with
  | none =>
    refine ⟨fun hsome => ?_, fun row hr => ?_⟩
    · rw [hrow] at hsome
      cases hsome
    · cases hrow.symm.trans hr
  | some ifrow =>
    refine ⟨fun _ => rfl, fun row hr => ?_⟩
    have hr : (x.2.write _).row = some row := hr
    rw [write_row (by rw [hrow]; rfl)] at hr
    cases hr
    rfl

/-- The neighbor that the row describes has not aged out. -/
theorem ageOut_eq_self {now : Int} (hs : Synced h hw slot)
    (hlate : ∀ q c, hw.hRports.head? = some q → q.chassis h = some c →
      now ≤ q.pLastupdate + c.cTtl.toNat + 2) : ageOut now slot = slot := by
  refine if_neg fun hany => ?_
  obtain ⟨row, hrow, hages⟩ := (Option.any_eq_true _ _).1 hany
  have hd := hs.described row hrow
  unfold agesOut at hages
  rw [hd] at hages
  cases hhead : hw.hRports.head? with
  | none => rw [hhead] at hages; cases hages
  | some q =>
    rw [hhead] at hages
    cases hc : q.chassis h with
    | none =>
      have hinfo : (lldpNbrUpdate h q).chassis = none := by
        show (q.chassis h).map nbrChassis = none
        rw [hc]
        rfl
      simp only [Option.map_some, hinfo] at hages
      cases hages
    | some c =>
      have hinfo : (lldpNbrUpdate h q).chassis = some (nbrChassis c) := by
        show (q.chassis h).map nbrChassis = _
        rw [hc]
        rfl
      simp only [Option.map_some, hinfo] at hages
      have hages : (c.cTtl.toNat : Int) + 2 < now - q.pLastupdate := of_decide_eq_true hages
      have := hlate q c hhead hc
      omega

end

/-! ## All interfaces -/

/-- The invariant. The rows need not be in step while the rewrite of all of
them is scheduled. -/
structure Ovs.InStep (o : Ovs) : Prop where
  length : o.slots.length = o.daemon.gHardware.length
  detached : ∀ hw ∈ o.daemon.detached, hw.hRportChangeOpcode = .noop ∧ hw.hRports = []
  written : o.confirmTxn = none → ∀ x ∈ o.interfaces, x.2.written = none
  tidy : ∀ x ∈ o.interfaces, Tidy x.1
  mirrors : (o.confirmTxn = none → o.confirmTxnTryAgain = false) →
    ∀ x ∈ o.interfaces, ∀ row, x.2.row = some row → Mirrors o.daemon.gChassis x.1 row

section
variable {b : Build} {cfg : Config} {protocols : List Protocol} {o o' : Ovs} {ifrow : Option IfRow}

theorem daemon_inStep (hb : b.ovsdb = true) {ev : Event} (h : o.InStep)
    (hord : Orderly b o (.daemon ev ifrow)) (hst : o.step b (.daemon ev ifrow) = some o') :
    o'.InStep := by
  obtain ⟨hcalm, hheads, hnew⟩ := hord
  obtain ⟨hstep, hlen, hpairs⟩ := daemon_interfaces hst h.length
  obtain ⟨htxn, hagain, -⟩ := daemon_txn hst
  refine ⟨hlen, step_detached (fun _ => ⟨rfl, rfl⟩) hstep h.detached, ?_, ?_, ?_⟩
  · intro hnone x hx
    obtain ⟨slot, heq, hpair⟩ := hpairs x hx
    rw [heq]
    cases hpair with
    | old hget hslot _ => exact h.written (htxn.symm.trans hnone) _ (mem_interfaces hget hslot)
    | new _ _ hslot => rw [hslot]; rfl
  · intro x hx
    obtain ⟨slot, -, hpair⟩ := hpairs x hx
    cases hpair with
    | old hget hslot hst => exact tidy_step hb hst hget hcalm (h.tidy _ (mem_interfaces hget hslot))
    | new _ hget _ =>
      have hop := (h.detached _ (List.mem_of_getElem? hget)).1
      exact ⟨.inl hop, fun hdel => by cases hop.symm.trans hdel⟩
  · intro hdue x hx row hrow
    rw [htxn, hagain] at hdue
    obtain ⟨slot, heq, hpair⟩ := hpairs x hx
    rw [heq] at hrow
    have hrow : slot.row = some row := hrow
    cases hpair with
    | old hget hslot hst =>
      have hmem := mem_interfaces hget hslot
      exact mirrors_step hb hst hstep hget hcalm hheads (h.tidy _ hmem)
        (h.mirrors hdue _ hmem row hrow)
    | new hev hget hslot =>
      obtain ⟨hop, hports⟩ := h.detached _ (List.mem_of_getElem? hget)
      rw [hslot] at hrow
      have hrow : ifrow = some row := by simpa [Slot.row] using hrow
      refine ⟨fun _ => ?_, fun hupd => by cases hop.symm.trans hupd⟩
      unfold Described
      rw [hnew _ row hev hrow, hports]
      rfl

theorem ifrow_inStep {i : Nat} (h : o.InStep) (hord : Orderly b o (.ifrow i ifrow))
    (hst : o.step b (.ifrow i ifrow) = some o') :
    o'.InStep := by
  have hfrom := ifrow_interfaces hst
  obtain ⟨slot, hslot, hst⟩ := Option.bind_eq_some_iff.1 hst
  cases hst
  refine ⟨List.length_set.trans h.length, h.detached, ?_, ?_, ?_⟩
  · intro htxn x hx
    rcases hfrom x hx with hx | ⟨slot, -, -, heq⟩
    · exact h.written htxn x hx
    · rw [heq]
  · intro x hx
    rcases hfrom x hx with hx | ⟨slot, hslot, hget, -⟩
    · exact h.tidy x hx
    · exact h.tidy (x.1, slot) (mem_interfaces hget hslot)
  · intro hdue x hx row hrow
    rcases hfrom x hx with hx | ⟨slot, hslot, hget, heq⟩
    · exact h.mirrors hdue x hx row hrow
    · rw [heq] at hrow
      have hrow : ifrow = some row := by simpa [Slot.row] using hrow
      obtain ⟨hempty, hports⟩ := hord x.1 row hget hrow
      refine ⟨fun hnoop => ?_, fun hupd => ?_⟩
      · unfold Described
        rw [hempty, hports hnoop]
        rfl
      · have ht := h.tidy (x.1, slot) (mem_interfaces hget hslot)
        have hne := ht.some (by rw [hupd]; decide) (by rw [hupd]; decide)
        obtain ⟨q, qs, hq⟩ := List.exists_cons_of_ne_nil hne
        exact ⟨q, by rw [hq]; rfl, .inl (by rw [hempty]; rfl)⟩

/-! ### The requests -/

theorem tidy_cleared (hb : b.ovsdb = true) (r : Clears) {hw : Hardware} (ht : Tidy hw) :
    Tidy (cleared b r hw) := by
  have hkeeps := @cleared_keeps b (fun op ports =>
    (op = .noop ∨ op = .del ∨ ports ≠ []) ∧ (op = .del → ports = [])) r ?_ hw ⟨ht.grounded, ht.none⟩
  · exact ⟨hkeeps.1, hkeeps.2⟩
  · intro hw h
    have ht := @tidy_forget b hw true (fun _ => true) hb (.inl fun _ _ => rfl) ⟨h.1, h.2⟩
    exact ⟨ht.grounded, ht.none⟩

theorem cleared_hRports (r : Clears) (hr : (r.table || r.counters) = true) (hw : Hardware) :
    (cleared b r hw).hRports = [] := by
  unfold cleared
  cases hcounters : r.counters with
  | true => simp [clearCounters_eq]
  | false =>
    rw [hcounters, Bool.or_false] at hr
    simp [hr, clearTable_eq]

theorem clear_none (r : Clears) (hr : (r.table || r.counters) = false) (hw : Hardware) :
    cleared b r hw = hw ∧ (o.clear b r).daemon = o.daemon := by
  obtain ⟨htable, hcounters⟩ := Bool.or_eq_false_iff.1 hr
  simp [cleared, Ovs.clear, htable, hcounters]

variable {now : Int} {status : TxnStatus}

variable (hb : b.ovsdb = true)
include hb

/-- The invariant is there behind the requests, and no neighbor is late. -/
theorem clear_mirrors (r : Clears) (h : o.InStep) (hidle : o.confirmTxnTryAgain = false)
    (hlate : o.InTime now) :
    ∀ x ∈ (o.clear b r).interfaces, Tidy x.1 ∧
      (∀ row, x.2.row = some row → Mirrors (o.clear b r).daemon.gChassis x.1 row) ∧
      ∀ q c, x.1.hRports.head? = some q → q.chassis (o.clear b r).daemon.gChassis = some c →
        now ≤ q.pLastupdate + c.cTtl.toNat + 2 := by
  intro x hx
  rw [interfaces_clear] at hx
  obtain ⟨y, hy, rfl⟩ := List.mem_map.1 hx
  have ht := tidy_cleared hb r (h.tidy y hy)
  refine ⟨ht, ?_⟩
  cases hr : r.table || r.counters with
  | true =>
    have hports := @cleared_hRports b r hr y.1
    refine ⟨fun row hrow => ⟨fun _ => ?_, fun hupd => ?_⟩, fun q c hq => ?_⟩
    · have hrow : (y.2.write {}).row = some row := hrow
      have hsome : y.2.row.isSome = true := by
        rw [row_isSome, ← write_ifrow y.2 {}, ← row_isSome, hrow]
        rfl
      rw [write_row hsome] at hrow
      cases hrow
      show none = (cleared b r y.1).hRports.head?.map _
      rw [hports]
      rfl
    · exact absurd hports (ht.some (by rw [hupd]; decide) (by rw [hupd]; decide))
    · rw [hports] at hq
      cases hq
  | false =>
    obtain ⟨hhw, hdaemon⟩ := @clear_none b o r hr y.1
    rw [hdaemon, hhw]
    exact ⟨h.mirrors (fun _ => hidle) y hy, hlate y.1 (List.of_mem_zip hy).1⟩

/-! ### The run -/

theorem nbrsRun_synced (h : o.InStep) (hidle : o.confirmTxnTryAgain = false)
    (hlate : o.InTime now) (hrun : lldpdOvsdbNbrsRun b now o = .ok o') :
    ∀ x ∈ o'.interfaces, Tidy x.1 ∧ Synced o'.daemon.gChassis x.1 x.2 := by
  obtain ⟨r, interfaces, -, hm, rfl, hifs⟩ := nbrsRun_cases hrun
  intro x hx
  rw [hifs] at hx
  obtain ⟨y, hy, rfl⟩ := List.mem_map.1 hx
  obtain ⟨z, hz, hstep⟩ := mem_of_mapM hm y hy
  obtain ⟨ht, hmirrors, hlate⟩ := clear_mirrors hb r h hidle hlate z hz
  have hsynced := synced_nbrsRunStep hstep ht hmirrors
  have hsame : Tidy y.1 ∧ y.1.hRports = z.1.hRports := by
    rcases nbrsRunStep_cases hstep with ⟨-, rfl⟩ | ⟨_, _, _, _, hhw, -, -⟩
    · exact ⟨ht, rfl⟩
    · rw [hhw]
      exact ⟨⟨.inl rfl, fun hdel => by cases hdel⟩, rfl⟩
  rw [← hsame.2] at hlate
  refine ⟨hsame.1, ?_⟩
  rw [ageOut_eq_self hsynced hlate]
  exact hsynced

/-- A new transaction puts every row in step. -/
theorem prepare_synced (h : o.InStep) (hord : Orderly b o (.run now status))
    (hprepare : o.prepare b now = .ok o') (htxn : o.confirmTxn = none) :
    ∀ x ∈ o'.interfaces, Tidy x.1 ∧ Synced o'.daemon.gChassis x.1 x.2 := by
  rcases prepare_cases hprepare with ⟨hsome, -⟩ | ⟨-, -, rfl⟩ | ⟨-, hagain, hrun⟩
  · rw [htxn] at hsome
    cases hsome
  · intro x hx
    have hx : x ∈ (o.withInterfaces (o.interfaces.map
      (changeAllStep o.daemon.gChassis))).interfaces := hx
    rw [interfaces_withInterfaces] at hx
    obtain ⟨y, hy, rfl⟩ := List.mem_map.1 hx
    refine ⟨?_, synced_changeAllStep y⟩
    unfold changeAllStep
    split
    · exact h.tidy y hy
    · exact ⟨.inl rfl, fun hdel => by cases hdel⟩
  · exact nbrsRun_synced hb h hagain hord.2 hrun

theorem prepare_inStep (h : o.InStep)
    (hord : Orderly b o (.run now status)) (hprepare : o.prepare b now = .ok o') : o'.InStep := by
  by_cases htxn : o.confirmTxn = none
  · have hsynced := prepare_synced hb h hord hprepare htxn
    have hrest : o'.slots.length = o'.daemon.gHardware.length ∧
        o'.daemon.detached = o.daemon.detached ∧
        (o'.confirmTxn = none → ∀ x ∈ o'.interfaces, x.2.written = none) := by
      rcases prepare_cases hprepare with ⟨hsome, -⟩ | ⟨-, -, rfl⟩ | ⟨-, -, hrun⟩
      · rw [htxn] at hsome
        cases hsome
      · exact ⟨length_withInterfaces _ _, rfl, fun h => by cases h⟩
      · obtain ⟨r, interfaces, -, -, rfl, hifs⟩ := nbrsRun_cases hrun
        refine ⟨length_withInterfaces _ _, detached_clear b r o, fun hnone x hx => ?_⟩
        rw [hifs] at hx
        by_contra hwritten
        have hsome := Option.isSome_iff_ne_none.2 hwritten
        rw [if_pos] at hnone
        · cases hnone
        · rw [Bool.or_eq_true, List.any_eq_true]
          exact .inr ⟨x, hx, hsome⟩
    exact ⟨hrest.1, by rw [hrest.2.1]; exact h.detached, hrest.2.2, fun x hx => (hsynced x hx).1,
      fun _ x hx row hrow => (hsynced x hx).2.mirrors hrow⟩
  · rcases prepare_cases hprepare with ⟨-, rfl⟩ | ⟨hnone, -, -⟩ | ⟨hnone, -, -⟩
    · exact h
    · exact absurd hnone htxn
    · exact absurd hnone htxn

omit hb in
theorem commit_row (slot : Slot) : slot.commit.row = slot.row := by
  unfold Slot.commit Slot.row
  cases slot.ifrow <;> rfl

omit hb in
theorem commit_inStep {txn : Option Status} (htxn : o.confirmTxn = some txn)
    (hstatus : status = .success ∨ status = .tryAgain ∨ status = .incomplete) (h : o.InStep) :
    (o.commit txn status).InStep := by
  have hmirrors := h.mirrors fun hnone => by cases htxn.symm.trans hnone
  rcases hstatus with rfl | rfl | rfl
  · refine ⟨(List.length_map _).trans h.length, h.detached, fun _ x hx => ?_, fun x hx => ?_,
      fun _ x hx row hrow => ?_⟩
    · obtain ⟨y, -, rfl⟩ := map_interfaces (o := o) hx
      rfl
    · obtain ⟨y, hy, rfl⟩ := map_interfaces (o := o) hx
      exact h.tidy y hy
    · obtain ⟨y, hy, rfl⟩ := map_interfaces (o := o) hx
      exact hmirrors y hy row ((commit_row y.2).symm.trans hrow)
  · refine ⟨(List.length_map _).trans h.length, h.detached, fun _ x hx => ?_, fun x hx => ?_,
      fun hdue => ?_⟩
    · obtain ⟨y, -, rfl⟩ := map_interfaces (o := o) hx
      rfl
    · obtain ⟨y, hy, rfl⟩ := map_interfaces (o := o) hx
      exact h.tidy y hy
    · cases hdue rfl
  · exact h

theorem run_inStep (h : o.InStep)
    (hord : Orderly b o (.run now status)) (hrun : lldpdRun b now status o = .ok o') :
    o'.InStep := by
  obtain ⟨o1, hprepare, ⟨-, rfl⟩ | ⟨txn, htxn, rfl⟩⟩ := lldpdRun_cases hrun
  · exact prepare_inStep hb h hord hprepare
  · exact commit_inStep htxn hord.1 (prepare_inStep hb h hord hprepare)

theorem inStep_step {ev : OvsEvent} (h : o.InStep) (hord : Orderly b o ev)
    (hst : o.step b ev = some o') : o'.InStep := by
  cases ev with
  | daemon ev ifrow => exact daemon_inStep hb h hord hst
  | ifrow i ifrow => exact ifrow_inStep h hord hst
  | status status =>
    cases hst
    exact ⟨h.length, h.detached, h.written, h.tidy, h.mirrors⟩
  | run now status => exact run_inStep hb h hord (run_of_step hst)

theorem inStep_reachable
    (hs : ((ovs b cfg protocols).guard (Orderly b)).Reachable o) : o.InStep := by
  induction hs with
  | init hi =>
    obtain ⟨s, status, ⟨c, -, -, rfl⟩, rfl⟩ := hi
    refine ⟨rfl, fun hw hmem => ?_, fun _ x hx => ?_, fun x hx => ?_, fun _ x hx => ?_⟩
    · cases hmem
    · cases hx
    · cases hx
    · cases hx
  | step _ hst ih => exact inStep_step hb ih hst.1 hst.2

omit hb in
/-- A transaction that is under way and has not been overtaken by an event has
every row in step. -/
def Ovs.Fresh (o : Ovs) : Prop :=
  o.InStep ∧ (o.confirmTxn.isSome = true →
    ∀ x ∈ o.interfaces, Synced o.daemon.gChassis x.1 x.2)

theorem Ovs.Fresh.prepare (h : o.Fresh)
    (hord : Orderly b o (.run now status)) (hprepare : o.prepare b now = .ok o') :
    o'.InStep ∧ ∀ x ∈ o'.interfaces, Synced o'.daemon.gChassis x.1 x.2 := by
  refine ⟨prepare_inStep hb h.1 hord hprepare, ?_⟩
  rcases prepare_cases hprepare with ⟨hsome, rfl⟩ | ⟨htxn, -, -⟩ | ⟨htxn, -, -⟩
  · exact h.2 hsome
  · exact fun x hx => (prepare_synced hb h.1 hord hprepare htxn x hx).2
  · exact fun x hx => (prepare_synced hb h.1 hord hprepare htxn x hx).2

/-- A run whose commit is not complete yet. -/
theorem Ovs.Fresh.wait (h : o.Fresh) (hord : Orderly b o (.run now .incomplete))
    (hst : o.step b (.run now .incomplete) = some o') : o'.Fresh := by
  obtain ⟨o1, hprepare, hcommit⟩ := lldpdRun_cases (run_of_step hst)
  have hfresh := h.prepare hb hord hprepare
  rcases hcommit with ⟨-, rfl⟩ | ⟨txn, -, rfl⟩
  · exact ⟨hfresh.1, fun _ => hfresh.2⟩
  · exact ⟨hfresh.1, fun _ => hfresh.2⟩

theorem Ovs.Fresh.commit (h : o.Fresh)
    (hord : Orderly b o (.run now .success)) (hst : o.step b (.run now .success) = some o') :
    ∀ x ∈ o'.interfaces, ∀ row, x.2.ifrow = some row → Described o'.daemon.gChassis x.1 row := by
  obtain ⟨o1, hprepare, hcommit⟩ := lldpdRun_cases (run_of_step hst)
  obtain ⟨hin, hsynced⟩ := h.prepare hb hord hprepare
  intro x hx row hrow
  rcases hcommit with ⟨htxn, rfl⟩ | ⟨txn, -, rfl⟩
  · refine (hsynced x hx).described row ?_
    unfold Slot.row
    rw [hrow, hin.written htxn x hx]
    rfl
  · obtain ⟨y, hy, rfl⟩ := map_interfaces (o := o1) hx
    exact (hsynced y hy).described row hrow

end

/-- `lldpd_run` is asked again for a commit that is not complete. -/
def Waiting (_ : Ovs) (ev : OvsEvent) : Prop := ∃ now, ev = .run now .incomplete

/-- In every history of `Orderly` events, a transaction that is begun, perhaps
waited for, and committed in success with no event in between leaves every row
a mirror: empty if and only if the interface has no neighbors, and otherwise
the description of one of them as it is. -/
theorem row_mirrors_neighbors (b : Build) (hb : b.ovsdb = true) (cfg : Config)
    (protocols : List Protocol) (o o₁ o' : Ovs) (now : Int)
    (hs : ((ovs b cfg protocols).guard (Orderly b)).Reachable o) (hidle : o.confirmTxn = none)
    (hwait : (((ovs b cfg protocols).guard (Orderly b)).guard Waiting).Steps o o₁)
    (hst : ((ovs b cfg protocols).guard (Orderly b)).step o₁ (.run now .success) o') :
    ∀ x ∈ o'.interfaces, ∀ row, x.2.ifrow = some row →
      (row.lldpNeighborInfo = none ↔ x.1.hRports = []) ∧
      ∀ info, row.lldpNeighborInfo = some info →
        ∃ q ∈ x.1.hRports, info = lldpNbrUpdate o'.daemon.gChassis q := by
  have hfresh : o.Fresh := by
    refine ⟨inStep_reachable hb hs, fun hsome => ?_⟩
    rw [hidle] at hsome
    cases hsome
  have hfresh1 : o₁.Fresh := by
    refine hwait.keeps (fun o ev o' h hst => ?_) hfresh
    obtain ⟨⟨t, rfl⟩, hord, hst⟩ := hst
    exact h.wait hb hord hst
  intro x hx row hrow
  have hd : row.lldpNeighborInfo = x.1.hRports.head?.map (lldpNbrUpdate o'.daemon.gChassis) :=
    hfresh1.commit hb hst.1 hst.2 x hx row hrow
  rw [hd]
  constructor
  · rw [Option.map_eq_none_iff, List.head?_eq_none_iff]
  · intro info hinfo
    obtain ⟨q, hq, rfl⟩ := Option.map_eq_some_iff.1 hinfo
    exact ⟨q, List.mem_of_mem_head? hq, rfl⟩

/-- Nothing is at stake on interfaces without neighbors. -/
theorem leavesHeads_of_nil {b : Build} {s : Daemon} (hnil : ∀ hw ∈ s.gHardware, hw.hRports = [])
    (ev : Event) : LeavesHeads b s ev := by
  intro i hw q a hget hhead
  rw [hnil hw (List.mem_of_getElem? hget)] at hhead
  cases hhead

theorem oneRow_orderly :
    ((ovs openSwitch {} lldpOnly).guard (Orderly openSwitch)).Reachable oneRow := by
  have hnil : ∀ hw ∈ ([] : List Hardware), hw.hRports = [] := fun _ h => by cases h
  refine oneRow_reachable ?_ ?_
  · exact ⟨trivial, leavesHeads_of_nil hnil _, fun _ _ _ h => by cases h⟩
  · exact ⟨trivial, leavesHeads_of_nil hnil _, fun _ _ _ h => by cases h; rfl⟩

theorem heardOnRow_orderly : Orderly openSwitch oneRow heardOnRow := by
  have hnil : ∀ hw ∈ oneRow.daemon.gHardware, hw.hRports = [] := by decide
  refine ⟨fun hw hget => ⟨fun hop => ?_, fun c p _ q hq => ?_⟩, leavesHeads_of_nil hnil _,
    fun _ _ h => by cases h⟩
  · cases hget
    exact absurd rfl hop
  · rw [hnil hw (List.mem_of_getElem? hget)] at hq
    cases hq

/-- A neighbor is heard and written to the row. -/
theorem row_mirrors_neighbors_one : ∃ o o' hw slot row,
    ((ovs openSwitch {} lldpOnly).guard (Orderly openSwitch)).Reachable o ∧
      o.step openSwitch (.run 0 .success) = some o' ∧ o'.interfaces = [(hw, slot)] ∧
      slot.ifrow = some row ∧ row ≠ {} ∧
      ((row.lldpNeighborInfo = none ↔ hw.hRports = []) ∧
        ∀ info, row.lldpNeighborInfo = some info →
          ∃ q ∈ hw.hRports, info = lldpNbrUpdate o'.daemon.gChassis q) := by
  obtain ⟨o, hheard, hidle, hearly, o', hrun, ⟨hw, slot⟩, hmem, hone, row, hrow, hne⟩ :
      ∃ o ∈ oneRow.step openSwitch heardOnRow, o.confirmTxn.isNone = true ∧
        (∀ hw ∈ o.daemon.gHardware, ∀ q ∈ hw.hRports.head?, 0 ≤ q.pLastupdate) ∧
      ∃ o' ∈ o.step openSwitch (.run 0 .success), ∃ x ∈ o'.interfaces,
        o'.interfaces = [x] ∧ ∃ row ∈ x.2.ifrow, row ≠ {} := by
    decide
  have hreach := LTS.Reachable.step oneRow_orderly ⟨heardOnRow_orderly, hheard⟩
  have hord : Orderly openSwitch o (.run 0 .success) := by
    refine ⟨.inl rfl, fun hw hmem q c hhead _ => ?_⟩
    have hq := hearly hw hmem q hhead
    omega
  exact ⟨o, o', hw, slot, row, hreach, hrun, hone, hrow, hne,
    row_mirrors_neighbors openSwitch rfl {} lldpOnly o o o' 0 hreach
      (Option.isNone_iff_eq_none.1 hidle) (.refl o) ⟨hord, hrun⟩ (hw, slot) hmem row hrow⟩

/-- Two neighbors on the interface, heard at 0 and at 100 and written. The
first has expired at 130. -/
def twoHeard : List OvsEvent :=
  [.daemon (.scan 0 1) none, heardOnRow, .run 0 .success,
    .daemon (.decode 0 (announcement [1] [2] [65]) 100 Lldp.zeroStack) none, .run 100 .success,
    .daemon (.cleanup 130) none]

/-- The row is cleared though there is a neighbor. -/
theorem mirror_broken_by_expiry : ∃ o o' hw slot,
    (ovs openSwitch {} lldpOnly).Reachable oneRow ∧
      twoHeard.foldlM (Ovs.step openSwitch) oneRow = some o ∧ o.confirmTxn = none ∧
      o.step openSwitch (.run 130 .success) = some o' ∧ o'.interfaces = [(hw, slot)] ∧
      slot.ifrow = some { lldpNeighborInfo := none } ∧ hw.hRports.length = 1 := by
  obtain ⟨o, hrun, hidle, o', hsync, ⟨hw, slot⟩, -, hone, hrow, hports⟩ :
      ∃ o ∈ twoHeard.foldlM (Ovs.step openSwitch) oneRow, o.confirmTxn.isNone = true ∧
      ∃ o' ∈ o.step openSwitch (.run 130 .success), ∃ x ∈ o'.interfaces, o'.interfaces = [x] ∧
        x.2.ifrow = some { lldpNeighborInfo := none } ∧ x.1.hRports.length = 1 := by
    decide
  exact ⟨o, o', hw, slot, LTS.reachable_of_guard oneRow_orderly, hrun,
    Option.isNone_iff_eq_none.1 hidle, hsync, hone, hrow, hports⟩

end Lldpd.Ovsdb
