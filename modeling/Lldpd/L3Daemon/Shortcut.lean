import Lldpd.L3Daemon.Limit

/-!
# The shortcut for a frame that was seen before

`lldpd_decode` does not decode a frame that is the last one of a neighbor. It
compares with the frame of the port, but the chassis is shared: a frame on
another interface may have overwritten it since, and then the shortcut leaves
what that frame said where decoding would bring back what this one says
(`shortcut_stale`). An EDP frame with VLANs only has the same effect.

When no frame changes what is known of a chassis that another neighbor is
attached to (`Undisturbed`), a neighbor shows what its last frame says
(`Faithful`), and the shortcut is an optimisation (`shortcut_optimises`).
-/
namespace Lldpd
open Core

/-- What a frame says of a port: neither the chassis nor the frame itself,
nor when it came, nor what the daemon decides about it. -/
def Port.info (p : Port) : Port :=
  { p with
    pChassis := none
    pLastchange := 0
    pLastupdate := 0
    pLastframe := none
    pHiddenIn := false
    pHiddenOut := false }

/-- What the daemon shows of a neighbor. -/
def Port.visible (p : Port) (h : Heap Chassis) : Port × Option Chassis :=
  (p.info, (p.chassis h).map Chassis.info)

def Hardware.visible (hw : Hardware) (h : Heap Chassis) : List (Port × Option Chassis) :=
  hw.hRports.map (·.visible h)

def lldpdDecodeAnew (b : Build) (now : Int) (stack : Buffer 32) (frame : Bytes) (s : Daemon)
    (hw : Hardware) : Except Fault (Hardware × Daemon) :=
  if frame.length < 18 then .ok (hw, s)
  else decodeFrame b now stack (decapsulate frame) s
    { hw with hRportChangeOpcode := if b.ovsdb then .noop else hw.hRportChangeOpcode }

/-- A frame that does not change what is known of a chassis that another
neighbor is attached to, and brings no VLANs to a neighbor. -/
def Undisturbed (b : Build) (s : Daemon) : Event → Prop
  | .decode i frame _ stack => ∀ hw mode, s.gHardware[i]? = some hw →
      lldpdGuessType s.gProtocols (decapsulate frame) = some mode →
      match decodeMode b s.gConfig stack mode (decapsulate frame) with
      | .ok (.neighbor c p, _) =>
        ∀ q ∈ s.otherPorts i hw c p, ∀ oc, q.chassis s.gChassis = some oc → oc.key = c.key →
          oc.info = c.info
      | .ok (.vlans c _, _) => ∀ q ∈ hw.hRports, isEdpPort s.gChassis c q = false
      | _ => True
  | _ => True

namespace Table

def Calm (t : Table) : Label → Prop
  | .learn c a others => ∀ q ∈ others, q.pChassis = some a → ∀ oc, t.chassis.deref a = some oc →
      oc.key = c.key → oc.info = c.info
  | .note => False
  | _ => True

/-- The neighbor `q` shows what its last frame says. -/
def Shows (e : Announcements) (h : Heap Chassis) (q : Port) : Prop :=
  ∃ f c p, q.pLastframe = some f ∧ e.heard f c p ∧ q.info = p.info ∧
    ∀ oc, q.chassis h = some oc → oc.info = c.info

def Faithful (e : Announcements) (t : Table) : Prop := ∀ q ∈ neighbors t.rows, Shows e t.chassis q

/-! ## Steps -/

section Heap
variable {β : Type} {k : Chassis → β} {h : Heap Chassis} {q : Port} {a : Addr}
  {f : Chassis → Chassis}

theorem chassis_write (hf : ∀ oc, q.pChassis = some a → h.deref a = some oc → k (f oc) = k oc) :
    (q.chassis (h.write a f)).map k = (q.chassis h).map k := by
  unfold Port.chassis
  cases hq : q.pChassis with
  | none => rfl
  | some a' =>
    rw [Option.bind_some, Option.bind_some, Heap.deref_write]
    split
    · rename_i ha
      subst ha
      cases hd : h.deref a' with
      | none => rfl
      | some oc =>
        rw [Option.map_some, Option.map_some, Option.map_some, hf oc hq hd]
    · rfl

theorem chassis_portCleanup (hk : ∀ c, k (Chassis.release c) = k c) (q' : Port) :
    (q.chassis (lldpdPortCleanup h q')).map k = (q.chassis h).map k := by
  unfold lldpdPortCleanup
  split
  · exact chassis_write fun oc _ _ => hk oc
  · rfl

end Heap

section Step
variable {e : Announcements} {t t' : Table}

/-- Learning a neighbor does not change what is shown of the others, if the
chassis that they share with it shows the same. -/
theorem learn_others {β : Type} {k : Chassis → β} (hk : ∀ c c', c.info = c'.info → k c = k c')
    {c : Chassis} {a : Addr} {others : Multiset Port} (hl : t.Layout) (hi : t.Identity e)
    (hcalm : ∀ q ∈ others, q.pChassis = some a → ∀ oc, t.chassis.deref a = some oc →
      oc.key = c.key → k oc = k c) (hst : Step e t (.learn c a others) t') :
    ∀ q ∈ others, (q.chassis t'.chassis).map k = (q.chassis t.chassis).map k := by
  intro q hq
  cases hst with
  | @relearn l0 q0 ps R h n f c p a hheard hq0 hmsap =>
    obtain ⟨oc, hoc, hkey⟩ := (hi.stands q0 (by simp)).key_of_msap hheard hmsap
    obtain ⟨a', ha', hd⟩ := Option.bind_eq_some_iff.1 hoc
    cases hq0.symm.trans ha'
    refine chassis_write fun oc' hqa hd' => ?_
    cases hd.symm.trans hd'
    exact (hk (lldpdMoveChassis c oc) c rfl).trans (hcalm q hq hqa oc hd hkey).symm
  | @share l0 ps R h n f c oc p a hheard hnew hroom hmem hkey =>
    have hd := Heap.deref_of_mem hl.nodup hmem
    rw [Heap.write_write]
    refine chassis_write (f := fun x => (lldpdMoveChassis c x).retain) fun oc' hqa hd' => ?_
    cases hd.symm.trans hd'
    exact (hk (lldpdMoveChassis c oc).retain c rfl).trans (hcalm q hq hqa oc hd hkey).symm
  | @fresh l0 ps R h n f c p index hheard hnew hroom hkey =>
    rw [← neighbors_cons ⟨l0, ps⟩] at hq
    unfold Port.chassis
    cases hqa : q.pChassis with
    | none => rfl
    | some a' =>
      have hne : a' ≠ a := (hl.ports_lt q (mem_ports_of_neighbors hq) a' hqa).ne
      rw [Option.bind_some, Option.bind_some, Heap.deref_write, if_neg hne, Heap.deref_concat hne]

/-- What holds of every neighbor and sees of its chassis what `k` shows is kept
by a step that changes nothing of this for the others. -/
theorem forall_neighbors_step {β : Type} {k : Chassis → β} {P : Heap Chassis → Port → Prop}
    {l : Label} (hk : ∀ c c', c.info = c'.info → k c = k c')
    (hkept : ∀ h h' q, P h q → (∀ oc', q.chassis h' = some oc' →
      ∃ oc, q.chassis h = some oc ∧ k oc = k oc') → P h' q)
    (hlearnt : ∀ f c p h a oc, e.heard f c p → Heap.deref h a = some oc → oc.info = c.info →
      P h (p.learnt f a))
    (hcalm : ∀ c a others, l = .learn c a others → ∀ q ∈ others, q.pChassis = some a →
      ∀ oc, t.chassis.deref a = some oc → oc.key = c.key → k oc = k c)
    (hnote : l = .note → ∀ h q, (∀ vlans, P h q → P h { q with pVlans := vlans }) ∧
      ∀ mgmts q', (q.chassis (addAddresses mgmts h q')).map k = (q.chassis h).map k)
    (hl : t.Layout) (hi : t.Identity e) (hst : Step e t l t')
    (hp : ∀ q ∈ neighbors t.rows, P t.chassis q) : ∀ q ∈ neighbors t'.rows, P t'.chassis q := by
  have hmap {h h' : Heap Chassis} {q : Port} (hq : P h q)
      (heq : (q.chassis h').map k = (q.chassis h).map k) : P h' q := by
    refine hkept h h' q hq fun oc' hoc' => ?_
    rw [hoc'] at heq
    exact Option.map_eq_some_iff.1 heq.symm
  have hlearn : ∀ f c p a others, e.heard f c p → l = .learn c a others →
      (∀ q ∈ others, P t.chassis q) → ∀ q ∈ p.learnt f a ::ₘ others, P t'.chassis q := by
    rintro f c p a others hheard rfl hothers
    obtain ⟨oc, hd, hinfo⟩ := deref_learnt hl hst
    have hsame := learn_others hk hl hi (hcalm _ _ _ rfl) hst
    exact Multiset.forall_mem_cons.2 ⟨hlearnt _ _ _ _ _ _ hheard hd hinfo,
      fun q hq => hmap (hothers q hq) (hsame q hq)⟩
  cases hst with
  | relearn hheard =>
    rw [neighbors_cons, Multiset.cons_add] at hp ⊢
    exact hlearn _ _ _ _ _ hheard rfl (Multiset.forall_mem_cons.1 hp).2
  | share hheard =>
    rw [neighbors_cons] at hp
    rw [neighbors_cons, Multiset.cons_add]
    exact hlearn _ _ _ _ _ hheard rfl hp
  | fresh hheard =>
    rw [neighbors_cons] at hp
    rw [neighbors_cons, Multiset.cons_add]
    exact hlearn _ _ _ _ _ hheard rfl hp
  | note =>
    rw [forall_neighbors] at hp ⊢
    exact ⟨hmap ((hnote rfl _ _).1 _ hp.1) ((hnote rfl _ _).2 _ _),
      fun q hq => hmap (hp.2 q hq) ((hnote rfl _ _).2 _ _)⟩
  | plug =>
    simp only [neighbors_cons, zero_add]
    exact fun q hq => hmap (hp q hq) (chassis_write fun oc _ _ => hk oc.retain oc rfl)
  | forget =>
    rw [forall_neighbors] at hp
    rw [neighbors_cons]
    exact fun q hq => hmap (hp.2 q hq) (chassis_portCleanup (fun c => hk c.release c rfl) _)
  | unplug =>
    simp only [neighbors_cons, zero_add] at hp
    exact fun q hq => hmap (hp q hq) (chassis_portCleanup (fun c => hk c.release c rfl) _)
  | collect =>
    refine fun q hq => hkept _ _ q (hp q hq) fun oc hoc => ⟨oc, ?_, rfl⟩
    obtain ⟨a, ha, hd⟩ := Option.bind_eq_some_iff.1 hoc
    rw [Heap.deref_filter hl.nodup] at hd
    exact Option.bind_eq_some_iff.2 ⟨a, ha, (Option.filter_eq_some_iff.1 hd).1⟩

theorem Faithful.step {l : Label} (hl : t.Layout) (hi : t.Identity e) (hf : t.Faithful e)
    (hcalm : t.Calm l) (hst : Step e t l t') : t'.Faithful e := by
  refine forall_neighbors_step (fun _ _ hinfo => hinfo) ?_ ?_ ?_ ?_ hl hi hst hf
  · rintro h h' q ⟨f, c, p, hf, hheard, hinfo, hc⟩ hsame
    refine ⟨f, c, p, hf, hheard, hinfo, fun oc' hoc' => ?_⟩
    obtain ⟨oc, hoc, heq⟩ := hsame oc' hoc'
    exact heq.symm.trans (hc oc hoc)
  · intro f c p h a oc hheard hd hinfo
    refine ⟨f, c, p, rfl, hheard, rfl, fun oc' hoc' => ?_⟩
    cases hd.symm.trans (show h.deref a = some oc' from hoc')
    exact hinfo
  · rintro c a others rfl
    exact hcalm
  · rintro rfl
    exact absurd hcalm id

end Step

theorem faithful_reachable {e : Announcements} {t : Table}
    (h : ((machine e).guard Calm).Reachable t) : t.Layout ∧ t.Identity e ∧ t.Faithful e := by
  refine LTS.Inductive.reachable
    (P := fun t : Table => t.Layout ∧ t.Identity e ∧ t.Faithful e) ⟨fun t hinit => ?_, ?_⟩ t h
  · refine ⟨.init hinit, .init hinit, ?_⟩
    obtain ⟨c, -, -, rfl⟩ := hinit
    intro q hq
    simp at hq
  · rintro t l t' ⟨hl, hi, hf⟩ ⟨hcalm, hst⟩
    exact ⟨hl.step hst, hi.step hl hst, hf.step hl hi hcalm hst⟩

end Table

/-! ## The daemon -/

section Daemon
open Table
variable {b : Build} {cfg : Config} {protocols : List Protocol} {s : Daemon}

theorem calm_of_moves {s' : Daemon} {ev : Event} {t : Table} {l : Label} (hu : Undisturbed b s ev)
    (hm : Moves b s s' ev t l) : t.Calm l := by
  cases hm with
  | learn hget hguess hdec =>
    have hu := hu _ _ hget hguess
    rw [hdec] at hu
    intro q hq hqa oc hd hkey
    obtain ⟨q, hmem, rfl⟩ := List.mem_map.1 (Multiset.mem_coe.1 hq)
    exact hu q hmem oc (Option.bind_eq_some_iff.2 ⟨_, hqa, hd⟩) hkey
  | note hget hguess hdec hq hedp =>
    have hu := hu _ _ hget hguess
    rw [hdec] at hu
    rw [hu _ hq] at hedp
    cases hedp
  | _ => trivial

theorem faithful_table (hs : ((daemon b cfg protocols).guard (Undisturbed b)).Reachable s) :
    s.Steady cfg protocols ∧ s.table.Layout ∧ s.table.Identity (announcements b cfg protocols) ∧
      s.table.Faithful (announcements b cfg protocols) := by
  have hinit : ∀ s, ((daemon b cfg protocols).guard (Undisturbed b)).init s →
      (daemon b cfg protocols).init s := fun _ h => h
  obtain ⟨hsteady, hreach⟩ := table_reachable hinit
    (fun _ _ _ hst => ⟨hst.2, fun _ _ => calm_of_moves hst.1⟩) hs
  exact ⟨hsteady, faithful_reachable hreach⟩

variable {hw : Hardware} {frame : Bytes}

/-- Rows that are equal show the same. -/
theorem visible_of_row {hw' : Hardware} (h : Heap Chassis) (hrow : hw.row = hw'.row) :
    (hw.visible h).Perm (hw'.visible h) := by
  have hr : (↑(hw.hRports.map Port.untimed) : Multiset Port) = ↑(hw'.hRports.map Port.untimed) :=
    congrArg Row.rports hrow
  have hp := (Multiset.coe_eq_coe.1 hr).map (·.visible h)
  rwa [List.map_map, List.map_map] at hp

/-- A frame that was learnt once is never one with VLANs only. -/
theorem decodeMode_ne_vlans {stack stack' : Buffer 32} {mode : Mode} {c c' : Chassis} {p p' : Port}
    {n n' : Nat} (h : decodeMode b cfg stack mode frame = .ok (.neighbor c p, n)) :
    decodeMode b cfg stack' mode frame ≠ .ok (.vlans c' p', n') := by
  intro h'
  cases mode with
  | lldp =>
    unfold decodeMode at h'
    simp only at h'
    split at h' <;> cases h'
  | _ => cases h.symm.trans h'

/-- Two neighbors with one MSAP are one. -/
theorem eq_of_filterMap_nodup {α β : Type} {f : α → Option β} {l : List α}
    (hn : (l.filterMap f).Nodup) {x y : α} {z : β} (hx : x ∈ l) (hy : y ∈ l) (hxz : f x = some z)
    (hyz : f y = some z) : x = y := by
  induction l with
  | nil => cases hx
  | cons w l ih =>
    have hnot : ∀ v ∈ l, f v = some z → f w ≠ some z := by
      intro v hv hvz hwz
      rw [List.filterMap_cons_some hwz, List.nodup_cons] at hn
      exact hn.1 (List.mem_filterMap.2 ⟨v, hv, hvz⟩)
    have hn' : (l.filterMap f).Nodup := hn.sublist ((List.sublist_cons_self w l).filterMap f)
    rcases List.mem_cons.1 hx with rfl | hxl
    · rcases List.mem_cons.1 hy with rfl | hyl
      · rfl
      · exact absurd hxz (hnot y hyl hyz)
    · rcases List.mem_cons.1 hy with rfl | hyl
      · exact absurd hyz (hnot x hxl hxz)
      · exact ih hn' hxl hyl

/-- Decoding again the last frame of a neighbor changes nothing that is shown. -/
theorem learn_again (hl : s.table.Layout) (hi : s.table.Identity (announcements b cfg protocols))
    (hsteady : s.Steady cfg protocols) {i : Nat} (hget : s.gHardware[i]? = some hw) (hw0 : Hardware)
    (hrow : hw0.row = hw.row) (hports : hw0.hRports = hw.hRports) (now : Int) {c : Chassis}
    {p : Port} (hheard : (announcements b cfg protocols).heard frame c p) {q : Port}
    (hq : q ∈ hw.hRports) (hmsap : q.msap s.gChassis = some (.of c p))
    (hshow : q.visible s.gChassis = (p.info, some c.info)) :
    (hw.visible s.gChassis).Perm
        ((learn b now frame c p s hw0).1.visible (learn b now frame c p s hw0).2.gChassis) ∧
      ∀ other ∈ s.others i, other.visible s.gChassis =
        other.visible (learn b now frame c p s hw0).2.gChassis := by
  obtain ⟨q0, hfind⟩ : ∃ q0, oport s hw0 c p = some q0 := by
    rw [oport, hports]
    exact Option.ne_none_iff_exists'.1 ((find_sameMsap s.gChassis).2 ⟨q, hq, hmsap⟩)
  have hq0 : q0 = q := by
    have hmem := List.mem_of_find?_eq_some hfind
    rw [hports] at hmem
    exact eq_of_filterMap_nodup (distinct_table hi (List.mem_of_getElem? hget)) hmem hq
      (sameMsap_iff.1 (List.find?_some hfind)) hmsap
  subst hq0
  obtain ⟨a, hnew, hstep⟩ := @learn_step _ b now frame c p s hw0 hheard
    (by rw [hsteady.config]; rfl) (fun hnone => by rw [hfind] at hnone; cases hnone)
      (rowsOf (s.others i))
  rw [table_get hget, ← hrow] at hl hi
  -- the one chassis with this key already shows what the frame says
  have hcalm : Calm ⟨hw0.row ::ₘ rowsOf (s.others i), s.gChassis, s.nextAddr⟩
      (.learn c a (↑((kept s hw0 c p).map Port.untimed) +
        neighbors (rowsOf (s.others i)))) := by
    intro _ _ _ oc' hd' hkey'
    obtain ⟨oc, hoc, hinfo⟩ := Option.map_eq_some_iff.1 (congrArg Prod.snd hshow)
    obtain ⟨a0, -, hd⟩ := Option.bind_eq_some_iff.1 hoc
    have hsame := List.inj_on_of_nodup_map hi.keys (Heap.mem_of_deref hd) (Heap.mem_of_deref hd')
      ((key_of_info hinfo).trans hkey'.symm)
    cases hsame
    exact hinfo
  have hothers := learn_others (fun _ _ h => h) hl hi hcalm hstep
  obtain ⟨oc, hd, hinfo⟩ := deref_learnt hl hstep
  have hkept : ∀ q' : Port, q'.untimed ∈ (↑((kept s hw0 c p).map
      Port.untimed) + neighbors (rowsOf (s.others i)) : Multiset Port) →
      q'.visible s.gChassis = q'.visible (learn b now frame c p s hw0).2.gChassis :=
    fun q' hq' => congrArg (Prod.mk q'.info) (hothers _ hq').symm
  have hlearnt : (p.heardAt now frame a).visible (learn b now frame c p s hw0).2.gChassis =
      (p.info, some c.info) :=
    congrArg (Prod.mk p.info) (by rw [← hinfo]; exact congrArg (Option.map Chassis.info) hd)
  refine ⟨?_, fun other hother => List.map_congr_left fun q' hq' => hkept q' ?_⟩
  · have herase : (kept s hw0 c p).map (·.visible s.gChassis) =
        (kept s hw0 c p).map
          (·.visible (learn b now frame c p s hw0).2.gChassis) :=
      List.map_congr_left fun q' hq' => hkept q'
        (Multiset.mem_add.2 (.inl (Multiset.mem_coe.2 (List.mem_map_of_mem hq'))))
    have hperm := (perm_cons_eraseP hfind).map (·.visible s.gChassis)
    unfold Hardware.visible
    rw [hnew, List.map_append, List.map_singleton, hlearnt, ← herase, ← hports]
    rw [List.map_cons, hshow] at hperm
    exact hperm.trans (List.perm_append_singleton _ _).symm
  · refine Multiset.mem_add.2 (.inr (mem_neighbors.2 ⟨other.row, ?_, ?_⟩))
    · exact Multiset.mem_coe.2 (List.mem_map_of_mem hother)
    · exact Multiset.mem_coe.2 (List.mem_map_of_mem hq')

/-- The last frame of a neighbor, and what it shows. -/
theorem visible_of_duplicate (hf : s.table.Faithful (announcements b cfg protocols))
    (hmem : hw ∈ s.gHardware) {q : Port} (hq : q ∈ hw.hRports)
    (hlive : (q.chassis s.gChassis).isSome) (hdup : isDuplicate frame q = true) :
    ∃ c p, (announcements b cfg protocols).heard frame c p ∧
      q.visible s.gChassis = (p.info, some c.info) := by
  obtain ⟨f, c, p, hframe, hheard, hinfo, hc⟩ := hf _ (mem_neighbors_table hmem hq)
  have hlast : q.pLastframe = some frame := eq_of_beq hdup
  cases hlast.symm.trans hframe
  obtain ⟨oc, hoc⟩ := Option.isSome_iff_exists.1 hlive
  have hinfo : q.info = p.info := hinfo
  refine ⟨c, p, hheard, ?_⟩
  unfold Port.visible
  rw [hinfo, hoc, Option.map_some, hc oc hoc]

/-! ## With and without -/

def shownNames (r : Hardware × Daemon) : List (Option Bytes) :=
  (r.1.visible r.2.gChassis).map fun x => x.2.bind (·.cName)

/-- What the first interface shows behind the frame from `[1]` with the name
`[65]`: with the shortcut, if it is taken, and without. -/
def shownBehind (s : Daemon) : Option (List (Option Bytes) × List (Option Bytes)) :=
  match s.gHardware[0]? with
  | none => none
  | some hw =>
    if hw.hRports.any (isDuplicate hello) &&
        hw.hRports.all (fun q => (q.chassis s.gChassis).isSome) then
      match lldpdDecode .full 1 Lldp.zeroStack hello s hw,
        lldpdDecodeAnew .full 1 Lldp.zeroStack hello s hw with
      | .ok r, .ok r' => some (shownNames r, shownNames r')
      | _, _ => none
    else none

theorem shownBehind_eq_some {names names' : List (Option Bytes)}
    (h : shownBehind s = some (names, names')) :
    ∃ hw r r', s.gHardware[0]? = some hw ∧
      hw.hRports.any (isDuplicate hello) = true ∧
      (∀ q ∈ hw.hRports, (q.chassis s.gChassis).isSome) ∧
      lldpdDecode .full 1 Lldp.zeroStack hello s hw = .ok r ∧
      lldpdDecodeAnew .full 1 Lldp.zeroStack hello s hw = .ok r' ∧
      shownNames r = names ∧ shownNames r' = names' := by
  unfold shownBehind at h
  split at h
  · cases h
  rename_i hw hget
  split at h
  · rename_i hcond
    rw [Bool.and_eq_true, List.all_eq_true] at hcond
    split at h
    · rename_i r r' hr hr'
      cases h
      exact ⟨hw, r, r', hget, hcond.1, hcond.2, hr, hr', rfl, rfl⟩
    · cases h
  · cases h

/-- The shortcut does not fault where decoding would not. -/
theorem lldpdDecode_of_anew {now : Int} {stack : Buffer 32}
    {r' : Hardware × Daemon} (h' : lldpdDecodeAnew b now stack frame s hw = .ok r') :
    ∃ r, lldpdDecode b now stack frame s hw = .ok r := by
  unfold lldpdDecodeAnew at h'
  by_cases hshort : frame.length < 18
  · exact ⟨_, if_pos hshort⟩
  · rw [if_neg hshort] at h'
    by_cases hdup : hw.repeats frame = true
    · exact ⟨_, lldpdDecode_duplicate (Nat.not_lt.1 hshort) hdup⟩
    · exact ⟨r', (lldpdDecode_anew (Nat.not_lt.1 hshort) hdup).trans h'⟩

/-- In every run all of whose frames are `Undisturbed`, the shortcut is an
optimisation: with and without it the daemon shows the same, on the interface
of the frame and on the others. -/
theorem shortcut_optimises (b : Build) (cfg : Config) (protocols : List Protocol) (s : Daemon)
    (hs : ((daemon b cfg protocols).guard (Undisturbed b)).Reachable s) (i : Nat) (hw : Hardware)
    (hget : s.gHardware[i]? = some hw) (now : Int) (stack : Buffer 32) (frame : Bytes)
    (hlive : ∀ q ∈ hw.hRports, isDuplicate (decapsulate frame) q → (q.chassis s.gChassis).isSome)
    (r' : Hardware × Daemon) (h' : lldpdDecodeAnew b now stack frame s hw = .ok r') :
    ∃ r, lldpdDecode b now stack frame s hw = .ok r ∧
      (r.1.visible r.2.gChassis).Perm (r'.1.visible r'.2.gChassis) ∧
      ∀ other ∈ s.gHardware.eraseIdx i, other.visible r.2.gChassis = other.visible r'.2.gChassis := by
  obtain ⟨r, h⟩ := lldpdDecode_of_anew h'
  refine ⟨r, h, ?_⟩
  obtain ⟨hsteady, hl, hi, hf⟩ := faithful_table hs
  have hmem := List.mem_of_getElem? hget
  unfold lldpdDecode at h
  unfold lldpdDecodeAnew at h'
  simp only at h
  split at h
  · rename_i hshort
    rw [if_pos hshort] at h'
    cases h
    cases h'
    exact ⟨.refl _, fun _ _ => rfl⟩
  rename_i hshort
  rw [if_neg hshort] at h'
  split at h
  · rename_i hdup
    cases h
    have hvisible : ∀ cur op, (refresh b now cur (decapsulate frame)
        { hw with hRportChangeOpcode := op }).visible s.gChassis = hw.visible s.gChassis :=
      fun cur op => map_refresh _ _ _ _ { hw with hRportChangeOpcode := op } fun _ => rfl
    rw [hvisible]
    obtain ⟨q, hq, hqdup⟩ := List.any_eq_true.1 hdup
    obtain ⟨c, p, hheard, hshow⟩ := visible_of_duplicate hf hmem hq (hlive q hq hqdup) hqdup
    have hmsap := msap_of_duplicate hi hmem hq (hlive q hq hqdup) hqdup hheard
    obtain ⟨cnt, ⟨rfl, -⟩ | ⟨mode, c', p', n, hguess, hr⟩⟩ := decodeFrame_cases h'
    · exact ⟨visible_of_row _ rfl, fun _ _ => rfl⟩
    obtain ⟨mode', stack', n', hguess', hdec'⟩ := id hheard
    rw [← hsteady.protocols] at hguess'
    rw [← hsteady.config] at hdec'
    cases hguess.symm.trans hguess'
    rcases hr with ⟨hdec, -⟩ | ⟨hdec, rfl⟩
    · exact absurd hdec (decodeMode_ne_vlans hdec')
    · obtain ⟨rfl, rfl⟩ := decodeMode_stack hdec' hdec
      have hagain := learn_again hl hi hsteady hget ((hw.reset b).unrecognized cnt) rfl rfl now
        hheard hq hmsap hshow
      exact ⟨hagain.1, fun other hother => hagain.2 other (List.mem_append_left _ hother)⟩
  · cases h.symm.trans h'
    exact ⟨.refl _, fun _ _ => rfl⟩

def oneInterface : Daemon :=
  { Daemon.started {} lldpOnly with
    gHardware := [{ hLport := { pChassis := some 0 } }]
    gChassis := [(0, { cRefcount := 2 })] }

theorem oneInterface_reachable :
    ((daemon .full {} lldpOnly).guard (Undisturbed .full)).Reachable oneInterface := by
  have hrun : ([.allocHardware, .addHardware 0] : List Event).foldlM (Daemon.step .full)
      (Daemon.started {} lldpOnly) = some oneInterface := rfl
  exact LTS.reachable_guard_foldlM (by simp [Undisturbed]) (.init started_startUp) hrun

theorem oneInterface_undisturbed (frame : Bytes) (now : Int) (stack : Buffer 32) :
    Undisturbed .full oneInterface (.decode 0 frame now stack) := by
  intro hw mode hget hguess
  cases hget
  split
  · intro q hq
    cases hq
  · intro q hq
    cases hq
  · trivial

theorem shortcut_optimises_again : ∃ s hw r r',
    ((daemon .full {} lldpOnly).guard (Undisturbed .full)).Reachable s ∧
      s.gHardware[0]? = some hw ∧
      hw.hRports.any (isDuplicate hello) = true ∧
      lldpdDecode .full 1 Lldp.zeroStack hello s hw = .ok r ∧
      lldpdDecodeAnew .full 1 Lldp.zeroStack hello s hw = .ok r' ∧
      (r.1.visible r.2.gChassis).Perm (r'.1.visible r'.2.gChassis) := by
  obtain ⟨s, hs, hshown⟩ :
      ∃ s ∈ oneInterface.step .full (.greeting 0),
        shownBehind s = some ([some [65]], [some [65]]) := by
    decide
  obtain ⟨hw, -, r', hget, hdup, hlive, -, hr', -, -⟩ := shownBehind_eq_some hshown
  have hreach : ((daemon .full {} lldpOnly).guard (Undisturbed .full)).Reachable s :=
    .step oneInterface_reachable ⟨oneInterface_undisturbed _ _ _, hs⟩
  obtain ⟨r, hr, hshow, -⟩ := shortcut_optimises .full {} lldpOnly s hreach 0 hw hget 1
    Lldp.zeroStack _ (fun q hq _ => hlive q hq) r' hr'
  exact ⟨s, hw, r, r', hreach, hget, hdup, hr, hr', hshow⟩

/-- The second frame, on another interface, gives the chassis another name. -/
def renamedElsewhere : List Event :=
  [.allocHardware, .allocHardware, .addHardware 0, .addHardware 0,
    .greeting 0,
    .decode 1 (announcement [1] [2] [66]) 0 Lldp.zeroStack]

/-- The first interface hears its neighbor again. The shortcut leaves the name
from the other interface, decoding would bring back the one in the frame. -/
theorem shortcut_stale : ∃ s hw r r',
    (Daemon.started {} lldpOnly).run .full renamedElsewhere = some s ∧
      (daemon .full {} lldpOnly).Reachable s ∧ s.gHardware[0]? = some hw ∧
      hw.hRports.any (isDuplicate hello) = true ∧
      (∀ q ∈ hw.hRports, (q.chassis s.gChassis).isSome) ∧
      lldpdDecode .full 1 Lldp.zeroStack hello s hw = .ok r ∧
      lldpdDecodeAnew .full 1 Lldp.zeroStack hello s hw = .ok r' ∧
      shownNames r = [some [66]] ∧ shownNames r' = [some [65]] ∧
      ¬ (r.1.visible r.2.gChassis).Perm (r'.1.visible r'.2.gChassis) := by
  obtain ⟨s, hs, hshown⟩ :
      ∃ s ∈ (Daemon.started {} lldpOnly).run .full renamedElsewhere,
        shownBehind s = some ([some [66]], [some [65]]) := by
    decide
  obtain ⟨hw, r, r', hget, hdup, hlive, hr, hr', hn, hn'⟩ := shownBehind_eq_some hshown
  refine ⟨s, hw, r, r', hs, started_run_reachable hs, hget, hdup, hlive, hr, hr', hn, hn', fun hp => ?_⟩
  have hnames : (shownNames r).Perm (shownNames r') := hp.map _
  rw [hn, hn'] at hnames
  exact absurd hnames (by decide)

end Daemon

end Lldpd
