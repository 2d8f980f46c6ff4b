import Lldpd.L3Daemon.Follow
import Lldpd.L3Daemon.RefCount
import Lldpd.L3Daemon.Shortcut

/-!
# Ageing

A neighbor lives as long as its last frame says. The time of that frame is
kept with the port, the lifetime with the chassis, and the chassis is shared:
a frame of the same chassis on another interface brings its own lifetime, and
a farewell there takes the neighbor away here (`aged_by_another_link`).

When no frame that is learnt gives another lifetime to a chassis that another
neighbor is attached to (`KeepsTtl`), and the reference counts do not wrap, a
neighbor that was heard at the time `t` with the lifetime `T` stays through
every cleanup before `t + T` and goes with the first one from then on
(`ageing_reachable`).
-/
namespace Lldpd
open Core

namespace Table

/-- The chassis of `q` has the lifetime that the last frame of `q` gives. -/
def Lives (e : Announcements) (h : Heap Chassis) (q : Port) : Prop :=
  ∃ f c p, q.pLastframe = some f ∧ e.heard f c p ∧ ∀ oc, q.chassis h = some oc → oc.cTtl = c.cTtl

def Punctual (e : Announcements) (t : Table) : Prop := ∀ q ∈ neighbors t.rows, Lives e t.chassis q

/-- A step that changes no lifetime that another neighbor depends on. -/
def SameTtl (t : Table) : Label → Prop
  | .learn c a others => ∀ q ∈ others, q.pChassis = some a → ∀ oc, t.chassis.deref a = some oc →
      oc.key = c.key → oc.cTtl = c.cTtl
  | _ => True

section Step
variable {e : Announcements} {t t' : Table}

theorem ttl_of_info {c c' : Chassis} (h : c.info = c'.info) : c.cTtl = c'.cTtl := by
  show c.info.cTtl = c'.info.cTtl
  rw [h]

theorem Punctual.step {l : Label} (hl : t.Layout) (hi : t.Identity e) (hp : t.Punctual e)
    (hsame : t.SameTtl l) (hst : Step e t l t') : t'.Punctual e := by
  refine forall_neighbors_step (fun _ _ => ttl_of_info) ?_ ?_ ?_ ?_ hl hi hst hp
  · rintro h h' q ⟨f, c, p, hf, hheard, hc⟩ httl
    refine ⟨f, c, p, hf, hheard, fun oc' hoc' => ?_⟩
    obtain ⟨oc, hoc, heq⟩ := httl oc' hoc'
    exact heq.symm.trans (hc oc hoc)
  · intro f c p h a oc hheard hd hinfo
    refine ⟨f, c, p, rfl, hheard, fun oc' hoc' => ?_⟩
    cases hd.symm.trans (show h.deref a = some oc' from hoc')
    exact ttl_of_info hinfo
  · rintro c a others rfl
    exact hsame
  · refine fun _ h q => ⟨fun _ hq => hq, fun mgmts q' => ?_⟩
    unfold addAddresses
    split
    · exact chassis_write fun _ _ _ => rfl
    · rfl

end Step

end Table

/-! ## The daemon -/

/-- A frame that is learnt gives no other lifetime to a chassis that another
neighbor is attached to. -/
def KeepsTtl (b : Build) (s : Daemon) : Event → Prop
  | .decode i frame _ stack => ∀ hw mode c p, s.gHardware[i]? = some hw →
      Takes b s hw stack frame mode c p →
      ∀ q ∈ s.otherPorts i hw c p, ∀ oc, q.chassis s.gChassis = some oc → oc.key = c.key →
        oc.cTtl = c.cTtl
  | _ => True

/-- The daemon, as long as the counts of references do not wrap and all
frames keep the lifetimes that others depend on. -/
def punctual (b : Build) (cfg : Config) (protocols : List Protocol) : LTS Daemon Event :=
  ((daemon b cfg protocols).restrict Daemon.FewPorts).guard (KeepsTtl b)

section Daemon
open Table
variable {b : Build} {cfg : Config} {protocols : List Protocol} {s s' : Daemon}

variable {frame : Bytes} {hw : Hardware} {r : Hardware × Daemon} {stack : Buffer 32} {ev : Event}
  {q : Port} {m : Msap} {ttl : UInt16} {t : Int}

/-- A frame that is not learnt is not a step of the table, or brings VLANs. -/
theorem decode_not_taken {i : Nat} {now : Int} (hget : s.gHardware[i]? = some hw)
    (h : lldpdDecode b now stack frame s hw = .ok r)
    (hnot : ∀ mode c p, ¬ Takes b s hw stack frame mode c p) :
    Daemon.table { r.2 with gHardware := r.2.gHardware.set i r.1 } = s.table ∨
      ∃ c p, TellsVlans b s stack frame c p := by
  obtain ⟨hw', s'⟩ := r
  have hsame : ∀ hw1 : Hardware, hw1.row = hw.row →
      Daemon.table { s with gHardware := s.gHardware.set i hw1 } = s.table := by
    intro hw1 hrow
    rw [@table_set s hw (hw1, s) i s.gChassis s.gLastrid s.nextAddr hget rfl, table_get hget, hrow]
  have hr := received h
  cases hr with
  | short hshort => exact .inl (hsame _ rfl)
  | duplicate hlong hdup => exact .inl (hsame _ (row_refresh ..))
  | ignored hlong hdup hnone => exact .inl (hsame _ rfl)
  | vlans hlong hdup htells => exact .inr ⟨_, _, htells⟩
  | refused ha hdup hfind hfull => exact .inl (hsame _ rfl)
  | learnt ht => exact absurd ht (hnot _ _ _)

theorem sameTtl_of_moves (hk : KeepsTtl b s ev)
    (htakes : ∀ i frame now stack hw mode c p n, ev = .decode i frame now stack →
      s.gHardware[i]? = some hw → lldpdGuessType s.gProtocols (decapsulate frame) = some mode →
      decodeMode b s.gConfig stack mode (decapsulate frame) = .ok (.neighbor c p, n) →
      Takes b s hw stack frame mode c p)
    {t : Table} {l : Label} (hm : Moves b s s' ev t l) : t.SameTtl l := by
  cases hm with
  | learn hget hguess hdec =>
    have ht := htakes _ _ _ _ _ _ _ _ _ rfl hget hguess hdec
    intro q hq hqa oc hd hkey
    obtain ⟨q, hmem, rfl⟩ := List.mem_map.1 (Multiset.mem_coe.1 hq)
    exact hk _ _ _ _ hget ht q hmem oc (Option.bind_eq_some_iff.2 ⟨_, hqa, hd⟩) hkey
  | _ => trivial

theorem punctual_event (hsteady : s.Steady cfg protocols) (hl : s.table.Layout)
    (hi : s.table.Identity (announcements b cfg protocols))
    (hp : s.table.Punctual (announcements b cfg protocols)) (hk : KeepsTtl b s ev)
    (hstep : s.step b ev = some s') : s'.table.Punctual (announcements b cfg protocols) := by
  have hsteps := step_simulated hsteady hstep
  have hmoves : (∀ t l, Moves b s s' ev t l → t.SameTtl l) →
      s'.table.Punctual (announcements b cfg protocols) := by
    intro hsame
    refine (hsteps.keeps (P := fun t => t.Layout ∧ t.Identity (announcements b cfg protocols) ∧
      t.Punctual (announcements b cfg protocols)) (fun t l t' ht hst => ?_) ⟨hl, hi, hp⟩).2.2
    obtain ⟨hl, hi, hp⟩ := ht
    exact ⟨hl.step hst.2, hi.step hl hst.2, hp.step hl hi (hsame t l hst.1) hst.2⟩
  cases Daemon.stepped hstep with
  | @decode i frame now stack hw r hget hdec =>
    by_cases ht : ∃ mode c p, Takes b s hw stack frame mode c p
    · obtain ⟨mode, c, p, ht⟩ := ht
      refine hmoves fun t l => sameTtl_of_moves hk ?_
      rintro _ _ _ _ hw' mode' c' p' n ⟨⟩ hget' hguess' hdec'
      cases hget.symm.trans hget'
      cases hguess'.symm.trans ht.announces.guess
      obtain ⟨n', hdec''⟩ := ht.announces.decode
      cases hdec'.symm.trans hdec''
      exact ht
    · have hnot : ∀ mode c p, ¬ Takes b s hw stack frame mode c p :=
        fun mode c p h => ht ⟨mode, c, p, h⟩
      rcases decode_not_taken hget hdec hnot with heq | ⟨c, p, mode, n, hguess, hvlans⟩
      · rw [heq]
        exact hp
      · refine hmoves fun t l => sameTtl_of_moves hk ?_
        rintro _ _ _ _ hw' mode' c' p' n ⟨⟩ hget' hguess' hdec'
        cases hguess.symm.trans hguess'
        cases hvlans.symm.trans hdec'
  | _ =>
    refine hmoves fun t l => sameTtl_of_moves hk ?_
    rintro _ _ _ _ _ _ _ _ _ ⟨⟩

theorem punctual_table (hs : (punctual b cfg protocols).Reachable s) :
    (daemon b cfg protocols).Reachable s ∧ s.table.Good ∧
      s.table.Punctual (announcements b cfg protocols) := by
  have hrestrict := LTS.reachable_of_guard hs
  refine ⟨LTS.reachable_of_restrict hrestrict, (good_of_fewPorts hrestrict).2, ?_⟩
  induction hs with
  | init hi =>
    obtain ⟨c, -, -, rfl⟩ := hi.1
    intro q hq
    simp [Daemon.table, rowsOf] at hq
  | step hs hst ih =>
    have hprev := LTS.reachable_of_guard hs
    obtain ⟨hsteady, hl, hi⟩ := identity_table (LTS.reachable_of_restrict hprev)
    exact punctual_event hsteady hl hi (ih hprev) hst.1 hst.2.1

/-! ## What the last frame of a neighbor says -/

/-- The last frame of the port announces the neighbor `m` and the lifetime
`ttl`. -/
def Port.LastSays (e : Announcements) (q : Port) (m : Msap) (ttl : UInt16) : Prop :=
  ∃ f c p, q.pLastframe = some f ∧ e.heard f c p ∧ Msap.of c p = m ∧ c.cTtl = ttl

def Hardware.Has (hw : Hardware) (h : Heap Chassis) (m : Msap) : Prop :=
  ∃ q ∈ hw.hRports, q.msap h = some m

/-- A port is the neighbor that its last frame announces, and its chassis has
the lifetime in that frame. -/
theorem lastSays_of_mem (hs : (punctual b cfg protocols).Reachable s)
    (hmem : hw ∈ s.gHardware) (hq : q ∈ hw.hRports) :
    ∃ m ttl oc, q.LastSays (announcements b cfg protocols) m ttl ∧ q.msap s.gChassis = some m ∧
      q.chassis s.gChassis = some oc ∧ oc.cTtl = ttl := by
  obtain ⟨hreach, hgood, hp⟩ := punctual_table hs
  obtain ⟨-, -, hi⟩ := identity_table hreach
  have hnb := mem_neighbors_table hmem hq
  obtain ⟨f, c, p, hf, hheard, httl⟩ := hp _ hnb
  obtain ⟨a, ha, hqa⟩ := hgood.live.attached _ (mem_ports_of_neighbors hnb)
  obtain ⟨oc, hoc⟩ := Option.isSome_iff_exists.1 (Heap.isSome_deref.2 ha)
  have hchassis : q.chassis s.gChassis = some oc := Option.bind_eq_some_iff.2 ⟨a, hqa, hoc⟩
  have hdup : isDuplicate f q = true := beq_iff_eq.2 hf
  exact ⟨_, _, oc, ⟨f, c, p, hf, hheard, rfl, rfl⟩,
    msap_of_duplicate hi hmem hq (by rw [hchassis]; rfl) hdup hheard, hchassis, httl oc hchassis⟩

theorem LastSays.unique {m' : Msap} {ttl' : UInt16}
    (h : q.LastSays (announcements b cfg protocols) m ttl)
    (h' : q.LastSays (announcements b cfg protocols) m' ttl') : m = m' ∧ ttl = ttl' := by
  obtain ⟨f, c, p, hf, hheard, rfl, rfl⟩ := h
  obtain ⟨f', c', p', hf', hheard', rfl, rfl⟩ := h'
  cases hf.symm.trans hf'
  obtain ⟨rfl, rfl⟩ := heard_unique hheard hheard'
  exact ⟨rfl, rfl⟩

/-- Which ports are the neighbor `m`, by their last frames. -/
theorem msap_iff_lastSays (hs : (punctual b cfg protocols).Reachable s)
    (hmem : hw ∈ s.gHardware) (hq : q ∈ hw.hRports) :
    q.msap s.gChassis = some m ↔ ∃ ttl, q.LastSays (announcements b cfg protocols) m ttl := by
  obtain ⟨m', ttl', oc, htold, hmsap, -, -⟩ := lastSays_of_mem hs hmem hq
  rw [hmsap, Option.some.injEq]
  constructor
  · rintro rfl
    exact ⟨ttl', htold⟩
  · rintro ⟨ttl, h⟩
    exact (LastSays.unique htold h).1

theorem expired_iff (hs : (punctual b cfg protocols).Reachable s) (hmem : hw ∈ s.gHardware)
    (hq : q ∈ hw.hRports) (htold : q.LastSays (announcements b cfg protocols) m ttl) (now : Int) :
    expired now s.gChassis q = true ↔ q.pLastupdate + ttl.toNat ≤ now := by
  obtain ⟨m', ttl', oc, htold', -, hoc, rfl⟩ := lastSays_of_mem hs hmem hq
  obtain ⟨rfl, rfl⟩ := LastSays.unique htold htold'
  unfold expired
  rw [hoc, decide_eq_true_eq]

/-! ## One event -/

/-- The interface has a port whose last frame came at the time `t` and says
this. -/
def Hardware.Heard (e : Announcements) (hw : Hardware) (m : Msap) (ttl : UInt16) (t : Int) : Prop :=
  ∃ q ∈ hw.hRports, q.LastSays e m ttl ∧ q.pLastupdate = t

theorem has_iff_heard (hs : (punctual b cfg protocols).Reachable s) (hmem : hw ∈ s.gHardware) :
    hw.Has s.gChassis m ↔ ∃ ttl t, hw.Heard (announcements b cfg protocols) m ttl t := by
  constructor
  · rintro ⟨q, hq, hmsap⟩
    obtain ⟨ttl, htold⟩ := (msap_iff_lastSays hs hmem hq).1 hmsap
    exact ⟨ttl, _, q, hq, htold, rfl⟩
  · rintro ⟨ttl, t, q, hq, htold, -⟩
    exact ⟨q, hq, (msap_iff_lastSays hs hmem hq).2 ⟨ttl, htold⟩⟩

theorem heard_congr {e : Announcements} {hw' : Hardware}
    (h : hw'.hRports.map (fun q => (q.pLastframe, q.pLastupdate)) =
      hw.hRports.map fun q => (q.pLastframe, q.pLastupdate)) :
    hw'.Heard e m ttl t ↔ hw.Heard e m ttl t := by
  have hone : ∀ {hw hw' : Hardware}, hw'.hRports.map (fun q => (q.pLastframe, q.pLastupdate)) =
      hw.hRports.map (fun q => (q.pLastframe, q.pLastupdate)) →
      hw.Heard e m ttl t → hw'.Heard e m ttl t := by
    rintro hw hw' h ⟨q, hq, ⟨f, c, p, hf, htold⟩, ht⟩
    have hmem := List.mem_map_of_mem (f := fun q : Port => (q.pLastframe, q.pLastupdate)) hq
    rw [← h] at hmem
    obtain ⟨q', hq', heq⟩ := List.mem_map.1 hmem
    simp only [Prod.mk.injEq] at heq
    exact ⟨q', hq', ⟨f, c, p, heq.1.trans hf, htold⟩, heq.2.trans ht⟩
  exact ⟨hone h.symm, hone h⟩

theorem exists_modifyFirst {α : Type} {f : α → Bool} {g : α → α} {P : α → Prop} {l : List α}
    (h : ∀ x, f x = true → ¬ P x ∧ ¬ P (g x)) :
    (∃ x ∈ modifyFirst f g l, P x) ↔ ∃ x ∈ l, P x := by
  induction l with
  | nil => rfl
  | cons x l ih =>
    unfold modifyFirst
    by_cases hx : f x = true
    · rw [if_pos hx]
      simp [(h x hx).1, (h x hx).2]
    · rw [if_neg hx]
      simp [ih]

/-- A frame that is not of the neighbor `m` does not change when `m` was
heard. -/
theorem heard_decode (hs : (punctual b cfg protocols).Reachable s) (hmem : hw ∈ s.gHardware)
    {now : Int} (h : lldpdDecode b now stack frame s hw = .ok r)
    (hother : ∀ c p, (announcements b cfg protocols).heard (decapsulate frame) c p → Msap.of c p ≠ m)
    :
    r.1.Heard (announcements b cfg protocols) m ttl t ↔
      hw.Heard (announcements b cfg protocols) m ttl t := by
  obtain ⟨hw', s'⟩ := r
  have hnot : ∀ q : Port, q.pLastframe = some (decapsulate frame) →
      ¬ q.LastSays (announcements b cfg protocols) m ttl := by
    rintro q hq ⟨f, c, p, hf, hheard, hm, -⟩
    cases hq.symm.trans hf
    exact hother c p hheard hm
  have hr := received h
  cases hr with
  | short hshort => exact Iff.rfl
  | duplicate hlong hdup =>
    refine exists_modifyFirst fun q hq => ?_
    have hframe : q.pLastframe = some (decapsulate frame) := eq_of_beq hq
    exact ⟨fun h => hnot q hframe h.1, fun h => hnot _ hframe h.1⟩
  | ignored hlong hdup hnone => exact Iff.rfl
  | vlans hlong hdup htells => exact heard_congr (map_attachVlans (fun _ _ => rfl) ..)
  | refused ha hdup hfind hfull => exact Iff.rfl
  | @learnt cnt mode c p ht =>
    have hsteady := (identity_table (punctual_table hs).1).1
    have hheard := ht.announces.heard hsteady
    obtain ⟨a, heq⟩ := @Takes.hRports b now frame c p s hw stack mode cnt ht
    unfold Hardware.Heard
    rw [heq]
    constructor
    · rintro ⟨q, hq, htold, hupd⟩
      rcases List.mem_append.1 hq with hq | hq
      · exact ⟨q, List.mem_of_mem_eraseP hq, htold, hupd⟩
      · rw [List.mem_singleton.1 hq] at htold
        exact absurd htold (hnot _ rfl)
    · rintro ⟨q, hq, htold, hupd⟩
      refine ⟨q, List.mem_append_left _ ((List.mem_eraseP_of_neg fun hm => ?_).2 hq), htold, hupd⟩
      have hmsap := (msap_iff_lastSays hs hmem hq).2 ⟨ttl, htold⟩
      rw [sameMsap_iff.1 hm] at hmsap
      exact hother _ _ hheard (Option.some.inj hmsap)

/-- The frame is accepted as one of the neighbor `m`, with the lifetime
`ttl`: it is learnt, or it is the last frame of the neighbor again. -/
inductive Accepts (b : Build) (s : Daemon) (hw : Hardware) (stack : Buffer 32) (frame : Bytes) :
    Msap → UInt16 → Prop where
  | learnt {mode c p} (ht : Takes b s hw stack frame mode c p) :
      Accepts b s hw stack frame (.of c p) c.cTtl
  | again {c p} (hlong : 18 ≤ frame.length)
      (hdup : hw.repeats frame = true)
      (hheard : (announcements b s.gConfig s.gProtocols).heard (decapsulate frame) c p) :
      Accepts b s hw stack frame (.of c p) c.cTtl

theorem perm_modifyFirst {α : Type} {f : α → Bool} (g : α → α) {l : List α} {x : α}
    (h : l.find? f = some x) : (modifyFirst f g l).Perm (g x :: l.eraseP f) := by
  induction l with
  | nil => cases h
  | cons y l ih =>
    unfold modifyFirst
    by_cases hy : f y = true
    · rw [List.find?_cons_of_pos hy] at h
      cases h
      rw [if_pos hy, List.eraseP_cons_of_pos hy]
    · rw [List.find?_cons_of_neg hy] at h
      rw [if_neg hy, List.eraseP_cons_of_neg hy]
      exact ((ih h).cons y).trans (.swap ..)

/-- After a frame of the neighbor `m`, it was heard just now and at no other
time. -/
theorem heard_accepts (hs : (punctual b cfg protocols).Reachable s) (hmem : hw ∈ s.gHardware)
    (h : lldpdDecode b t stack frame s hw = .ok r) (hacc : Accepts b s hw stack frame m ttl)
    (ttl' : UInt16) (t' : Int) :
    r.1.Heard (announcements b cfg protocols) m ttl' t' ↔ ttl' = ttl ∧ t' = t := by
  obtain ⟨hsteady, -, hi⟩ := identity_table (punctual_table hs).1
  have hdistinct := distinct_table hi hmem
  -- the port heard just now is the only one of this neighbor
  have hone : ∀ (q0 : Port) (f : Port → Bool), q0.LastSays (announcements b cfg protocols) m ttl →
      q0.pLastupdate = t → r.1.hRports.Perm (q0 :: hw.hRports.eraseP f) →
      (∀ q ∈ hw.hRports.eraseP f, q.msap s.gChassis ≠ some m) →
      (r.1.Heard (announcements b cfg protocols) m ttl' t' ↔ ttl' = ttl ∧ t' = t) := by
    intro q0 f htold0 ht0 hperm hnone
    constructor
    · rintro ⟨q, hq, htold, hupd⟩
      rcases List.mem_cons.1 (hperm.mem_iff.1 hq) with rfl | hq
      · exact ⟨(LastSays.unique htold htold0).2, hupd.symm.trans ht0⟩
      · exact absurd ((msap_iff_lastSays hs hmem (List.mem_of_mem_eraseP hq)).2 ⟨ttl', htold⟩)
          (hnone q hq)
    · rintro ⟨rfl, rfl⟩
      exact ⟨q0, hperm.mem_iff.2 List.mem_cons_self, htold0, ht0⟩
  cases hacc with
  | @learnt mode c p ht =>
    obtain ⟨cnt, hdec⟩ := ht.lldpdDecode t
    obtain rfl := Except.ok.inj (hdec.symm.trans h)
    obtain ⟨a, heq⟩ := @Takes.hRports b t frame c p s hw stack mode cnt ht
    refine hone (p.heardAt t (decapsulate frame) a)
      (sameMsap s.gChassis c p)
      ⟨_, _, _, rfl, ht.announces.heard hsteady, rfl, rfl⟩ rfl ?_ ?_
    · rw [heq]
      exact List.perm_append_singleton _ _
    · intro q hq
      exact not_mem_eraseP hdistinct hq
  | @again c p hlong hdup hheard =>
    obtain rfl := Except.ok.inj ((lldpdDecode_duplicate hlong hdup).symm.trans h)
    rw [hsteady.config, hsteady.protocols] at hheard
    obtain ⟨q0, hfind⟩ := Option.isSome_iff_exists.1 (List.find?_isSome.2 (List.any_eq_true.1 hdup))
    have hdup0 : isDuplicate (decapsulate frame) q0 = true := List.find?_some hfind
    have hframe : q0.pLastframe = some (decapsulate frame) := eq_of_beq hdup0
    have htold : q0.LastSays (announcements b cfg protocols) (.of c p) c.cTtl :=
      ⟨_, _, _, hframe, hheard, rfl, rfl⟩
    have hmsap := (msap_iff_lastSays hs hmem (List.mem_of_find?_eq_some hfind)).2 ⟨_, htold⟩
    refine hone { q0 with pLastupdate := t } (isDuplicate (decapsulate frame)) htold rfl
      (perm_modifyFirst (fun q : Port => { q with pLastupdate := t }) hfind) ?_
    intro q hq
    exact ne_of_mem_eraseP (f := fun q : Port => q.msap s.gChassis) hdistinct hfind hmsap hq

/-- A cleanup keeps the ports whose time is not over. -/
theorem heard_forget (hs : (punctual b cfg protocols).Reachable s)
    (hmem : hw ∈ s.gHardware) (now : Int) :
    (hw.forget b false (goes true false now s.gChassis)).Heard (announcements b cfg protocols)
        m ttl t ↔
      hw.Heard (announcements b cfg protocols) m ttl t ∧ now < t + ttl.toNat := by
  have hgoes : ∀ q ∈ hw.hRports, q.LastSays (announcements b cfg protocols) m ttl →
      ((!goes true false now s.gChassis q) = true ↔ now < q.pLastupdate + ttl.toNat) := by
    intro q hq htold
    have hexp := expired_iff hs hmem hq htold now
    unfold goes
    rw [Bool.false_or, Bool.true_and, Bool.not_eq_true', ← Bool.not_eq_true, hexp]
    omega
  constructor
  · rintro ⟨q, hq, htold, rfl⟩
    obtain ⟨hq, hstay⟩ := List.mem_filter.1 hq
    exact ⟨⟨q, hq, htold, rfl⟩, (hgoes q hq htold).1 hstay⟩
  · rintro ⟨⟨q, hq, htold, rfl⟩, hlt⟩
    exact ⟨q, List.mem_filter.2 ⟨hq, (hgoes q hq htold).2 hlt⟩, htold, rfl⟩

/-! ## Runs -/

/-- The event brings no frame of the neighbor `m` to the interface, and does
not clear its table. -/
def Visit.Leaves (b : Build) (cfg : Config) (protocols : List Protocol) (m : Msap) (v : Visit) :
    Prop :=
  match v.event with
  | .decode i frame _ _ => i = v.place →
      ∀ c p, (announcements b cfg protocols).heard (decapsulate frame) c p → Msap.of c p ≠ m
  | .remoteCleanup i _ _ _ => i ≠ v.place
  | _ => True

/-- The step lemma: only a cleanup from `t + ttl` on takes the neighbor away,
and nothing changes when it was heard. -/
theorem heard_step (hs : (punctual b cfg protocols).Reachable s) {i : Nat} {hw' : Hardware}
    (hmem : hw ∈ s.gHardware) (hst : Hardware.Step b s s' i hw ev hw')
    (hleaves : Visit.Leaves b cfg protocols m ⟨s, i, hw, ev, hw', s'⟩) :
    hw'.Heard (announcements b cfg protocols) m ttl t ↔
      hw.Heard (announcements b cfg protocols) m ttl t ∧
        ∀ now, ev = .cleanup now → now < t + ttl.toNat := by
  have hand : ∀ {A : Prop} {ev : Event}, (∀ now, ev ≠ .cleanup now) →
      (A ↔ A ∧ ∀ now, ev = .cleanup now → now < t + ttl.toNat) := by
    intro A ev hev
    exact ⟨fun hA => ⟨hA, fun now he => absurd he (hev now)⟩, And.left⟩
  cases hst with
  | scan => exact hand (by simp)
  | decode hdec hs' => exact (heard_decode hs hmem hdec (hleaves rfl)).trans (hand (by simp))
  | remoteCleanup => exact absurd rfl hleaves
  | cleanup =>
    rw [heard_forget hs hmem]
    simp
  | other hev =>
    refine hand fun now he => ?_
    subst he
    cases hev

theorem heard_run {w w' : Watch} {pre post : List Visit} {v : Visit}
    (hs : (punctual b cfg protocols).Reachable w.daemon)
    (hrun : Watch.Run (punctual b cfg protocols) w (pre ++ v :: post) w')
    (hleaves : ∀ u ∈ pre, u.Leaves b cfg protocols m) (hget : w.hardware = some hw)
    (hheard : ∀ ttl' t', hw.Heard (announcements b cfg protocols) m ttl' t' ↔ ttl' = ttl ∧ t' = t)
    (hbefore : ∀ u ∈ pre, ∀ now, u.event = .cleanup now → now < t + ttl.toNat) :
    (punctual b cfg protocols).Reachable v.daemon ∧ v.hardware ∈ v.daemon.gHardware ∧
      Hardware.Step b v.daemon v.daemonAfter v.place v.hardware v.event v.after ∧
      (punctual b cfg protocols).Reachable v.daemonAfter ∧ v.after ∈ v.daemonAfter.gHardware ∧
      ∀ ttl' t', v.hardware.Heard (announcements b cfg protocols) m ttl' t' ↔
        ttl' = ttl ∧ t' = t := by
  induction pre generalizing w hw with
  | nil =>
    cases hrun with
    | cons hget0 hstep hfollow hget1 hrun =>
      cases hget0.symm.trans hget
      obtain ⟨hw1, hget2, hst⟩ := Watch.step_cases hget0 hstep.2.1 hfollow
      cases hget1.symm.trans hget2
      exact ⟨hs, List.mem_of_getElem? hget0, hst, .step hs hstep, List.mem_of_getElem? hget1, hheard⟩
  | cons u pre ih =>
    cases hrun with
    | cons hget0 hstep hfollow hget1 hrun =>
      cases hget0.symm.trans hget
      obtain ⟨hw1, hget2, hst⟩ := Watch.step_cases hget0 hstep.2.1 hfollow
      cases hget1.symm.trans hget2
      refine ih (.step hs hstep) hrun (fun u hu => hleaves u (List.mem_cons_of_mem _ hu)) hget1
        (fun ttl' t' => ?_) fun u hu => hbefore u (List.mem_cons_of_mem _ hu)
      rw [heard_step hs (List.mem_of_getElem? hget0) hst (hleaves _ List.mem_cons_self), hheard]
      refine ⟨And.left, fun h => ⟨h, ?_⟩⟩
      obtain ⟨rfl, rfl⟩ := h
      exact hbefore _ List.mem_cons_self

/-- In every run that keeps the lifetimes others depend on: a neighbor whose
frame is accepted at the time `t` with the lifetime `ttl` is in the table. As
long as no other frame of it comes and no cleanup runs at `t + ttl` or later it
stays there, and the next cleanup takes it away if and only if it runs at
`t + ttl` or later. -/
theorem ageing_reachable (b : Build) (cfg : Config) (protocols : List Protocol) (w w' : Watch)
    (v₀ : Visit) (vs : List Visit) (hs : (punctual b cfg protocols).Reachable w.daemon)
    (hrun : Watch.Run (punctual b cfg protocols) w (v₀ :: vs) w') (frame : Bytes) (t : Int)
    (stack : Buffer 32) (hev : v₀.event = .decode v₀.place frame t stack) (m : Msap) (ttl : UInt16)
    (hacc : Accepts b v₀.daemon v₀.hardware stack frame m ttl) :
    v₀.after.Has v₀.daemonAfter.gChassis m ∧
      ∀ pre v post now, vs = pre ++ v :: post → v.event = .cleanup now →
        (∀ u ∈ pre, u.Leaves b cfg protocols m ∧
          ∀ now', u.event = .cleanup now' → now' < t + ttl.toNat) →
        v.hardware.Has v.daemon.gChassis m ∧
          (v.after.Has v.daemonAfter.gChassis m ↔ now < t + ttl.toNat) := by
  cases hrun with
  | @cons _ w1 _ ev hw hw1 _ hget hstep hfollow hget1 hrun =>
    have hev : ev = .decode w.place frame t stack := hev
    subst hev
    have hs1 : (punctual b cfg protocols).Reachable w1.daemon := .step hs hstep
    -- the frame is decoded on the interface, at the time `t`
    have hheard : ∀ ttl' t', hw1.Heard (announcements b cfg protocols) m ttl' t' ↔
        ttl' = ttl ∧ t' = t := by
      obtain ⟨hw2, hget2, hst⟩ := Watch.step_cases hget hstep.2.1 hfollow
      cases hget1.symm.trans hget2
      cases hst with
      | decode hdec hs' => exact heard_accepts hs (List.mem_of_getElem? hget) hdec hacc
      | other hne => simp [Event.concerns] at hne
    refine ⟨(has_iff_heard hs1 (List.mem_of_getElem? hget1)).2 ⟨ttl, t, (hheard ttl t).2 ⟨rfl, rfl⟩⟩, ?_⟩
    intro pre v post now hvs hcleanup hpre
    subst hvs
    obtain ⟨hsv, hmem, hst, hsv', hmem', hheardv⟩ := heard_run hs1 hrun
      (fun u hu => (hpre u hu).1) hget1 hheard fun u hu => (hpre u hu).2
    refine ⟨(has_iff_heard hsv hmem).2 ⟨ttl, t, (hheardv ttl t).2 ⟨rfl, rfl⟩⟩, ?_⟩
    have hleaves : v.Leaves b cfg protocols m := by
      unfold Visit.Leaves
      rw [hcleanup]
      trivial
    rw [has_iff_heard hsv' hmem']
    constructor
    · rintro ⟨ttl', t', hafter⟩
      obtain ⟨hbefore, hlt⟩ := (heard_step hsv hmem hst hleaves).1 hafter
      obtain ⟨rfl, rfl⟩ := (hheardv ttl' t').1 hbefore
      exact hlt now hcleanup
    · intro hlt
      refine ⟨ttl, t, (heard_step hsv hmem hst hleaves).2 ⟨(hheardv ttl t).2 ⟨rfl, rfl⟩, ?_⟩⟩
      intro now' hnow'
      cases hcleanup.symm.trans hnow'
      exact hlt

def oneScanned : Daemon :=
  { oneInterface with gHardware := [{ hFlags := 1, hLport := { pChassis := some 0 } }] }

theorem oneScanned_reachable : (punctual .full {} lldpOnly).Reachable oneScanned := by
  have halloc : (punctual .full {} lldpOnly).step (Daemon.started {} lldpOnly)
      .allocHardware { oneInterface with gHardware := [], detached := oneInterface.gHardware } :=
    ⟨trivial, rfl, by decide, by decide⟩
  have hadd : (punctual .full {} lldpOnly).step
      { oneInterface with gHardware := [], detached := oneInterface.gHardware } (.addHardware 0)
      oneInterface := ⟨trivial, rfl, by decide, by decide⟩
  have hscan : (punctual .full {} lldpOnly).step oneInterface (.scan 0 1) oneScanned :=
    ⟨trivial, rfl, by decide, by decide⟩
  exact .step (.step (.step (.init ⟨started_startUp, by decide⟩) halloc) hadd) hscan

/-- What `hello` says of its neighbor. -/
theorem announcement_lives : ∃ c p, Announces .full oneScanned Lldp.zeroStack
    hello .lldp c p ∧ c.cTtl = 120 := by
  obtain ⟨d, hd, httl⟩ : ∃ d ∈ (Lldp.lldpDecode .full Lldp.zeroStack
      (decapsulate hello)).toOption, d.chassis.cTtl = 120 := by
    decide
  have hdec : decodeMode .full oneScanned.gConfig Lldp.zeroStack .lldp
      (decapsulate hello) =
        .ok (.heard .lldp d.chassis d.port, d.hRxUnrecognizedCnt) := by
    unfold decodeMode
    rw [eq_ok_of_toOption hd]
  exact ⟨_, _, ⟨by decide, by decide, _, hdec⟩, httl⟩

theorem ageing_reachable_two_minutes : ∃ w w' v₀ v₁ v₂ m,
    (punctual .full {} lldpOnly).Reachable w.daemon ∧
      Watch.Run (punctual .full {} lldpOnly) w [v₀, v₁, v₂] w' ∧
      v₀.event = .greeting 0 ∧
      v₁.event = .cleanup 119 ∧ v₂.event = .cleanup 120 ∧
      v₀.after.Has v₀.daemonAfter.gChassis m ∧ v₁.after.Has v₁.daemonAfter.gChassis m ∧
      ¬ v₂.after.Has v₂.daemonAfter.gChassis m := by
  obtain ⟨s1, hs1, hfew1, hfew2, hfew3, hfollow1, hfollow2, ⟨hw1, hget1, -⟩, ⟨hw2, hget2, -⟩,
      hw3, hget3, -⟩ :
      ∃ s1 ∈ oneScanned.step .full (.greeting 0),
        let s2 := lldpdCleanup .full 119 s1
        let s3 := lldpdCleanup .full 120 s2
        s1.FewPorts ∧ s2.FewPorts ∧ s3.FewPorts ∧
          s1.follow 0 (.cleanup 119) = some 0 ∧ s2.follow 0 (.cleanup 120) = some 0 ∧
          (∃ _hw ∈ s1.gHardware[0]?, True) ∧ (∃ _hw ∈ s2.gHardware[0]?, True) ∧
          ∃ _hw ∈ s3.gHardware[0]?, True := by
    decide
  have hstep0 : (punctual .full {} lldpOnly).step oneScanned
      (.greeting 0) s1 := by
    refine ⟨?_, hs1, by decide, hfew1⟩
    intro hw mode c p hget _ q hq
    cases hget
    cases hq
  have hstep1 : (punctual .full {} lldpOnly).step s1 (.cleanup 119)
      (lldpdCleanup .full 119 s1) := ⟨trivial, rfl, hfew1, hfew2⟩
  have hstep2 : (punctual .full {} lldpOnly).step (lldpdCleanup .full 119 s1)
      (.cleanup 120) (lldpdCleanup .full 120 (lldpdCleanup .full 119 s1)) :=
    ⟨trivial, rfl, hfew2, hfew3⟩
  have hrun := Watch.Run.nil (M := punctual .full {} lldpOnly)
    ⟨lldpdCleanup .full 120 (lldpdCleanup .full 119 s1), 0⟩
  have hrun := @Watch.Run.cons _ ⟨_, 0⟩ ⟨_, 0⟩ _ _ hw2 hw3 _ hget2 hstep2 hfollow2 hget3 hrun
  have hrun := @Watch.Run.cons _ ⟨_, 0⟩ ⟨_, 0⟩ _ _ hw1 hw2 _ hget1 hstep1 hfollow1 hget2 hrun
  have hrun := @Watch.Run.cons _ ⟨_, 0⟩ ⟨_, 0⟩ _ _ _ hw1 _ rfl hstep0 rfl hget1 hrun
  obtain ⟨c, p, hannounces, httl⟩ := announcement_lives
  have htakes : Takes .full oneScanned { hFlags := 1, hLport := { pChassis := some 0 } }
      Lldp.zeroStack hello .lldp c p :=
    ⟨hannounces, by decide, fun _ h => h.1 rfl⟩
  obtain ⟨hhas, hages⟩ := ageing_reachable .full {} lldpOnly ⟨oneScanned, 0⟩ _ _ _
    oneScanned_reachable hrun _ 0 Lldp.zeroStack rfl _ c.cTtl (.learnt htakes)
  rw [httl] at hages
  obtain ⟨-, hkept⟩ := hages [] _ _ 119 rfl rfl (by simp)
  obtain ⟨-, hgone⟩ := hages [_] _ [] 120 rfl rfl (by
    intro u hu
    rw [List.mem_singleton.1 hu]
    refine ⟨trivial, fun now' hnow' => ?_⟩
    cases hnow'
    decide)
  exact ⟨_, _, _, _, _, _, oneScanned_reachable, hrun, rfl, rfl, rfl, hhas, hkept.2 (by decide),
    fun h => absurd (hgone.1 h) (by decide)⟩

/-! ## Two links to one chassis -/

/-- An LLDP frame with which a neighbor says goodbye: its lifetime is 0. -/
def farewell (chassisId portId : Bytes) : Bytes := helloFrame chassisId portId 0 []

/-- Two interfaces, and a neighbor on the first one. -/
def heardHere : List Event :=
  [.allocHardware, .allocHardware, .addHardware 0, .addHardware 0, .scan 0 1, .scan 1 1,
    .greeting 0]

/-- When the neighbors of an interface were heard, and how long they live. -/
def lifetimes (s : Daemon) (i : Nat) : Option (List (Int × Option UInt16)) :=
  s.gHardware[i]?.map fun hw =>
    hw.hRports.map fun q => (q.pLastupdate, (q.chassis s.gChassis).map Chassis.cTtl)

/-- The neighbor was heard at the time 0 and lives for 120 seconds. Another
port of its chassis says goodbye on the second interface, and the cleanup two
seconds later takes the neighbor away from the first. -/
theorem aged_by_another_link : ∃ s₀ s₁ s₂,
    (Daemon.started {} lldpOnly).run .full heardHere = some s₀ ∧
      lifetimes s₀ 0 = some [(0, some 120)] ∧
      s₀.step .full (.decode 1 (farewell [1] [2]) 1 Lldp.zeroStack) = some s₁ ∧
      lifetimes s₁ 0 = some [(0, some 0)] ∧
      s₁.step .full (.cleanup 2) = some s₂ ∧ lifetimes s₂ 0 = some [] := by
  obtain ⟨s₀, hs0, hlives, s₁, hs1, hends, hgone⟩ :
      ∃ s₀ ∈ (Daemon.started {} lldpOnly).run .full heardHere,
        lifetimes s₀ 0 = some [(0, some 120)] ∧
      ∃ s₁ ∈ s₀.step .full (.decode 1 (farewell [1] [2]) 1 Lldp.zeroStack),
        lifetimes s₁ 0 = some [(0, some 0)] ∧
          lifetimes (lldpdCleanup .full 2 s₁) 0 = some [] := by
    decide
  exact ⟨s₀, s₁, _, hs0, hlives, hs1, hends, rfl, hgone⟩

end Daemon

end Lldpd
