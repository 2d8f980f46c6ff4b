import Lldpd.L2Proto.Edp.Safety

/-!
# The bytes behind the checksum

The checksum of an EDP frame covers `edp_len` bytes, and the loop over the TLVs
goes on to the end of the frame. What follows the covered part `w` of a frame
has no say if the loop is over before the end of `w`, or if nothing that follows
can have the frame accepted. `settled` computes that from `w`:

* if `settled b cfg w`, every frame that starts with `w` is heard in the same way
  (`heard_settled`);
* else one that starts with `w` is refused (`heard_refused`) and another one is
  not (`heard_accepted`).
-/
namespace Lldpd.Edp
open Core

/-! ## The loop, without its fuel -/

def decodeTlvs (b : Build) (rest : Bytes) (d : Dec) : Run Dec Dec :=
  decodeLoop b .frame (rest.length + 1) rest d

section Loop
variable {b : Build} {d d' : Dec} {m t y z : UInt8} {r payload after : Bytes}

theorem decodeTlvs_end (r : Bytes) (hd : d.gotend = true) : decodeTlvs b r d = .ok d := by
  rw [decodeTlvs, decodeLoop, if_pos (.inr hd)]

theorem decodeTlvs_step (hr : r ≠ []) (hd : d.gotend = false) :
    decodeTlvs b r d = (headAt r).step b r d >>= fun next => decodeTlvs b next.2 next.1 := by
  rw [decodeTlvs, decodeLoop, if_neg (by simp [hr, hd]), decodeStep_eq]
  cases hstep : (headAt r).step b r d with
  | error e => rfl
  | ok next =>
    have hlen := Head.length_step hstep
    exact decodeLoop_fuel .frame (by omega) (Nat.lt_succ_self _) next.1

theorem decodeTlvs_short (hr : r ≠ []) (hlen : r.length < 4) (hd : d.gotend = false) :
    decodeTlvs b r d = .error (.refused d) := by
  rw [decodeTlvs_step hr hd, headAt_short hlen]
  rfl

theorem decodeTlvs_noMarker (hm : m ≠ EDP_TLV_MARKER) (hd : d.gotend = false) :
    decodeTlvs b (m :: t :: y :: z :: r) d = .error (.refused d) := by
  rw [decodeTlvs_step (List.cons_ne_nil _ _) hd, headAt_noMarker hm]
  rfl

theorem decodeTlvs_small (hs : (be16 y z).toNat < 4) (hd : d.gotend = false) :
    decodeTlvs b (EDP_TLV_MARKER :: t :: y :: z :: r) d = .ok { d with gotend := true } := by
  rw [decodeTlvs_step (List.cons_ne_nil _ _) hd, headAt_small hs]
  exact decodeTlvs_end _ rfl

theorem decodeTlvs_cut (hc : r.length + 4 < (be16 y z).toNat) (hd : d.gotend = false) :
    decodeTlvs b (EDP_TLV_MARKER :: t :: y :: z :: r) d = .ok { d with gotend := true } := by
  rw [decodeTlvs_step (List.cons_ne_nil _ _) hd, headAt_cut hc]
  exact decodeTlvs_end _ rfl

theorem decodeTlvs_tlv (hs : (be16 y z).toNat = payload.length + 4) (hd : d.gotend = false) :
    decodeTlvs b (EDP_TLV_MARKER :: t :: y :: z :: (payload ++ after)) d =
      decodeTlv b t.toNat payload.length ⟨payload, 0⟩ d >>= decodeTlvs b after := by
  rw [decodeTlvs_step (List.cons_ne_nil _ _) hd, headAt_tlv hs, Head.step]
  cases decodeTlv b t.toNat payload.length ⟨payload, 0⟩ d with
  | error e => rfl
  | ok d' => rfl

end Loop

/-! ## Where the covered part leaves the loop -/

inductive Walk where
  /-- it is over -/
  | ended (r : Run Dec Dec)
  /-- it needs what follows `rest` -/
  | more (rest : Bytes) (d : Dec)

/-- The iterations that the bytes `rest` decide, whatever follows them. -/
def walk (b : Build) : Nat → Bytes → Dec → Walk
  | 0, rest, d => .more rest d
  | fuel + 1, rest, d =>
    if d.gotend then .ended (.ok d)
    else match headAt rest with
      | .short | .cut => .more rest d
      | .noMarker => .ended (.error (.refused d))
      | .small => .ended (.ok { d with gotend := true })
      | .tlv type payload after =>
        match decodeTlv b type payload.length ⟨payload, 0⟩ d with
        | .ok d => walk b fuel after d
        | .error e => .ended (.error e)

/-- What a walk promises about every frame that goes on with `u`. -/
def Walk.Promise (b : Build) (rest : Bytes) (d : Dec) : Walk → Prop
  | .ended r => ∀ u, decodeTlvs b (rest ++ u) d = r
  | .more rest' d' => (∀ u, decodeTlvs b (rest ++ u) d = decodeTlvs b (rest' ++ u) d') ∧
      (headAt rest' = .short ∨ headAt rest' = .cut) ∧ d'.gotend = false ∧
      d'.chassis.cId = d.chassis.cId

section Walk
variable {b : Build} {d : Dec} {rest : Bytes} {fuel : Nat}

/-- Run lemma. -/
theorem walk_promise (h : rest.length < fuel) (d : Dec) :
    (walk b fuel rest d).Promise b rest d := by
  induction fuel generalizing rest d with
  | zero => exact absurd h (Nat.not_lt_zero _)
  | succ fuel ih =>
    rw [walk]
    by_cases hd : d.gotend = true
    · rw [if_pos hd]
      intro u
      exact decodeTlvs_end _ hd
    rw [if_neg hd]
    rw [Bool.not_eq_true] at hd
    cases headed rest with
    | short hlen =>
      rw [headAt_short hlen]
      exact ⟨fun u => rfl, .inl (headAt_short hlen), hd, rfl⟩
    | noMarker hm =>
      rw [headAt_noMarker hm]
      intro u
      exact decodeTlvs_noMarker hm hd
    | small hs =>
      rw [headAt_small hs]
      intro u
      exact decodeTlvs_small hs hd
    | cut hc =>
      rw [headAt_cut hc]
      exact ⟨fun u => rfl, .inr (headAt_cut hc), hd, rfl⟩
    | @tlv t y z payload after hs =>
      rw [headAt_tlv hs]
      dsimp only
      have hrun (u : Bytes) : decodeTlvs b
          ((EDP_TLV_MARKER :: t :: y :: z :: (payload ++ after)) ++ u) d =
            decodeTlv b t.toNat payload.length ⟨payload, 0⟩ d >>= decodeTlvs b (after ++ u) := by
        rw [show (EDP_TLV_MARKER :: t :: y :: z :: (payload ++ after)) ++ u =
          EDP_TLV_MARKER :: t :: y :: z :: (payload ++ (after ++ u)) by simp]
        exact decodeTlvs_tlv hs hd
      obtain ⟨-, d', hkept, hok⟩ | ⟨-, herror⟩ := decodeTlv_cases b t.toNat payload d
      · rw [hok] at hrun ⊢
        simp only [List.length_cons, List.length_append] at h
        have hnext := ih (show after.length < fuel by omega) d'
        dsimp only
        cases hwalk : walk b fuel after d' with
        | ended r =>
          rw [hwalk] at hnext
          intro u
          rw [hrun u]
          exact hnext u
        | more rest'' d'' =>
          rw [hwalk] at hnext
          obtain ⟨hnext, hhead, hgotend, hid⟩ := hnext
          refine ⟨fun u => ?_, hhead, hgotend, hid.trans hkept.cId⟩
          rw [hrun u]
          exact hnext u
      · rw [herror] at hrun ⊢
        exact hrun

end Walk

/-! ## What can follow -/

def heard (b : Build) (r : Run Dec Dec) : Option Decoded := (r >>= finish b).toOption

/-- The TLV at the start of `rest`, not `EDP_TLV_NULL`, has a length it may have, or can
still get one. -/
def goesOn (b : Build) (type : UInt8) (rest : Bytes) : Bool :=
  type.toNat ≠ EDP_TLV_NULL && match rest with
    | y :: z :: _ => tlvFits b type.toNat ((be16 y z).toNat - 4)
    | _ => true

/-- The loop stands at `rest`, and nothing that follows can have the frame accepted: there
is no marker, or a TLV that must end the frame when something is missing. -/
def hopeless (b : Build) (d : Dec) : Bytes → Bool
  | [] => false
  | [m] => m ≠ EDP_TLV_MARKER
  | m :: t :: rest => m ≠ EDP_TLV_MARKER ||
      (!goesOn b t rest && (heard b (.ok { d with gotend := true })).isNone)

section Follow
variable {b : Build} {d : Dec} {rest : Bytes}

theorem heard_refuse (d : Dec) : heard b (.error (.refused d)) = none := rfl

/-- What a sender says of itself in a frame without VLANs. -/
def announcement : Bytes := edpBody {} [] 0 {} 0

theorem heard_announcement (hid : d.chassis.cId ≠ none) (hd : d.gotend = false) :
    ∃ d', heard b (decodeTlvs b announcement d) = some (.neighbor d') := by
  have hdisplay : Decodes b [displayTlv {}] d _ := decodes_display (by decide) hd
  have hdec := hdisplay.append (decodes_info [] 0 hd)
  have hloop := decodeLoop_sent hdec hd
  have hbody : announcement = ([displayTlv {}] ++ [infoTlv [] 0]).flatMap encodeTlv ++
      encodeTlv ⟨EDP_TLV_NULL, []⟩ := rfl
  rw [hbody, heard, decodeTlvs, hloop, ok_bind, finish, if_neg (by simp [hid])]
  exact ⟨_, rfl⟩

variable {t y z : UInt8}

theorem heard_tlv {payload : Bytes} (hs : (be16 y z).toNat = payload.length + 4)
    (hfits : tlvFits b t.toNat payload.length = true) (htype : t.toNat ≠ EDP_TLV_NULL)
    (hid : d.chassis.cId ≠ none) (hd : d.gotend = false) :
    ∃ d', heard b (decodeTlvs b (EDP_TLV_MARKER :: t :: y :: z :: (payload ++ announcement)) d) =
      some (.neighbor d') := by
  obtain ⟨-, d', hkept, hok⟩ | ⟨hunfit, -⟩ := decodeTlv_cases b t.toNat payload d
  · rw [decodeTlvs_tlv hs hd, hok]
    exact heard_announcement (hkept.cId ▸ hid) ((hkept.gotend htype).trans hd)
  · cases hfits.symm.trans hunfit

theorem goesOn_type (h : goesOn b t rest = true) : t.toNat ≠ EDP_TLV_NULL := by
  rw [goesOn.eq_def, Bool.and_eq_true] at h
  exact of_decide_eq_true h.1

theorem goesOn_fits (h : goesOn b t (y :: z :: rest) = true) :
    tlvFits b t.toNat ((be16 y z).toNat - 4) = true := by
  rw [goesOn, Bool.and_eq_true] at h
  exact h.2

theorem goesOn_append (h : goesOn b t rest = false) (u : Bytes) :
    goesOn b t (rest ++ u) = false := by
  match rest with
  | _ :: _ :: _ => exact h
  | [] | [_] =>
    unfold goesOn at h ⊢
    rw [Bool.and_true] at h
    rw [h, Bool.false_and]

section
variable (h : hopeless b d rest = true)
include h

theorem hopeless_append (u : Bytes) : hopeless b d (rest ++ u) = true := by
  match rest, u with
  | [m], [] => exact h
  | [m], t :: u =>
    have hm : decide (m ≠ EDP_TLV_MARKER) = true := h
    show hopeless b d (m :: t :: u) = true
    rw [hopeless, hm, Bool.true_or]
  | m :: t :: rest, u =>
    show hopeless b d (m :: t :: (rest ++ u)) = true
    rw [hopeless, Bool.or_eq_true, Bool.and_eq_true, Bool.not_eq_true'] at h ⊢
    exact h.imp_right fun h => ⟨goesOn_append h.1 u, h.2⟩

theorem heard_of_hopeless (hd : d.gotend = false) : heard b (decodeTlvs b rest d) = none := by
  match rest with
  | [m] => rw [decodeTlvs_short (List.cons_ne_nil _ _) (by simp) hd, heard_refuse]
  | [m, t] => rw [decodeTlvs_short (List.cons_ne_nil _ _) (by simp) hd, heard_refuse]
  | [m, t, y] => rw [decodeTlvs_short (List.cons_ne_nil _ _) (by simp) hd, heard_refuse]
  | m :: t :: y :: z :: r =>
    rw [hopeless, Bool.or_eq_true, Bool.and_eq_true, Option.isNone_iff_eq_none] at h
    cases headed (m :: t :: y :: z :: r) with
    | short hlen =>
      simp only [List.length_cons] at hlen
      omega
    | noMarker hm => rw [decodeTlvs_noMarker hm hd, heard_refuse]
    | small hs =>
      rw [decodeTlvs_small hs hd]
      exact (h.resolve_left (by simp)).2
    | cut hc =>
      rw [decodeTlvs_cut hc hd]
      exact (h.resolve_left (by simp)).2
    | @tlv _ _ _ payload after hs =>
      obtain ⟨hstop, hnone⟩ := h.resolve_left (by simp)
      rw [decodeTlvs_tlv hs hd]
      obtain ⟨hfits, -⟩ | ⟨-, herror⟩ := decodeTlv_cases b t.toNat payload d
      · -- the only TLV that may have its length and still does not go on
        have htype : t.toNat = EDP_TLV_NULL := by
          rw [goesOn, hs, Nat.add_sub_cancel, hfits] at hstop
          simpa using hstop
        rw [htype] at hfits ⊢
        have hzero : payload.length = 0 := of_decide_eq_true hfits
        rw [hzero]
        show heard b (decodeTlvs b after { d with gotend := true }) = none
        rw [decodeTlvs_end after rfl]
        exact hnone
      · rw [herror]
        rfl

/-- No continuation of a hopeless frame is accepted. -/
theorem heard_hopeless (hd : d.gotend = false) (u : Bytes) :
    heard b (decodeTlvs b (rest ++ u) d) = none :=
  heard_of_hopeless (hopeless_append h u) hd

end

theorem tlvFits_of_le {type len : Nat} (htype : type ≠ EDP_TLV_NULL) (hlen : 32 ≤ len) :
    tlvFits b type len = true := by
  unfold tlvFits
  split
  · exact decide_eq_true hlen
  · exact absurd rfl htype
  · rw [decide_eq_true (show 12 ≤ len by omega), Bool.or_true]
  · rfl

theorem headAt_cut_size {r : Bytes}
    (h : headAt (EDP_TLV_MARKER :: t :: y :: z :: r) = .short ∨
      headAt (EDP_TLV_MARKER :: t :: y :: z :: r) = .cut) : r.length + 4 < (be16 y z).toNat := by
  cases headed (EDP_TLV_MARKER :: t :: y :: z :: r) with
  | short hlen =>
    simp only [List.length_cons] at hlen
    omega
  | noMarker hm => exact absurd rfl hm
  | small hs =>
    rw [headAt_small hs] at h
    simp at h
  | cut hc => exact hc
  | tlv hs =>
    rw [headAt_tlv hs] at h
    simp at h

theorem heard_accepted (h : hopeless b d rest = false)
    (hhead : headAt rest = .short ∨ headAt rest = .cut) (hid : d.chassis.cId ≠ none)
    (hd : d.gotend = false) :
    ∃ u, (∃ d', heard b (decodeTlvs b (rest ++ u) d) = some (.neighbor d')) ∨
      heard b (decodeTlvs b (rest ++ u) d) = heard b (.ok { d with gotend := true }) ∧
        heard b (.ok { d with gotend := true }) ≠ none := by
  match rest with
  | [] => exact ⟨announcement, .inl (heard_announcement hid hd)⟩
  | [m] =>
    have hm : m = EDP_TLV_MARKER := by simpa [hopeless] using h
    subst hm
    refine ⟨1 :: 0 :: 36 :: (List.replicate 32 0 ++ announcement), .inl ?_⟩
    exact heard_tlv rfl rfl (by decide) hid hd
  | m :: t :: r =>
    rw [hopeless, Bool.or_eq_false_iff, Bool.and_eq_false_iff, Bool.not_eq_false'] at h
    have hm : m = EDP_TLV_MARKER := by simpa using h.1
    subst hm
    rcases h.2 with hon | hsome
    · have htype := goesOn_type hon
      match r, hon, hhead with
      | [], _, _ =>
        refine ⟨0 :: 36 :: (List.replicate 32 0 ++ announcement), .inl ?_⟩
        exact heard_tlv rfl (tlvFits_of_le htype (by decide)) htype hid hd
      | [y], _, _ =>
        refine ⟨36 :: (List.replicate (y.toNat * 256 + 32) 0 ++ announcement), .inl ?_⟩
        refine heard_tlv ?_ (tlvFits_of_le htype ?_) htype hid hd
        · simp
        · simp
      | y :: z :: r, hon, hhead =>
        have hcut := headAt_cut_size hhead
        have hlen : (r ++ List.replicate ((be16 y z).toNat - 4 - r.length) 0).length =
            (be16 y z).toNat - 4 := by
          rw [List.length_append, List.length_replicate]
          omega
        refine ⟨List.replicate ((be16 y z).toNat - 4 - r.length) 0 ++ announcement, .inl ?_⟩
        show ∃ d', heard b (decodeTlvs b (EDP_TLV_MARKER :: t :: y :: z :: (r ++ (_ ++ _))) d) = _
        rw [← List.append_assoc]
        exact heard_tlv (by omega) (by rw [hlen]; exact goesOn_fits hon) htype hid hd
    · have hsome : heard b (.ok { d with gotend := true }) ≠ none := by
        intro hnone
        simp [hnone] at hsome
      match r, hhead with
      | [], _ =>
        refine ⟨[255, 255], .inr ⟨?_, hsome⟩⟩
        exact congrArg (heard b) (decodeTlvs_cut (by decide) hd)
      | [y], _ =>
        refine ⟨[255], .inr ⟨?_, hsome⟩⟩
        exact congrArg (heard b) (decodeTlvs_cut (by simp) hd)
      | y :: z :: r, hhead =>
        refine ⟨[], .inr ⟨?_, hsome⟩⟩
        rw [List.append_nil]
        exact congrArg (heard b) (decodeTlvs_cut (headAt_cut_size hhead) hd)

/-- Some continuation is refused. -/
theorem heard_refused (hhead : headAt rest = .short ∨ headAt rest = .cut) (hd : d.gotend = false) :
    ∃ u, heard b (decodeTlvs b (rest ++ u) d) = none := by
  have hbyte {d : Dec} (hd : d.gotend = false) : heard b (decodeTlvs b [0] d) = none := by
    rw [decodeTlvs_short (List.cons_ne_nil _ _) (by decide) hd, heard_refuse]
  cases headed rest with
  | short hlen =>
    by_cases hr : rest = []
    · subst hr
      exact ⟨[0], hbyte hd⟩
    · refine ⟨[], ?_⟩
      rw [List.append_nil, decodeTlvs_short hr hlen hd, heard_refuse]
  | noMarker hm =>
    rw [headAt_noMarker hm] at hhead
    simp at hhead
  | small hs =>
    rw [headAt_small hs] at hhead
    simp at hhead
  | tlv hs =>
    rw [headAt_tlv hs] at hhead
    simp at hhead
  | @cut t y z r hc =>
    -- the rest of its value and one byte
    have hlen : (r ++ List.replicate ((be16 y z).toNat - 4 - r.length) 0).length =
        (be16 y z).toNat - 4 := by
      rw [List.length_append, List.length_replicate]
      omega
    refine ⟨List.replicate ((be16 y z).toNat - 4 - r.length) 0 ++ [0], ?_⟩
    show heard b (decodeTlvs b (EDP_TLV_MARKER :: t :: y :: z :: (r ++ (_ ++ _))) d) = none
    rw [← List.append_assoc, decodeTlvs_tlv (by omega) hd]
    generalize r ++ List.replicate ((be16 y z).toNat - 4 - r.length) 0 = payload at hlen
    obtain ⟨hfits, d', hkept, hok⟩ | ⟨-, herror⟩ := decodeTlv_cases b t.toNat payload d
    · rw [hok]
      refine hbyte ((hkept.gotend ?_).trans hd)
      intro hnull
      rw [hnull] at hfits
      have hzero : payload.length = 0 := of_decide_eq_true hfits
      omega
    · rw [herror]
      rfl

end Follow

/-! ## The frame -/

/-- The frame up to the end of its covered part, with the length that says where that is. -/
def Covered (w : Bytes) : Prop := w.length = 22 + max 4 (edpLength w)

def headerMatches (w : Bytes) : Bool :=
  w.take 6 = EDP_MULTICAST_ADDR ∧ be16 (w.getD 20 0) (w.getD 21 0) = LLC_PID_EDP ∧ w.getD 22 0 = 1 ∧
    be16 (w.getD 30 0) (w.getD 31 0) = 0 ∧ frameChecksum ((w.drop 22).take (edpLength w)) false = 0

def Walk.settled (b : Build) : Walk → Bool
  | .ended _ => true
  | .more rest d => hopeless b d rest

/-- What follows the covered part `w` has no say. -/
def settled (b : Build) (cfg : Config) (w : Bytes) : Bool :=
  !headerMatches w || (38 ≤ w.length &&
    (walk b ((w.drop 38).length + 1) (w.drop 38) (startDec cfg w)).settled b)

def edpHeard (b : Build) (cfg : Config) (frame : Bytes) : Option Decoded :=
  (edpDecode b .frame cfg frame).toOption

section Frame
variable {b : Build} {cfg : Config} {w : Bytes}

theorem edpLength_append (hw : Covered w) (u : Bytes) : edpLength (w ++ u) = edpLength w := by
  unfold Covered at hw
  unfold edpLength
  rw [Cursor.getD_append_left (by omega), Cursor.getD_append_left (by omega)]

theorem be16_eq_zero {x y : UInt8} : be16 x y = 0 ↔ x = 0 ∧ y = 0 := by
  rw [← UInt16.toNat_inj, ← UInt8.toNat_inj, ← UInt8.toNat_inj, be16_toNat, UInt16.toNat_zero,
    UInt8.toNat_zero]
  omega

theorem getD_of_append {i : Nat} {u : Bytes} (h : (w ++ u).getD i 0 = 0) : w.getD i 0 = 0 := by
  by_cases hi : i < w.length
  · rw [← Cursor.getD_append_left hi u, h]
  · rw [List.getD_eq_getElem?_getD, List.getElem?_eq_none (Nat.not_lt.1 hi)]
    rfl

/-- The header of a frame whose covered part is `w`. -/
theorem headerOk_append (hw : Covered w) (u : Bytes) : headerOk (w ++ u) = true ↔
    38 ≤ (w ++ u).length ∧ be16 ((w ++ u).getD 30 0) ((w ++ u).getD 31 0) = 0 ∧
      headerMatches w = true := by
  have hlen := edpLength_append hw u
  have hlong : 26 ≤ w.length ∧ edpLength w ≤ w.length - 22 := by
    unfold Covered at hw
    omega
  have hroom : edpLength w ≤ (w ++ u).length - 22 := by
    rw [List.length_append]
    omega
  have hsum : ((w ++ u).drop 22).take (edpLength w) = (w.drop 22).take (edpLength w) := by
    rw [List.drop_append_of_le_length (by omega),
      List.take_append_of_le_length (by rw [List.length_drop]; exact hlong.2)]
  have hid (h : be16 ((w ++ u).getD 30 0) ((w ++ u).getD 31 0) = 0) :
      be16 (w.getD 30 0) (w.getD 31 0) = 0 := by
    rw [be16_eq_zero] at h ⊢
    exact ⟨getD_of_append h.1, getD_of_append h.2⟩
  unfold headerOk headerMatches
  rw [decide_eq_true_eq, decide_eq_true_eq, hlen, hsum, List.take_append_of_le_length (by omega),
    Cursor.getD_append_left (by omega), Cursor.getD_append_left (by omega),
    Cursor.getD_append_left (by omega)]
  constructor
  · rintro ⟨h38, hdst, hpid, hversion, htype, -, hck⟩
    exact ⟨h38, htype, hdst, hpid, hversion, hid htype, hck⟩
  · rintro ⟨h38, htype, hdst, hpid, hversion, -, hck⟩
    exact ⟨h38, hdst, hpid, hversion, htype, hroom, hck⟩

theorem edpHeard_eq (b : Build) (cfg : Config) (frame : Bytes) : edpHeard b cfg frame =
    if headerOk frame then heard b (decodeTlvs b (frame.drop 38) (startDec cfg frame)) else none := by
  unfold edpHeard
  rw [edpDecode_eq]
  split
  · rfl
  · rfl

/-- A frame that hands VLANs over has some. -/
theorem edpHeard_vlans {frame : Bytes} {d : Dec} (h : edpHeard b cfg frame = some (.vlans d)) :
    d.port.pVlans ≠ [] := by
  have hdec := eq_ok_of_toOption h
  rw [edpDecode_eq] at hdec
  split at hdec
  · obtain ⟨d', hloop, hfinish⟩ := bind_eq_ok.1 hdec
    have hv := decodeLoop_vlansKept hloop fun _ hgot => (Bool.false_ne_true hgot).elim
    rw [finish] at hfinish
    split at hfinish
    · split at hfinish
      · rename_i hvlans
        cases hfinish
        exact hv hvlans.1 hvlans.2.1
      · cases hfinish
    · cases hfinish
  · cases hdec

section
variable (hw : Covered w)
include hw

theorem edpHeard_refuse {u : Bytes} (h : headerMatches w = false) :
    edpHeard b cfg (w ++ u) = none := by
  rw [edpHeard_eq, if_neg]
  rw [headerOk_append hw u, h]
  simp

theorem edpHeard_append (h : headerMatches w = true) (h38 : 38 ≤ w.length) (u : Bytes) :
    edpHeard b cfg (w ++ u) =
      heard b (decodeTlvs b (w.drop 38 ++ u) (startDec cfg w)) := by
  have hok : headerOk (w ++ u) = true := by
    rw [headerOk_append hw u, Cursor.getD_append_left (by omega), Cursor.getD_append_left (by omega),
      List.length_append]
    refine ⟨by omega, ?_, h⟩
    unfold headerMatches at h
    rw [decide_eq_true_eq] at h
    exact h.2.2.2.1
  have hstart : startDec cfg (w ++ u) = startDec cfg w := by
    unfold startDec
    rw [List.drop_append_of_le_length (by omega),
      List.take_append_of_le_length (by rw [List.length_drop]; omega)]
  rw [edpHeard_eq, if_pos hok, hstart, List.drop_append_of_le_length h38]

theorem edpHeard_settled (h : settled b cfg w = true) (u v : Bytes) :
    edpHeard b cfg (w ++ u) = edpHeard b cfg (w ++ v) := by
  cases hm : headerMatches w with
  | false => rw [edpHeard_refuse hw hm, edpHeard_refuse hw hm]
  | true =>
    rw [settled, hm, Bool.not_true, Bool.false_or, Bool.and_eq_true] at h
    have h38 : 38 ≤ w.length := of_decide_eq_true h.1
    rw [edpHeard_append hw hm h38, edpHeard_append hw hm h38]
    have hwalk := @walk_promise b (w.drop 38) _ (Nat.lt_succ_self _) (startDec cfg w)
    generalize walk b _ (w.drop 38) (startDec cfg w) = k at h hwalk
    cases k with
    | ended r =>
      rw [hwalk u, hwalk v]
    | more rest d =>
      obtain ⟨hrun, -, hd, -⟩ := hwalk
      rw [hrun u, hrun v, heard_hopeless h.2 hd u, heard_hopeless h.2 hd v]

/-- Else the loop stops inside `w`, and what follows has a say. -/
theorem edpHeard_unsettled (h : settled b cfg w = false) :
    headerMatches w = true ∧ (38 ≤ w.length → ∃ rest d,
      (∀ u, edpHeard b cfg (w ++ u) = heard b (decodeTlvs b (rest ++ u) d)) ∧
      hopeless b d rest = false ∧ (headAt rest = .short ∨ headAt rest = .cut) ∧
      d.gotend = false ∧ d.chassis.cId ≠ none) := by
  rw [settled, Bool.or_eq_false_iff, Bool.not_eq_false', Bool.and_eq_false_iff] at h
  obtain ⟨hm, hsettled⟩ := h
  refine ⟨hm, fun h38 => ?_⟩
  have hsettled := hsettled.resolve_left (by simp [h38])
  have hwalk := @walk_promise b (w.drop 38) _ (Nat.lt_succ_self _) (startDec cfg w)
  generalize walk b _ (w.drop 38) (startDec cfg w) = k at hsettled hwalk
  cases k with
  | ended r => cases hsettled
  | more rest d =>
    obtain ⟨hrun, hhead, hd, hid⟩ := hwalk
    refine ⟨rest, d, fun u => ?_, hsettled, hhead, hd, by simp [hid, startDec]⟩
    rw [edpHeard_append hw hm h38, hrun u]

/-- Some frame that starts with `w` is refused. -/
theorem edpHeard_refused (h : settled b cfg w = false) : ∃ u, edpHeard b cfg (w ++ u) = none := by
  obtain ⟨-, hopen⟩ := edpHeard_unsettled hw h
  by_cases h38 : 38 ≤ w.length
  · obtain ⟨rest, d, hrun, -, hhead, hd, -⟩ := hopen h38
    obtain ⟨u, hu⟩ := heard_refused hhead hd
    exact ⟨u, (hrun u).trans hu⟩
  · refine ⟨[], ?_⟩
    rw [edpHeard_eq, if_neg]
    rw [headerOk_append hw, List.append_nil]
    intro hok
    exact h38 hok.1

end

theorem edpHeard_short (b : Build) (cfg : Config) (hw : Covered w) (hm : headerMatches w = true)
    (hshort : w.length < 38) :
    ∃ d, edpHeard b cfg (w ++ (List.replicate (38 - w.length) 0 ++ announcement)) =
      some (.neighbor d) := by
  have hhead : (w ++ List.replicate (38 - w.length) (0 : UInt8)).length = 38 := by
    rw [List.length_append, List.length_replicate]
    omega
  have hbyte (i : Nat) (hi : i < 38) :
      (w ++ (List.replicate (38 - w.length) 0 ++ announcement)).getD i 0 = w.getD i 0 := by
    rw [← List.append_assoc, Cursor.getD_append_left (by rw [hhead]; exact hi)]
    by_cases hin : i < w.length
    · exact Cursor.getD_append_left hin _
    · rw [List.getD_eq_getElem?_getD, List.getD_eq_getElem?_getD,
        List.getElem?_append_right (Nat.not_lt.1 hin), List.getElem?_replicate,
        List.getElem?_eq_none (Nat.not_lt.1 hin)]
      split
      · rfl
      · rfl
  have hok : headerOk (w ++ (List.replicate (38 - w.length) 0 ++ announcement)) = true := by
    rw [headerOk_append hw, hbyte 30 (by decide), hbyte 31 (by decide)]
    refine ⟨?_, ?_, hm⟩
    · rw [← List.append_assoc, List.length_append]
      omega
    · unfold headerMatches at hm
      rw [decide_eq_true_eq] at hm
      exact hm.2.2.2.1
  rw [edpHeard_eq, if_pos hok]
  have hdrop : (w ++ (List.replicate (38 - w.length) 0 ++ announcement)).drop 38 = announcement := by
    rw [← List.append_assoc, List.drop_left' hhead]
  rw [hdrop]
  exact heard_announcement (by simp [startDec]) rfl

theorem edpHeard_accepted (hw : Covered w) (h : settled b cfg w = false) :
    ∃ u r, edpHeard b cfg (w ++ u) = some r := by
  obtain ⟨hm, hopen⟩ := edpHeard_unsettled hw h
  by_cases h38 : 38 ≤ w.length
  · obtain ⟨rest, d, hrun, hhope, hhead, hd, hid⟩ := hopen h38
    obtain ⟨u, hu⟩ := heard_accepted hhope hhead hid hd
    refine ⟨u, ?_⟩
    rw [hrun u]
    rcases hu with ⟨d', hu⟩ | ⟨hu, hne⟩
    · exact ⟨.neighbor d', hu⟩
    · obtain ⟨r, hr⟩ := Option.ne_none_iff_exists'.1 hne
      exact ⟨r, hu.trans hr⟩
  · obtain ⟨d, hd⟩ := edpHeard_short b cfg hw hm (Nat.lt_of_not_le h38)
    exact ⟨_, .neighbor d, hd⟩

end Frame

end Lldpd.Edp
