import Lldpd.Core.Bytes

/-!
# Writing a frame into a buffer of fixed size

C emitting code allocates a zeroed buffer, keeps a pointer `pos` into it and
checks before each write that the bytes fit. `Packet` is the buffer with
`pos`; `poke` writes at `pos` or fails; `patch` overwrites bytes that are
already there, as emitters do with length fields.

`poke_append` is the composition rule: writing `a` and then `b` is writing
`a ++ b`, also in what does not fit.
-/
namespace Lldpd.Core

/-! ## Overwriting part of a buffer -/

def patch (buf : Bytes) (i : Nat) (bs : Bytes) : Bytes :=
  buf.take i ++ bs ++ buf.drop (i + bs.length)

section Patch
variable {buf a b c : Bytes} {i : Nat}

theorem patch_length (h : i + a.length ≤ buf.length) : (patch buf i a).length = buf.length := by
  simp [patch]; omega

theorem patch_take (h : i ≤ buf.length) : (patch buf i a).take i = buf.take i := by
  rw [patch, List.append_assoc, List.take_append_of_le_length (by simp; omega), List.take_take,
    Nat.min_self]

theorem patch_take_end (h : i ≤ buf.length) :
    (patch buf i a).take (i + a.length) = buf.take i ++ a := by
  have hlen : (buf.take i ++ a).length = i + a.length := by
    rw [List.length_append, List.length_take_of_le h]
  rw [patch, List.take_append_of_le_length (by omega), List.take_of_length_le (by omega)]

/-- Writing behind what was just written. -/
theorem patch_patch_end (h : i + a.length ≤ buf.length) :
    patch (patch buf i a) (i + a.length) b = patch buf i (a ++ b) := by
  have hi : (buf.take i ++ a).length = i + a.length := by simp; omega
  rw [patch, patch_take_end (by omega)]
  simp only [patch, List.append_assoc, List.length_append]
  congr 3
  rw [← List.append_assoc, List.drop_append, List.drop_eq_nil_of_le (by omega), List.nil_append,
    List.drop_drop]
  congr 1; omega

/-- Overwriting the front of what was just written. -/
theorem patch_patch_front (h : i ≤ buf.length) (hab : a.length = b.length) :
    patch (patch buf i (a ++ c)) i b = patch buf i (b ++ c) := by
  rw [patch, patch_take h]
  simp only [patch, List.append_assoc, List.length_append]
  rw [← List.append_assoc (buf.take i) a, List.drop_append_of_le_length (by simp; omega),
    List.drop_eq_nil_of_le (by simp; omega), List.nil_append, hab]

/-- A patch inside the first part. -/
theorem patch_append (h : i + a.length ≤ buf.length) : patch (buf ++ c) i a = patch buf i a ++ c := by
  simp only [patch, List.append_assoc]
  rw [List.take_append_of_le_length (by omega), List.drop_append_of_le_length h]

end Patch

/-! ## The packet -/

structure Packet where
  buf : Bytes
  pos : Nat
  pos_le : pos ≤ buf.length

namespace Packet

def calloc (length : Nat) : Packet := ⟨List.replicate length 0, 0, Nat.zero_le _⟩

def written (p : Packet) : Bytes := p.buf.take p.pos

def poke (p : Packet) (bs : Bytes) : Option Packet :=
  if h : p.pos + bs.length ≤ p.buf.length then
    some ⟨patch p.buf p.pos bs, p.pos + bs.length, by rw [patch_length h]; exact h⟩
  else none

/-- `memcpy` over bytes in front of `pos`; a copy that would leave them is
not one an emitter makes, and does nothing here. -/
def overwrite (p : Packet) (i : Nat) (bs : Bytes) : Packet :=
  if h : i + bs.length ≤ p.pos then
    ⟨patch p.buf i bs, p.pos, by have := p.pos_le; rw [patch_length (by omega)]; exact p.pos_le⟩
  else p

variable {p q : Packet} {a b c : Bytes}

theorem pos_calloc (length : Nat) : (calloc length).pos = 0 := rfl

theorem length_calloc (length : Nat) : (calloc length).buf.length = length := List.length_replicate

@[ext] theorem ext (hb : p.buf = q.buf) (hp : p.pos = q.pos) : p = q := by
  cases p; cases q; cases hb; cases hp; rfl

theorem poke_eq_some : p.poke a = some q ↔
    p.pos + a.length ≤ p.buf.length ∧ q.buf = patch p.buf p.pos a ∧ q.pos = p.pos + a.length := by
  unfold poke
  split
  · rename_i h
    simp only [Option.some.injEq, h, true_and]
    exact ⟨fun e => by subst e; exact ⟨rfl, rfl⟩, fun e => ext e.1.symm e.2.symm⟩
  · rename_i h; simp [h]

theorem poke_eq_none : p.poke a = none ↔ p.buf.length < p.pos + a.length := by
  unfold poke; split <;> simp <;> omega

@[simp] theorem poke_nil (p : Packet) : p.poke [] = some p :=
  poke_eq_some.2 ⟨p.pos_le, by simp [patch], rfl⟩

/-- **Composition**: two writes are one. -/
theorem poke_append (p : Packet) (a b : Bytes) : (p.poke a).bind (·.poke b) = p.poke (a ++ b) := by
  cases ha : p.poke a with
  | none =>
    rw [poke_eq_none] at ha
    exact (poke_eq_none.2 (by simp; omega)).symm
  | some q =>
    obtain ⟨hle, hbuf, hpos⟩ := poke_eq_some.1 ha
    rw [Option.bind_some]
    have hlen : q.buf.length = p.buf.length := by rw [hbuf, patch_length hle]
    cases hb : q.poke b with
    | none =>
      rw [poke_eq_none] at hb
      exact (poke_eq_none.2 (by simp; omega)).symm
    | some r =>
      obtain ⟨hle', hbuf', hpos'⟩ := poke_eq_some.1 hb
      refine (poke_eq_some.2 ⟨by simp; omega, ?_, ?_⟩).symm
      · rw [hbuf', hbuf, hpos, patch_patch_end hle]
      · rw [hpos', hpos, List.length_append, Nat.add_assoc]

theorem poke_append_some : p.poke (a ++ b) = some q ↔ ∃ r, p.poke a = some r ∧ r.poke b = some q := by
  rw [← poke_append, Option.bind_eq_some_iff]

/-- A write in front of a write, when what becomes of the packet depends on
where the second one starts. -/
theorem bind_poke_map {α : Type} {f : Nat → Packet → α} {g : Packet → Option α}
    (hg : ∀ q : Packet, g q = (q.poke b).map (f q.pos)) :
    (p.poke a).bind g = (p.poke (a ++ b)).map (f (p.pos + a.length)) := by
  rw [← poke_append]
  cases h : p.poke a with
  | none => rfl
  | some q => rw [Option.bind_some, Option.bind_some, hg, (poke_eq_some.1 h).2.2]

/-- Several steps that each write some bytes are one write. -/
theorem foldlM_write {S T : Type} {write : S → Bytes → Option S} {f : S → T → Option S}
    {enc : T → Bytes} (hnil : ∀ s, write s [] = some s)
    (happend : ∀ s a b, (write s a).bind (write · b) = write s (a ++ b))
    (hf : ∀ s t, f s t = write s (enc t)) (ts : List T) (s : S) :
    ts.foldlM f s = write s (ts.flatMap enc) := by
  induction ts generalizing s with
  | nil => exact (hnil s).symm
  | cons t ts ih =>
    rw [List.foldlM_cons, List.flatMap_cons, ← happend, hf]
    exact congrArg (Option.bind (write s (enc t))) (funext ih)

theorem foldlM_poke {T : Type} {f : Packet → T → Option Packet} {enc : T → Bytes}
    (hf : ∀ p t, f p t = p.poke (enc t)) (ts : List T) (p : Packet) :
    ts.foldlM f p = p.poke (ts.flatMap enc) :=
  foldlM_write poke_nil poke_append hf ts p

theorem pokes_eq (pokes : List Bytes) (p : Packet) :
    pokes.foldlM Packet.poke p = p.poke pokes.flatten := by
  rw [show pokes.foldlM Packet.poke p = p.poke (pokes.flatMap id) from
    foldlM_poke (fun _ _ => rfl) pokes p, List.flatMap_id]

theorem written_of_poke (h : p.poke a = some q) : q.written = p.written ++ a := by
  obtain ⟨hle, hbuf, hpos⟩ := poke_eq_some.1 h
  rw [written, hbuf, hpos, patch_take_end (by omega), written]

/-- Overwriting the front of what was just written. -/
theorem overwrite_of_poke (h : p.poke (a ++ c) = some q) (hab : a.length = b.length) :
    p.poke (b ++ c) = some (q.overwrite p.pos b) := by
  obtain ⟨hle, hbuf, hpos⟩ := poke_eq_some.1 h
  simp only [List.length_append] at hle hpos
  have hin : p.pos + b.length ≤ q.pos := by omega
  rw [overwrite, dif_pos hin]
  refine poke_eq_some.2 ⟨by simp; omega, ?_, by simp; omega⟩
  change patch q.buf p.pos b = _
  rw [hbuf, patch_patch_front p.pos_le hab]

/-- Overwriting a part of what was just written. -/
theorem overwrite_middle {x : Bytes} (h : p.poke (x ++ (a ++ c)) = some q) (hab : a.length = b.length) :
    p.poke (x ++ (b ++ c)) = some (q.overwrite (p.pos + x.length) b) := by
  rw [← poke_append] at h ⊢
  obtain ⟨r, hr, h⟩ := Option.bind_eq_some_iff.1 h
  rw [hr, Option.bind_some, overwrite_of_poke h hab, (poke_eq_some.1 hr).2.2]

theorem overwrite_be16 {x : Bytes} {v : UInt16} (w : UInt16)
    (h : p.poke (x ++ (be16Bytes v ++ c)) = some q) :
    p.poke (x ++ (be16Bytes w ++ c)) = some (q.overwrite (p.pos + x.length) (be16Bytes w)) := by
  apply overwrite_middle h
  rw [be16Bytes_length, be16Bytes_length]

/-- A write that is not checked, in front of one that is: if there is no room
for the first there is none for the second. -/
theorem poke_unchecked (h : a.length ≤ b.length) : ((p.poke a).getD p).poke b = p.poke (a ++ b) := by
  rw [← poke_append]
  cases hq : p.poke a with
  | none =>
    have hfull := poke_eq_none.1 hq
    rw [Option.getD_none, Option.bind_none, poke_eq_none]
    omega
  | some q => rfl

/-- A length field of two bytes that is filled in once its value, and `k`
bytes, are there. -/
theorem poke_length (q : Packet) (pokes : List Bytes) (k : Nat) :
    ((q.poke (be16Bytes 0)).bind fun r => (pokes.foldlM Packet.poke r).bind fun r =>
      some (r.overwrite q.pos (be16Bytes (UInt16.ofNat (r.pos - q.pos + k))))) =
      q.poke (be16Bytes (UInt16.ofNat (pokes.flatten.length + 2 + k)) ++ pokes.flatten) := by
  have htwo : ((q.poke (be16Bytes 0)).bind fun r => pokes.foldlM Packet.poke r) =
      q.poke (be16Bytes 0 ++ pokes.flatten) := by
    rw [← poke_append]
    exact congrArg (Option.bind _) (funext fun r => pokes_eq pokes r)
  rw [← Option.bind_assoc, htwo]
  cases hr : q.poke (be16Bytes 0 ++ pokes.flatten) with
  | none =>
    have hfull := poke_eq_none.1 hr
    rw [List.length_append] at hfull
    refine (poke_eq_none.2 ?_).symm
    rw [List.length_append]
    exact hfull
  | some r =>
    have hpos := (poke_eq_some.1 hr).2.2
    rw [List.length_append, be16Bytes_length] at hpos
    have hlen : r.pos - q.pos + k = pokes.flatten.length + 2 + k := by omega
    rw [Option.bind_some, hlen]
    refine (overwrite_of_poke hr ?_).symm
    rw [be16Bytes_length, be16Bytes_length]

/-- The bytes just written, by index. -/
theorem getD_of_poke (h : p.poke a = some q) {k : Nat} (hk : k < a.length) :
    q.buf.getD (p.pos + k) 0 = a.getD k 0 := by
  obtain ⟨-, hbuf, -⟩ := poke_eq_some.1 h
  have hlen : (p.buf.take p.pos).length = p.pos := List.length_take_of_le p.pos_le
  rw [hbuf, patch, List.append_assoc]
  simp only [List.getD_eq_getElem?_getD]
  rw [List.getElem?_append_right (by omega), List.getElem?_append_left (by omega), hlen,
    Nat.add_sub_cancel_left]

end Packet

end Lldpd.Core
