import Lldpd.Core.Bytes
import Lldpd.Core.Except

/-!
# Reading a frame through an unchecked cursor

C parsing code keeps a pointer `pos` into a frame and the number `length` of
bytes left, and moves both together. Nothing stops it from reading past the
end, so here a read that leaves the frame is an explicit `Fault`.

`Cursor` is the pair: the bytes from `pos` to the end of the frame, and how
far `pos` stands past the end (a skip reads nothing and may go there).

A parser stops early in two ways (`Stop`): it refuses the input, keeping what
it did so far (`refused`, the target of its `goto malformed`), or it does
something undefined (`fault`). `Run σ α` is the result of a piece of it.
-/
namespace Lldpd.Core

inductive Fault where
  /-- a read outside the input -/
  | oob
  /-- a copy longer than its destination -/
  | overflow
  /-- a failed `assert` -/
  | assertion
  /-- a loop that does not end -/
  | diverge
  deriving DecidableEq, Repr

inductive Stop (σ : Type) where
  | refused (s : σ)
  | fault (f : Fault)
  deriving DecidableEq, Repr

abbrev Run (σ α : Type) := Except (Stop σ) α

section Run
variable {σ α β : Type}

instance [DecidableEq σ] [DecidableEq α] : DecidableEq (Run σ α)
  | .ok a, .ok b => decidable_of_iff (a = b) (by simp)
  | .error e, .error f => decidable_of_iff (e = f) (by simp)
  | .ok _, .error _ => .isFalse nofun
  | .error _, .ok _ => .isFalse nofun

@[simp] theorem error_bind (e : Stop σ) (f : α → Run σ β) :
    ((Except.error e : Run σ α) >>= f) = .error e := rfl

@[simp] theorem pure_eq_ok (a : α) : (pure a : Run σ α) = .ok a := rfl

@[simp] theorem throw_eq_error (e : Stop σ) : (throw e : Run σ α) = .error e := rfl

/-- A piece that does nothing undefined. -/
def Safe (r : Run σ α) : Prop := ∀ f, r ≠ .error (.fault f)

theorem safe_ok (a : α) : Safe (.ok a : Run σ α) := by
  intro f h
  cases h

theorem safe_refused (s : σ) : Safe (.error (.refused s) : Run σ α) := by
  intro f h
  cases h

theorem Safe.bind {r : Run σ α} {g : α → Run σ β} (hr : Safe r) (hg : ∀ a, r = .ok a → Safe (g a)) :
    Safe (r >>= g) := by
  intro f h
  cases hcase : r with
  | ok a =>
    rw [hcase] at h
    exact hg a hcase f h
  | error e =>
    rw [hcase] at h
    injection h with he
    rw [he] at hcase
    exact hr f hcase

/-- A safe piece whose result, if it has one, is as `post` says. -/
def Ensures (r : Run σ α) (post : α → Prop) : Prop := Safe r ∧ ∀ a, r = .ok a → post a

theorem ensures_ok {post : α → Prop} {a : α} (h : post a) : Ensures (.ok a : Run σ α) post := by
  refine ⟨safe_ok a, ?_⟩
  intro b hb
  cases hb
  exact h

theorem ensures_refused {post : α → Prop} (s : σ) : Ensures (.error (.refused s) : Run σ α) post :=
  ⟨safe_refused s, nofun⟩

theorem Ensures.bind {r : Run σ α} {g : α → Run σ β} {post : α → Prop} {post' : β → Prop}
    (hr : Ensures r post) (hg : ∀ a, post a → Ensures (g a) post') : Ensures (r >>= g) post' := by
  refine ⟨hr.1.bind fun a ha => (hg a (hr.2 a ha)).1, ?_⟩
  intro b hb
  obtain ⟨a, ha, hb⟩ := bind_eq_ok.1 hb
  exact (hg a (hr.2 a ha)).2 b hb

theorem Ensures.map {r : Run σ α} {f : α → β} {post : α → Prop} {post' : β → Prop}
    (hr : Ensures r post) (h : ∀ a, post a → post' (f a)) : Ensures (r.map f) post' := by
  cases r with
  | ok a => exact ensures_ok (h a (hr.2 a rfl))
  | error e => exact ⟨fun t ht => hr.1 t (by cases ht; rfl), nofun⟩

end Run

structure Cursor where
  rest : Bytes
  past : Nat := 0
  deriving DecidableEq, Repr

/-- How far a read may go before it faults: to the end of the frame, or to
the declared end of the value that is being read. -/
inductive Bound where
  | frame | tlv
  deriving DecidableEq, Repr

/-- What can be read from the start of a value of `len` bytes on. `value` goes
on to the end of the frame. -/
def Bound.window (bound : Bound) (value : Bytes) (len : Nat) : Bytes :=
  match bound with
  | .frame => value
  | .tlv => value.take len

namespace Cursor

variable {σ : Type}

/-- `length`: negative once `pos` is past the end. -/
def length (c : Cursor) : Int := c.rest.length - c.past

/-- `PEEK_DISCARD(n)`: moves, reads nothing. -/
def discard (c : Cursor) (n : Nat) : Cursor :=
  { rest := c.rest.drop n, past := c.past + (n - c.rest.length) }

def peekUint8 : Cursor → Run σ (UInt8 × Cursor)
  | ⟨a :: r, p⟩ => .ok (a, ⟨r, p⟩)
  | _ => .error (.fault .oob)

def peekUint16 : Cursor → Run σ (UInt16 × Cursor)
  | ⟨a :: b :: r, p⟩ => .ok (be16 a b, ⟨r, p⟩)
  | _ => .error (.fault .oob)

def peekUint32 : Cursor → Run σ (UInt32 × Cursor)
  | ⟨a :: b :: c :: d :: r, p⟩ => .ok (be32 a b c d, ⟨r, p⟩)
  | _ => .error (.fault .oob)

def peekBytes (c : Cursor) (n : Nat) : Run σ (Bytes × Cursor) :=
  if n ≤ c.rest.length then .ok (c.rest.take n, c.discard n) else .error (.fault .oob)

@[simp] theorem length_mk (r : Bytes) : (Cursor.mk r 0).length = r.length := by simp [length]

@[simp] theorem peekUint8_cons (a : UInt8) (r : Bytes) (p : Nat) :
    (peekUint8 ⟨a :: r, p⟩ : Run σ _) = .ok (a, ⟨r, p⟩) := rfl

@[simp] theorem peekUint16_cons (a b : UInt8) (r : Bytes) (p : Nat) :
    (peekUint16 ⟨a :: b :: r, p⟩ : Run σ _) = .ok (be16 a b, ⟨r, p⟩) := rfl

/-- Reading exactly the leading bytes. -/
@[simp] theorem peekBytes_append (bs r : Bytes) :
    (peekBytes ⟨bs ++ r, 0⟩ bs.length : Run σ _) = .ok (bs, ⟨r, 0⟩) := by
  simp [peekBytes, discard]

theorem peekBytes_of_le {r : Bytes} {n : Nat} (h : n ≤ r.length) :
    (peekBytes ⟨r, 0⟩ n : Run σ _) = .ok (r.take n, ⟨r.drop n, 0⟩) := by
  simp only [peekBytes, if_pos h, discard]
  rw [show n - r.length = 0 by omega]

variable {n : Nat} {r : Bytes}

theorem peekBytes_of_lt (h : r.length < n) :
    (peekBytes ⟨r, 0⟩ n : Run σ _) = .error (.fault .oob) := by
  simp only [peekBytes]; rw [if_neg (by omega)]

theorem discard_of_le (h : n ≤ r.length) : (Cursor.mk r 0).discard n = ⟨r.drop n, 0⟩ := by
  simp only [discard]; rw [show n - r.length = 0 by omega]

theorem peekUint8_of_le (h : 1 ≤ r.length) :
    (peekUint8 ⟨r, 0⟩ : Run σ _) = .ok (r.getD 0 0, ⟨r.drop 1, 0⟩) := by
  match r, h with
  | _ :: _, _ => rfl

theorem peekUint8_nil : (peekUint8 ⟨[], 0⟩ : Run σ _) = .error (.fault .oob) := rfl

theorem peekUint16_of_le {p : Nat} (h : 2 ≤ r.length) :
    (peekUint16 ⟨r, p⟩ : Run σ _) = .ok (be16 (r.getD 0 0) (r.getD 1 0), ⟨r.drop 2, p⟩) := by
  match r, h with
  | _ :: _ :: _, _ => rfl

theorem peekUint16_of_lt {p : Nat} (h : r.length < 2) :
    (peekUint16 ⟨r, p⟩ : Run σ _) = .error (.fault .oob) := by
  match r, h with
  | [], _ => rfl
  | [_], _ => rfl

theorem peekUint32_of_le (h : 4 ≤ r.length) :
    (peekUint32 ⟨r, 0⟩ : Run σ _) =
      .ok (be32 (r.getD 0 0) (r.getD 1 0) (r.getD 2 0) (r.getD 3 0), ⟨r.drop 4, 0⟩) := by
  match r, h with
  | _ :: _ :: _ :: _ :: _, _ => rfl

theorem peekUint32_of_lt (h : r.length < 4) :
    (peekUint32 ⟨r, 0⟩ : Run σ _) = .error (.fault .oob) := by
  match r, h with
  | [], _ => rfl
  | [_], _ => rfl
  | [_, _], _ => rfl
  | [_, _, _], _ => rfl

theorem getD_drop (r : Bytes) (k i : Nat) : (r.drop k).getD i 0 = r.getD (k + i) 0 := by
  simp [List.getD_eq_getElem?_getD]

theorem getD_append_left {i : Nat} (h : i < r.length) (more : Bytes) :
    (r ++ more).getD i 0 = r.getD i 0 := by
  rw [List.getD_eq_getElem?_getD, List.getElem?_append_left h, ← List.getD_eq_getElem?_getD]

/-! Reads from an offset of a frame on. -/

theorem discard_drop {k : Nat} (h : k + n ≤ r.length) :
    (Cursor.mk (r.drop k) 0).discard n = ⟨r.drop (k + n), 0⟩ := by
  rw [discard_of_le (by rw [List.length_drop]; omega), List.drop_drop]

theorem peekBytes_drop {r : Bytes} {k n : Nat} (h : k + n ≤ r.length) :
    (peekBytes ⟨r.drop k, 0⟩ n : Run σ _) = .ok ((r.drop k).take n, ⟨r.drop (k + n), 0⟩) := by
  rw [peekBytes_of_le (by rw [List.length_drop]; omega), List.drop_drop]

theorem peekUint8_drop {r : Bytes} {k : Nat} (h : k + 1 ≤ r.length) :
    (peekUint8 ⟨r.drop k, 0⟩ : Run σ _) = .ok (r.getD k 0, ⟨r.drop (k + 1), 0⟩) := by
  rw [peekUint8_of_le (by rw [List.length_drop]; omega), getD_drop, List.drop_drop, Nat.add_zero]

theorem peekUint16_drop {r : Bytes} {k : Nat} (h : k + 2 ≤ r.length) :
    (peekUint16 ⟨r.drop k, 0⟩ : Run σ _) =
      .ok (be16 (r.getD k 0) (r.getD (k + 1) 0), ⟨r.drop (k + 2), 0⟩) := by
  rw [peekUint16_of_le (by rw [List.length_drop]; omega), getD_drop, getD_drop, List.drop_drop,
    Nat.add_zero]

/-! A read that stays inside the leading bytes leaves what follows them alone. -/

theorem peekUint16_append (h : 2 ≤ r.length) (more : Bytes) :
    (peekUint16 ⟨r ++ more, 0⟩ : Run σ _) =
      .ok (be16 (r.getD 0 0) (r.getD 1 0), ⟨r.drop 2 ++ more, 0⟩) := by
  match r, h with
  | _ :: _ :: _, _ => rfl

theorem discard_append (h : n ≤ r.length) (more : Bytes) :
    (Cursor.mk (r ++ more) 0).discard n = ⟨r.drop n ++ more, 0⟩ := by
  rw [discard_of_le (by rw [List.length_append]; omega), List.drop_append_of_le_length h]

theorem peekBytes_append_of_le (h : n ≤ r.length) (more : Bytes) :
    (peekBytes ⟨r ++ more, 0⟩ n : Run σ _) = .ok (r.take n, ⟨r.drop n ++ more, 0⟩) := by
  rw [peekBytes_of_le (by rw [List.length_append]; omega), List.take_append_of_le_length h,
    List.drop_append_of_le_length h]

end Cursor

/-- Two tests that refuse are one. -/
theorem refuse_unless {α : Type} {c p : Prop} [Decidable c] [Decidable p] (x e : α) :
    (if ¬ c then e else if p then x else e) = if c ∧ p then x else e := by
  by_cases hc : c <;> simp [hc]

end Lldpd.Core
