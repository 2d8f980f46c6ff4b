import Lldpd.Core.Text

/-!
# Lists in a text

A text with separators is a list of texts. `strtoks` leaves the empty ones out, as
`strtok` does, and any list without empty ones can be written down
(`strtoks_intercalate`).
-/
namespace Lldpd.Core

variable {delim : Char} {t : Text} {ts : List Text}

def strtoks (delim : Char) (t : Text) : List Text := (t.splitOn delim).filter (· ≠ [])

theorem not_mem_of_mem_splitOn {piece : Text} (h : piece ∈ t.splitOn delim) : delim ∉ piece := by
  induction t generalizing piece with
  | nil =>
    rw [List.splitOn_nil, List.mem_singleton] at h
    simp [h]
  | cons c t ih =>
    rw [List.splitOn_cons_eq_if_modifyHead] at h
    split at h
    · obtain rfl | h := List.mem_cons.1 h
      · exact List.not_mem_nil
      · exact ih h
    · rename_i hc
      cases hrest : t.splitOn delim with
      | nil => exact absurd hrest (List.splitOn_ne_nil _ _)
      | cons first rest =>
        rw [hrest] at h ih
        obtain rfl | h := List.mem_cons.1 h
        · have hfirst : delim ∉ first := ih List.mem_cons_self
          have hne : delim ≠ c := fun he => hc (by simp [he])
          simp [hne, hfirst]
        · exact ih (List.mem_cons_of_mem _ h)

theorem mem_strtoks {token : Text} (h : token ∈ strtoks delim t) : token ≠ [] ∧ delim ∉ token := by
  unfold strtoks at h
  rw [List.mem_filter] at h
  exact ⟨by simpa using h.2, not_mem_of_mem_splitOn h.1⟩

/-- A list of tokens, written with separators. -/
theorem strtoks_intercalate (h : ∀ token ∈ ts, token ≠ [] ∧ delim ∉ token) :
    strtoks delim (List.intercalate [delim] ts) = ts := by
  cases ts with
  | nil => rfl
  | cons token ts =>
    rw [strtoks, List.splitOn_intercalate delim (fun l hl => (h l hl).2) (List.cons_ne_nil _ _),
      List.filter_eq_self]
    intro l hl
    simpa using (h l hl).1

end Lldpd.Core
