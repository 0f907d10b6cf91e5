import Mathlib.Data.List.Basic
import Mathlib.Algebra.Group.Nat.Basic

/-!
The `std::string` operations of `KernelTestMgr::find_test`: a string is its character list,
positions are `size_t` values, and `find_last_of` reports a missing character as `npos`.

* `lastIndexOf_append`: the last occurrence in `u ++ v` is `v`'s, shifted, when `v` has one;
  `lastIndexOf_append_cons` specialises it to a name `t ++ c :: rest` split at `c`.
* `lastIndexOf_spec`: what `find_last_of` returns is an occurrence; `le_lastIndexOf`: it is
  at or after every occurrence.
-/

namespace KtfInt

/-- `std::string::npos`: the largest `size_t` of a 64-bit target. -/
def npos : Nat := 2 ^ 64 - 1

/-- The index of the last occurrence of `c` in `s`. -/
def lastIndexOf (c : Char) : List Char → Option Nat
  | [] => none
  | x :: xs =>
    match lastIndexOf c xs with
    | some i => some (i + 1)
    | none => if x = c then some 0 else none

/-- `s.find_last_of(c)`: the last occurrence of `c`, `npos` when there is none. -/
def findLastOf (s : List Char) (c : Char) : Nat := (lastIndexOf c s).getD npos

/-- `s.substr(pos, len)`. Every call in `ktf_int.cpp` has `pos ≤ s.size()`, where the
standard library throws nothing. -/
def substr (s : List Char) (pos len : Nat) : List Char := (s.drop pos).take len

lemma lastIndexOf_append (c : Char) (u v : List Char) :
    lastIndexOf c (u ++ v) =
      match lastIndexOf c v with
      | some j => some (u.length + j)
      | none => lastIndexOf c u := by
  cases hv : lastIndexOf c v with
  | none => induction u with
    | nil => simpa using hv
    | cons x xs ih => simp [lastIndexOf, ih]
  | some j => induction u with
    | nil => simpa using hv
    | cons x xs ih => simp [lastIndexOf, ih, Nat.add_right_comm]

lemma lastIndexOf_append_cons (c : Char) (t rest : List Char) :
    lastIndexOf c (t ++ c :: rest) =
      some ((lastIndexOf c rest).elim t.length (t.length + 1 + ·)) := by
  rw [lastIndexOf_append]
  cases h : lastIndexOf c rest <;> simp [lastIndexOf, h, Nat.add_assoc, Nat.add_comm 1]

lemma lastIndexOf_eq_none (c : Char) (s : List Char) (h : c ∉ s) : lastIndexOf c s = none := by
  induction s with
  | nil => rfl
  | cons x xs ih =>
    simp only [List.mem_cons, not_or] at h
    simp [lastIndexOf, ih h.2, Ne.symm h.1]

/-- What `find_last_of` finds is an occurrence of `c`. -/
lemma lastIndexOf_spec (c : Char) :
    ∀ (s : List Char) (i : Nat), lastIndexOf c s = some i → ∃ h : i < s.length, s[i] = c
  | [], _, h => by simp [lastIndexOf] at h
  | x :: xs, i, h => by
    unfold lastIndexOf at h
    split at h
    · rename_i j hj
      obtain rfl := Option.some.inj h.symm
      obtain ⟨hlt, hc⟩ := lastIndexOf_spec c xs j hj
      exact ⟨by simp [hlt], by simpa using hc⟩
    · split_ifs at h with hx
      obtain rfl := Option.some.inj h.symm
      exact ⟨by simp, hx⟩

/-- `find_last_of` finds an occurrence at or after any occurrence of `c`. -/
lemma le_lastIndexOf (c : Char) :
    ∀ (s : List Char) (i : Nat), s[i]? = some c → ∃ j, lastIndexOf c s = some j ∧ i ≤ j
  | [], _, h => by simp at h
  | x :: xs, i, h => by
    unfold lastIndexOf
    cases hj : lastIndexOf c xs with
    | some j =>
      refine ⟨j + 1, rfl, ?_⟩
      cases i with
      | zero => omega
      | succ i =>
        obtain ⟨j', hj', hij⟩ := le_lastIndexOf c xs i (by simpa using h)
        rw [hj] at hj'
        cases hj'
        omega
    | none =>
      cases i with
      | zero => exact ⟨0, by simpa using h, le_rfl⟩
      | succ i =>
        obtain ⟨j', hj', -⟩ := le_lastIndexOf c xs i (by simpa using h)
        rw [hj] at hj'
        cases hj'

end KtfInt
