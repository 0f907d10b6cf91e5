import Mathlib.Order.Lattice
import Mathlib.Data.List.Lex
import Mathlib.Data.Char

/-!
`std::map` as `ktf_int.cpp` uses it: the registry's `setmap`, `testmap`, `wrappermap`,
`handle_to_ctxvec` and `cfg_contexts`, and the `stringset` of kernel sets.

A map is its entry list in increasing key order (the order a `std::map` iterates in), and the
structure carries that order as a field, so no map with a repeated key can be built.

* `StdMap.alter`: the one insertion primitive; `find?_alter` says what it does to lookups,
  `mem_keys_alter` to the key set and `size_alter` to the size.
* `StdMap.update`: `m[k]` followed by an update of the referenced value, inserting the
  default first when `k` is absent (`operator[]`); `StdMap.touch` is `m[k]` used only as a
  read, which still inserts.
* `StdMap.erase`, and `StdMap.fromKey`: the entries an iterator at key `k` still has to visit.
-/

namespace KtfInt

/-- `std::map<κ, ν>`: its entries in strictly increasing key order. -/
structure StdMap (κ ν : Type) [LinearOrder κ] where
  entries : List (κ × ν)
  sorted : (entries.map Prod.fst).Pairwise (· < ·)

namespace StdMap

variable {κ ν : Type} [LinearOrder κ]

/-! ### Entry lists -/

/-- The value stored under `k` in an entry list. -/
def findEntry (k : κ) : List (κ × ν) → Option ν
  | [] => none
  | e :: rest => if k = e.1 then some e.2 else findEntry k rest

/-- Set the value under `k` to `f` of the value found there, inserting `k` at its place in
key order when it is absent. -/
def alterEntry (k : κ) (f : Option ν → ν) : List (κ × ν) → List (κ × ν)
  | [] => [(k, f none)]
  | e :: rest =>
    if k < e.1 then (k, f none) :: e :: rest
    else if k = e.1 then (k, f (some e.2)) :: rest
    else e :: alterEntry k f rest

lemma findEntry_eq_none (k : κ) :
    ∀ l : List (κ × ν), k ∉ l.map Prod.fst → findEntry k l = none
  | [] => fun _ => rfl
  | e :: rest => fun h => by
    simp only [List.map_cons, List.mem_cons, not_or] at h
    simp only [findEntry, if_neg h.1, findEntry_eq_none k rest h.2]

/-- The three places `k` can take relative to the head of a nonempty entry list. -/
lemma alterEntry_cons (k : κ) (f : Option ν → ν) (e : κ × ν) (rest : List (κ × ν)) :
    (k < e.1 ∧ alterEntry k f (e :: rest) = (k, f none) :: e :: rest) ∨
    (k = e.1 ∧ alterEntry k f (e :: rest) = (k, f (some e.2)) :: rest) ∨
    (e.1 < k ∧ alterEntry k f (e :: rest) = e :: alterEntry k f rest) := by
  rcases lt_trichotomy k e.1 with h | h | h
  · exact .inl ⟨h, if_pos h⟩
  · exact .inr (.inl ⟨h, by rw [alterEntry, if_neg h.not_lt, if_pos h]⟩)
  · exact .inr (.inr ⟨h, by rw [alterEntry, if_neg h.not_lt, if_neg h.ne']⟩)

lemma mem_keys_alterEntry (k x : κ) (f : Option ν → ν) :
    ∀ l : List (κ × ν), x ∈ (alterEntry k f l).map Prod.fst ↔ x = k ∨ x ∈ l.map Prod.fst
  | [] => by simp [alterEntry]
  | e :: rest => by
    rcases alterEntry_cons k f e rest with ⟨-, h⟩ | ⟨he, h⟩ | ⟨-, h⟩ <;> rw [h]
    · simp
    · simp [he]
    · simp only [List.map_cons, List.mem_cons, mem_keys_alterEntry k x f rest]
      tauto

lemma sorted_alterEntry (k : κ) (f : Option ν → ν) :
    ∀ l : List (κ × ν), (l.map Prod.fst).Pairwise (· < ·) →
      ((alterEntry k f l).map Prod.fst).Pairwise (· < ·)
  | [] => fun _ => by simp [alterEntry]
  | e :: rest => fun h => by
    simp only [List.map_cons, List.pairwise_cons] at h
    rcases alterEntry_cons k f e rest with ⟨hlt, hr⟩ | ⟨he, hr⟩ | ⟨hlt, hr⟩ <;> rw [hr]
    · simp only [List.map_cons, List.pairwise_cons, List.mem_cons]
      exact ⟨fun b hb => hb.elim (· ▸ hlt) fun hb => hlt.trans (h.1 b hb), h⟩
    · simpa [he] using h
    · simp only [List.map_cons, List.pairwise_cons, mem_keys_alterEntry]
      exact ⟨fun b hb => hb.elim (· ▸ hlt) (h.1 b), sorted_alterEntry k f rest h.2⟩

lemma findEntry_alterEntry (k k' : κ) (f : Option ν → ν) :
    ∀ l : List (κ × ν), (l.map Prod.fst).Pairwise (· < ·) →
      findEntry k' (alterEntry k f l) =
        if k' = k then some (f (findEntry k l)) else findEntry k' l
  | [] => fun _ => by simp [alterEntry, findEntry]
  | e :: rest => fun h => by
    simp only [List.map_cons, List.pairwise_cons] at h
    rcases alterEntry_cons k f e rest with ⟨hlt, hr⟩ | ⟨he, hr⟩ | ⟨hlt, hr⟩ <;> rw [hr] <;>
      by_cases hk : k' = k
    · have hn : k ∉ rest.map Prod.fst := fun hm => lt_asymm hlt (h.1 _ hm)
      simp [findEntry, hk, findEntry_eq_none k rest hn, hlt.ne]
    · simp [findEntry, hk]
    · simp [findEntry, hk, he]
    · simp [findEntry, hk, he ▸ hk]
    · subst hk
      simp [findEntry, findEntry_alterEntry k' k' f rest h.2, hlt.ne']
    · simp only [findEntry, findEntry_alterEntry k k' f rest h.2, if_neg hk]

lemma length_alterEntry (k : κ) (f : Option ν → ν) :
    ∀ l : List (κ × ν), (l.map Prod.fst).Pairwise (· < ·) → (alterEntry k f l).length =
      if k ∈ l.map Prod.fst then l.length else l.length + 1
  | [] => fun _ => by simp [alterEntry]
  | e :: rest => fun h => by
    simp only [List.map_cons, List.pairwise_cons] at h
    rcases alterEntry_cons k f e rest with ⟨hlt, hr⟩ | ⟨he, hr⟩ | ⟨hlt, hr⟩ <;> rw [hr]
    · have hn : k ∉ rest.map Prod.fst := fun hm => lt_asymm hlt (h.1 _ hm)
      simp [hlt.ne, hn]
    · simp [he]
    · simp only [List.length_cons, length_alterEntry k f rest h.2, List.map_cons,
        List.mem_cons, hlt.ne', false_or]
      split_ifs <;> rfl

/-! ### Maps -/

/-- The empty map. -/
def empty : StdMap κ ν := ⟨[], List.Pairwise.nil⟩

/-- `m.find(k)`: the value under `k`, `none` for `end()`. -/
def find? (m : StdMap κ ν) (k : κ) : Option ν := findEntry k m.entries

/-- The keys in iteration order. -/
def keys (m : StdMap κ ν) : List κ := m.entries.map Prod.fst

/-- `m.size()`. -/
def size (m : StdMap κ ν) : Nat := m.entries.length

/-- The insertion primitive: the value under `k` becomes `f` of the value found there. -/
def alter (m : StdMap κ ν) (k : κ) (f : Option ν → ν) : StdMap κ ν :=
  ⟨alterEntry k f m.entries, sorted_alterEntry k f m.entries m.sorted⟩

/-- `m[k]` read: the value under `k`, the default `d` when absent. -/
def get (m : StdMap κ ν) (k : κ) (d : ν) : ν := (m.find? k).getD d

/-- `m[k]` followed by the update `g` of the referenced value: `operator[]` first inserts
the default `d` when `k` is absent. -/
def update (m : StdMap κ ν) (k : κ) (d : ν) (g : ν → ν) : StdMap κ ν :=
  m.alter k fun o => g (o.getD d)

/-- `m[k]` used only as a read: `operator[]` still inserts the default. -/
def touch (m : StdMap κ ν) (k : κ) (d : ν) : StdMap κ ν := m.update k d id

/-- `m[k] = v`. -/
def set (m : StdMap κ ν) (k : κ) (v : ν) : StdMap κ ν := m.alter k fun _ => v

/-- `m.erase(k)`. -/
def erase (m : StdMap κ ν) (k : κ) : StdMap κ ν :=
  ⟨m.entries.filter (·.1 ≠ k),
    (m.sorted.sublist ((List.filter_sublist m.entries).map Prod.fst))⟩

/-- The entries an iterator at key `k` still has to visit, `k`'s own entry first. -/
def fromKey (m : StdMap κ ν) (k : κ) : List (κ × ν) := m.entries.dropWhile (·.1 < k)

@[simp] lemma find?_empty (k : κ) : (empty : StdMap κ ν).find? k = none := rfl

@[simp] lemma keys_empty : (empty : StdMap κ ν).keys = [] := rfl

lemma find?_alter (m : StdMap κ ν) (k k' : κ) (f : Option ν → ν) :
    (m.alter k f).find? k' = if k' = k then some (f (m.find? k)) else m.find? k' :=
  findEntry_alterEntry k k' f m.entries m.sorted

@[simp] lemma find?_alter_self (m : StdMap κ ν) (k : κ) (f : Option ν → ν) :
    (m.alter k f).find? k = some (f (m.find? k)) := by
  simp [find?_alter]

@[simp] lemma find?_alter_ne (m : StdMap κ ν) {k k' : κ} (f : Option ν → ν) (h : k' ≠ k) :
    (m.alter k f).find? k' = m.find? k' := by
  simp [find?_alter, h]

lemma mem_keys_alter (m : StdMap κ ν) (k x : κ) (f : Option ν → ν) :
    x ∈ (m.alter k f).keys ↔ x = k ∨ x ∈ m.keys :=
  mem_keys_alterEntry k x f m.entries

/-- No key is ever lost to an insertion. -/
lemma keys_subset_alter (m : StdMap κ ν) (k : κ) (f : Option ν → ν) :
    m.keys ⊆ (m.alter k f).keys :=
  fun x hx => (mem_keys_alter m k x f).2 (.inr hx)

lemma size_ne_zero_of_mem {m : StdMap κ ν} {k : κ} (h : k ∈ m.keys) : m.size ≠ 0 := by
  rw [size, ← List.length_map _ Prod.fst, ← keys]
  exact (List.length_pos_of_mem h).ne'

/-- A map a key was inserted into is not empty. -/
lemma size_alter_ne_zero (m : StdMap κ ν) (k : κ) (f : Option ν → ν) : (m.alter k f).size ≠ 0 :=
  size_ne_zero_of_mem ((mem_keys_alter m k k f).2 (.inl rfl))

lemma size_alter (m : StdMap κ ν) (k : κ) (f : Option ν → ν) :
    (m.alter k f).size = if k ∈ m.keys then m.size else m.size + 1 :=
  length_alterEntry k f m.entries m.sorted

lemma findEntry_isSome_iff (k : κ) :
    ∀ l : List (κ × ν), (findEntry k l).isSome ↔ k ∈ l.map Prod.fst
  | [] => by simp [findEntry]
  | e :: rest => by
    by_cases h : k = e.1 <;> simp [findEntry, h, findEntry_isSome_iff k rest]

lemma mem_keys_iff (m : StdMap κ ν) (k : κ) : k ∈ m.keys ↔ (m.find? k).isSome :=
  (findEntry_isSome_iff k m.entries).symm

@[simp] lemma get_eq (m : StdMap κ ν) (k : κ) (d : ν) : m.get k d = (m.find? k).getD d := rfl

@[simp] lemma find?_update (m : StdMap κ ν) (k k' : κ) (d : ν) (g : ν → ν) :
    (m.update k d g).find? k' = if k' = k then some (g (m.get k d)) else m.find? k' :=
  find?_alter m k k' _

@[simp] lemma find?_touch (m : StdMap κ ν) (k k' : κ) (d : ν) :
    (m.touch k d).find? k' = if k' = k then some (m.get k d) else m.find? k' :=
  find?_alter m k k' _

@[simp] lemma find?_set (m : StdMap κ ν) (k k' : κ) (v : ν) :
    (m.set k v).find? k' = if k' = k then some v else m.find? k' :=
  find?_alter m k k' _

@[simp] lemma find?_set_self (m : StdMap κ ν) (k : κ) (v : ν) : (m.set k v).find? k = some v :=
  find?_alter_self m k _

/-- Touching with a null default adds a null entry at most. -/
lemma find?_touch_none {m : StdMap κ (Option ν)} {k k' : κ} {v : ν}
    (h : (m.touch k none).find? k' = some (some v)) : m.find? k' = some (some v) := by
  rw [find?_touch] at h
  split_ifs at h with hk
  · subst hk
    cases hf : m.find? k' <;> simp_all
  · exact h

lemma findEntry_filter (k k' : κ) :
    ∀ l : List (κ × ν), findEntry k' (l.filter (·.1 ≠ k)) =
      if k' = k then none else findEntry k' l
  | [] => by simp [findEntry]
  | e :: rest => by
    have ih := findEntry_filter k k' rest
    by_cases h : e.1 = k <;> by_cases h' : k' = e.1 <;> simp_all [findEntry, List.filter_cons]

@[simp] lemma find?_erase (m : StdMap κ ν) (k k' : κ) :
    (m.erase k).find? k' = if k' = k then none else m.find? k' :=
  findEntry_filter k k' m.entries

lemma findEntry_of_mem (e : κ × ν) :
    ∀ l : List (κ × ν), (l.map Prod.fst).Pairwise (· < ·) → e ∈ l → findEntry e.1 l = some e.2
  | [], _, h => absurd h (List.not_mem_nil _)
  | x :: rest, hs, h => by
    rw [List.map_cons, List.pairwise_cons] at hs
    rcases List.mem_cons.1 h with rfl | h
    · simp [findEntry]
    · rw [findEntry, if_neg (hs.1 e.1 (List.mem_map_of_mem _ h)).ne']
      exact findEntry_of_mem e rest hs.2 h

/-- An entry the map iterates over is what a lookup of its key finds. -/
lemma find?_of_mem (m : StdMap κ ν) {e : κ × ν} (h : e ∈ m.entries) : m.find? e.1 = some e.2 :=
  findEntry_of_mem e m.entries m.sorted h

lemma mem_keys_erase (m : StdMap κ ν) (k x : κ) : x ∈ (m.erase k).keys ↔ x ≠ k ∧ x ∈ m.keys := by
  simp only [erase, keys, List.mem_map, List.mem_filter, decide_eq_true_eq]
  constructor
  · rintro ⟨e, ⟨he, hk⟩, rfl⟩; exact ⟨hk, e, he, rfl⟩
  · rintro ⟨hk, e, he, rfl⟩; exact ⟨e, ⟨he, hk⟩, rfl⟩

/-- A map without keys has size `0`. -/
lemma size_eq_zero (m : StdMap κ ν) (h : ∀ k, k ∉ m.keys) : m.size = 0 := by
  rw [size, ← List.length_map _ Prod.fst, ← keys, List.eq_nil_iff_forall_not_mem.2 h,
    List.length_nil]

lemma le_of_mem_dropWhile (k : κ) :
    ∀ l : List (κ × ν), (l.map Prod.fst).Pairwise (· < ·) → ∀ e ∈ l.dropWhile (·.1 < k), k ≤ e.1
  | [], _ => by simp
  | x :: xs, h => by
    rw [List.map_cons, List.pairwise_cons] at h
    by_cases hx : x.1 < k
    · rw [List.dropWhile_cons_of_pos (by simpa using hx)]
      exact le_of_mem_dropWhile k xs h.2
    · rw [List.dropWhile_cons_of_neg (by simpa using hx)]
      intro e he
      rcases List.mem_cons.1 he with rfl | he
      · exact not_lt.1 hx
      · exact (not_lt.1 hx).trans (h.1 e.1 (List.mem_map_of_mem _ he)).le

/-- An iterator at key `k` visits no key below `k`. -/
lemma le_of_mem_fromKey (m : StdMap κ ν) (k : κ) : ∀ e ∈ m.fromKey k, k ≤ e.1 :=
  le_of_mem_dropWhile k m.entries m.sorted

/-- An iterator at `k` reaches exactly the keys from `k` on. -/
lemma mem_keys_fromKey (m : StdMap κ ν) (k x : κ) :
    x ∈ (m.fromKey k).map Prod.fst ↔ x ∈ m.keys ∧ k ≤ x := by
  simp only [keys, List.mem_map]
  constructor
  · rintro ⟨e, he, rfl⟩
    exact ⟨⟨e, (List.dropWhile_suffix _).subset he, rfl⟩, le_of_mem_fromKey m k e he⟩
  · rintro ⟨⟨e, he, rfl⟩, hk⟩
    rw [← List.takeWhile_append_dropWhile (fun e : κ × ν => decide (e.1 < k)) m.entries,
      List.mem_append] at he
    rcases he with h | h
    · exact absurd (by simpa using List.mem_takeWhile_imp h) (not_lt.2 hk)
    · exact ⟨e, h, rfl⟩

end StdMap

/-- `std::set<κ>`: a map to `Unit`. -/
abbrev StdSet (κ : Type) [LinearOrder κ] := StdMap κ Unit

end KtfInt
