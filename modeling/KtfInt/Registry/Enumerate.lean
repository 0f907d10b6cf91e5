import KtfInt.Registry.FindTest

/-!
Enumeration, `KernelTestMgr::get_test_names` and `get_current_setname`: a cursor over the
sets map, in key order, that skips every set with a pending wrapper.

The skip loop tests `cur->it->second.wrapper.size() != 0 && cur->it != sets.end()`: the
set under the cursor is read before the cursor is compared with `end()`. At `end()` the
comparison makes the condition false whatever the read returned, so the model lets the
loop stop there and records the read (`getTestNamesReads`).

* `enumerate_remaining`: from a cursor, the calls return the name list of every set without
  a pending wrapper still ahead of it, in key order, then one empty list that resets the
  cursor;
* `getTestNames_empty_set_first`: a set without tests returns the same empty list, but keeps
  the cursor, so the empty list does not tell the caller that the enumeration is over;
* `getTestNamesReads_end`: a call that runs off the end of the map reads through `end()`;
* `getTestNames_lt`: a call moves the cursor forward in key order, whatever was added to the
  map since the last call.
-/

namespace KtfInt

namespace KernelTestMgr

/-- The skip loop over the entries from the cursor on: the entries from the first set
without a pending wrapper, and the positions whose set the loop condition read (`none` for a
read through `sets.end()`). -/
def skipPending :
    List (List Char × Testset) → List (List Char × Testset) × List (Option (List Char))
  | [] => ([], [none])
  | e :: rest =>
    if e.2.wrapper.size ≠ 0 then ((skipPending rest).1, some e.1 :: (skipPending rest).2)
    else (e :: rest, [some e.1])

/-- The entries a cursor still has to visit: all of them for a fresh cursor, which starts
at `sets.begin()`, none at `end()`. -/
def remaining (st : KernelTestMgr) : List (List Char × Testset) :=
  match st.cur with
  | none => st.sets.entries
  | some c => match c.it with
    | none => []
    | some k => st.sets.fromKey k

/-- `get_test_names()`: the name list of the next set without a pending wrapper, the cursor
moved past it; at the end, an empty list and the cursor deleted. -/
def getTestNames (st : KernelTestMgr) : List (List Char) × KernelTestMgr :=
  match (skipPending st.remaining).1 with
  | [] => ([], { st with cur := none })
  | (k, ts) :: after => (ts.testNames, { st with cur := some ⟨after.head?.map Prod.fst, k⟩ })

/-- The positions of the sets `get_test_names` reads: those of the skip loop, then the one
whose name list it returns. -/
def getTestNamesReads (st : KernelTestMgr) : List (Option (List Char)) :=
  (skipPending st.remaining).2 ++ ((skipPending st.remaining).1.head?.map fun e => some e.1).toList

/-- `get_current_setname()`: the name stored in the cursor; `none` where the cursor is NULL
and the call would dereference it. -/
def getCurrentSetname (st : KernelTestMgr) : Option (List Char) := st.cur.map (·.setname)

/-- `k` successive `get_test_names` calls, each with the `get_current_setname` after it. -/
def enumerate : Nat → KernelTestMgr → List (List (List Char) × Option (List Char))
  | 0, _ => []
  | k + 1, st => (st.getTestNames.1, st.getTestNames.2.getCurrentSetname) ::
      enumerate k st.getTestNames.2

/-- The sets a full enumeration returns: those without a pending wrapper. -/
def runnable (l : List (List Char × Testset)) : List (List Char × Testset) :=
  l.filter fun e => e.2.wrapper.size = 0

/-! ### The skip loop -/

lemma skipPending_fst (l : List (List Char × Testset)) :
    (skipPending l).1 = l.dropWhile fun e => e.2.wrapper.size ≠ 0 := by
  induction l with
  | nil => rfl
  | cons e rest ih => by_cases h : e.2.wrapper.size = 0 <;> simp [skipPending, h, ih]

/-- The loop reads through `end()` exactly when it finds no set to return. -/
lemma none_mem_skipPending (l : List (List Char × Testset)) :
    none ∈ (skipPending l).2 ↔ (skipPending l).1 = [] := by
  induction l with
  | nil => simp [skipPending]
  | cons e rest ih => by_cases h : e.2.wrapper.size = 0 <;> simp [skipPending, h, ih]

/-- The first set the loop stops at heads the runnable sets of what it scanned. -/
lemma runnable_of_skipPending (l after : List (List Char × Testset)) (e : List Char × Testset)
    (h : (skipPending l).1 = e :: after) : runnable l = e :: runnable after ∧ after <:+ l := by
  induction l with
  | nil => simp [skipPending] at h
  | cons x rest ih =>
    by_cases hx : x.2.wrapper.size = 0
    · simp only [skipPending, hx, ne_eq, not_true_eq_false, if_false, List.cons.injEq] at h
      obtain ⟨rfl, rfl⟩ := h
      exact ⟨by simp [runnable, hx], List.suffix_cons _ _⟩
    · simp only [skipPending, hx, ne_eq, not_false_eq_true, if_true] at h
      obtain ⟨h1, h2⟩ := ih h
      exact ⟨by simpa [runnable, hx] using h1, h2.trans (List.suffix_cons _ _)⟩

lemma runnable_of_skipPending_nil (l : List (List Char × Testset))
    (h : (skipPending l).1 = []) : runnable l = [] := by
  rw [skipPending_fst, List.dropWhile_eq_nil_iff] at h
  simpa [runnable, List.filter_eq_nil_iff] using h

/-! ### The cursor -/

/-- In a sorted map, an iterator at a key reaches exactly the entries from that key on. -/
lemma fromKey_of_suffix (m : StdMap (List Char) Testset) (e : List Char × Testset)
    (after : List (List Char × Testset)) (h : e :: after <:+ m.entries) :
    m.fromKey e.1 = e :: after := by
  obtain ⟨pre, hpre⟩ := h
  have hs := m.sorted
  rw [← hpre, List.map_append, List.pairwise_append] at hs
  rw [StdMap.fromKey, ← hpre, List.dropWhile_append_of_pos]
  · simp
  · intro x hx
    simpa using hs.2.2 x.1 (List.mem_map_of_mem _ hx) e.1 (by simp)

@[simp] lemma getTestNames_sets (st : KernelTestMgr) : st.getTestNames.2.sets = st.sets := by
  unfold getTestNames; split <;> rfl

/-- One call from a cursor whose remaining entries are a suffix of the map: the result and
what remains after it. -/
lemma getTestNames_step (st : KernelTestMgr) (hR : st.remaining <:+ st.sets.entries) :
    (runnable st.remaining = [] ∧ st.getTestNames = ([], { st with cur := none })) ∨
    ∃ e after, runnable st.remaining = e :: runnable after ∧ after <:+ st.sets.entries ∧
      st.getTestNames.1 = e.2.testNames ∧ st.getTestNames.2.getCurrentSetname = some e.1 ∧
      st.getTestNames.2.remaining = after := by
  unfold getTestNames
  split
  · rename_i h
    exact .inl ⟨runnable_of_skipPending_nil _ h, rfl⟩
  · rename_i k ts after h
    obtain ⟨hrun, hsuf⟩ := runnable_of_skipPending _ _ _ h
    refine .inr ⟨(k, ts), after, hrun, hsuf.trans hR, rfl, rfl, ?_⟩
    cases after with
    | nil => rfl
    | cons a rest => exact fromKey_of_suffix st.sets a rest (hsuf.trans hR)

/-- A call moves the cursor and nothing else. -/
lemma getTestNames_eq (st : KernelTestMgr) : ∃ c, st.getTestNames.2 = { st with cur := c } := by
  unfold getTestNames; split <;> exact ⟨_, rfl⟩

/-- The calls from a cursor whose remaining entries are a suffix of the map, until the
cursor is reset. -/
lemma enumerate_remaining : ∀ n (st : KernelTestMgr), st.remaining <:+ st.sets.entries →
    (runnable st.remaining).length = n →
    enumerate (n + 1) st =
      (runnable st.remaining).map (fun e => (e.2.testNames, some e.1)) ++ [([], none)] ∧
    (fun s : KernelTestMgr => s.getTestNames.2)^[n + 1] st = { st with cur := none } := by
  intro n
  induction n with
  | zero =>
    intro st hR hn
    rcases getTestNames_step st hR with ⟨hr, h⟩ | ⟨e, after, hr, -⟩
    · simp [enumerate, hr, h, getCurrentSetname]
    · simp [hr] at hn
  | succ n ih =>
    intro st hR hn
    rcases getTestNames_step st hR with ⟨hr, -⟩ | ⟨e, after, hr, hsuf, h1, h2, h3⟩
    · simp [hr] at hn
    · rw [hr, List.length_cons, Nat.add_right_cancel_iff] at hn
      obtain ⟨c, hc⟩ := getTestNames_eq st
      obtain ⟨ih1, ih2⟩ := ih st.getTestNames.2 (by simpa [h3] using hsuf) (by rw [h3, hn])
      refine ⟨?_, ?_⟩
      · rw [enumerate, ih1, h1, h2, h3, hr]; simp
      · rw [Function.iterate_succ_apply, ih2, hc]

/-- An empty set before a runnable one in key order, as `parse_query` registers a listed set
without tests: the first call returns its empty name list, yet keeps the cursor; the second
call returns the next set's list, and only the third runs off the end of the map, returning
the same empty list and deleting the cursor. -/
theorem getTestNames_empty_set_first :
    let st : KernelTestMgr :=
      runMutations .empty [.findAddSet "a".toList, .addTest "b".toList "t".toList 0]
    st.getTestNames.1 = [] ∧ st.getTestNames.2.cur = some ⟨some "b".toList, "a".toList⟩ ∧
      st.getTestNames.2.getTestNames.1 = ["t".toList] ∧
      st.getTestNames.2.getTestNames.2.getTestNames.1 = [] ∧
      st.getTestNames.2.getTestNames.2.getTestNames.2.cur = none := by
  decide

/-- A call that finds no further set has read through `sets.end()`. -/
lemma getTestNamesReads_end (st : KernelTestMgr) (h : st.getTestNames.2.cur = none) :
    none ∈ st.getTestNamesReads := by
  unfold getTestNames at h
  split at h
  · rename_i hnil
    exact List.mem_append_left _ ((none_mem_skipPending _).mpr hnil)
  · simp at h

/-- On the empty registry the first call reads the set under `sets.begin() == sets.end()`. -/
theorem getTestNamesReads_empty : KernelTestMgr.empty.getTestNamesReads = [none] := by
  decide

/-! ### The cursor moves forward -/

/-- The cursor stands past the set it returned last: the set under it, if any, has a larger
key. -/
def CursorAhead (st : KernelTestMgr) : Prop := ∀ c ∈ st.cur, ∀ k ∈ c.it, c.setname < k

lemma skipPending_suffix (l : List (List Char × Testset)) : (skipPending l).1 <:+ l := by
  rw [skipPending_fst]; exact List.dropWhile_suffix _

lemma remaining_suffix (st : KernelTestMgr) : st.remaining <:+ st.sets.entries := by
  unfold remaining
  split
  · exact List.suffix_refl _
  · split
    · exact List.nil_suffix
    · exact List.dropWhile_suffix _

/-- A set the cursor still has to visit stays so while the cursor stays and the map only
gains keys. -/
lemma mem_remaining_of_keys {st st' : KernelTestMgr} (hcur : st'.cur = st.cur)
    (hkeys : st.sets.keys ⊆ st'.sets.keys) {x : List Char}
    (hx : x ∈ st.remaining.map Prod.fst) : x ∈ st'.remaining.map Prod.fst := by
  cases hc : st.cur with
  | none => simp only [remaining, hcur, hc] at hx ⊢; exact hkeys hx
  | some c =>
    cases hit : c.it with
    | none => simp [remaining, hc, hit] at hx
    | some k =>
      simp only [remaining, hcur, hc, hit, StdMap.mem_keys_fromKey] at hx ⊢
      exact ⟨hkeys hx.1, hx.2⟩

/-- **A call never passes a set it can return**: from a cursor that still has to visit a set
without a pending wrapper, a call returns that set, or a set before it and leaves the cursor
with that set still to visit. -/
lemma getTestNames_visits {st : KernelTestMgr} {x : List Char}
    (hx : x ∈ st.remaining.map Prod.fst) (hw : (st.testset x).wrapper.size = 0) :
    st.getTestNames.2.getCurrentSetname = some x ∨
      st.getTestNames.2.getCurrentSetname ≠ none ∧
        x ∈ st.getTestNames.2.remaining.map Prod.fst := by
  obtain ⟨e, he, rfl⟩ := List.mem_map.1 hx
  have hts : st.testset e.1 = e.2 := by
    rw [testset_eq, StdMap.find?_of_mem _ ((remaining_suffix st).subset he)]; rfl
  have hrun : e ∈ runnable st.remaining := List.mem_filter.2 ⟨he, by simpa [hts] using hw⟩
  rcases getTestNames_step st (remaining_suffix st) with ⟨h0, -⟩ | ⟨e', after, hr, -, -, hcs, hrem⟩
  · rw [h0] at hrun; cases hrun
  · rw [hr] at hrun
    rcases List.mem_cons.1 hrun with rfl | h
    · exact .inl hcs
    · exact .inr ⟨by simp [hcs], hrem ▸ List.mem_map_of_mem _ (List.mem_filter.1 h).1⟩

/-- A call never returns a set with a pending wrapper. -/
lemma getTestNames_ne_of_pending {st : KernelTestMgr} {s : List Char}
    (hw : (st.testset s).wrapper.size ≠ 0) : st.getTestNames.2.getCurrentSetname ≠ some s := by
  rcases getTestNames_step st (remaining_suffix st) with ⟨-, h⟩ | ⟨e, after, hr, -, -, hcs, -⟩
  · simp [h, getCurrentSetname]
  · rw [hcs]
    intro he
    obtain rfl := Option.some.inj he
    obtain ⟨hmem, hz⟩ := List.mem_filter.1 (hr ▸ List.mem_cons_self e _ : e ∈ runnable st.remaining)
    apply hw
    rw [testset_eq, StdMap.find?_of_mem _ ((remaining_suffix st).subset hmem)]
    simpa using hz

/-- A call leaves the cursor past the set it returns, since the map is sorted. -/
lemma getTestNames_ahead (st : KernelTestMgr) : st.getTestNames.2.CursorAhead := by
  unfold getTestNames
  split
  · simp [CursorAhead]
  · rename_i k ts after h
    have hsuf : (k, ts) :: after <:+ st.sets.entries :=
      h ▸ (skipPending_suffix _).trans (remaining_suffix st)
    have hs := st.sets.sorted.sublist (hsuf.sublist.map Prod.fst)
    rw [List.map_cons, List.pairwise_cons] at hs
    simp only [CursorAhead, Option.mem_def, Option.some.injEq, forall_eq', Option.map_eq_some',
      forall_exists_index, and_imp]
    intro k' e he hk
    exact hs.1 k' (hk ▸ List.mem_map_of_mem _ (List.mem_of_mem_head? he))

/-- A name a call returns is a generated name of the set it leaves the cursor on. -/
lemma mem_getTestNames {st : KernelTestMgr} {n : List Char} (h : n ∈ st.getTestNames.1) :
    ∃ s, st.getTestNames.2.getCurrentSetname = some s ∧ n ∈ (st.testset s).testNames := by
  revert h
  unfold getTestNames
  split
  · intro h; cases h
  · rename_i k ts after he
    intro h
    have hmem : (k, ts) ∈ st.sets.entries :=
      ((skipPending_suffix _).trans (remaining_suffix st)).subset (he ▸ .head _)
    refine ⟨k, rfl, ?_⟩
    rw [testset_eq, StdMap.find?_of_mem _ hmem]
    exact h

/-- **A call moves the cursor forward.** From a cursor past the set it returned last, the
next set returned has a larger key, whatever the registry holds by then. -/
lemma getTestNames_lt {st : KernelTestMgr} (ha : st.CursorAhead) {c : NameIter}
    (hc : st.cur = some c) : ∀ c' ∈ st.getTestNames.2.cur, c.setname < c'.setname := by
  unfold getTestNames
  split
  · simp
  · rename_i k ts after h
    simp only [Option.mem_def, Option.some.injEq, forall_eq']
    cases hit : c.it with
    | none => simp [remaining, hc, hit, skipPending] at h
    | some k0 =>
      simp only [remaining, hc, hit] at h
      have hmem : (k, ts) ∈ st.sets.fromKey k0 := (skipPending_suffix _).subset (h ▸ .head _)
      exact lt_of_lt_of_le (ha c hc k0 hit) (StdMap.le_of_mem_fromKey _ _ _ hmem)

end KernelTestMgr

end KtfInt
