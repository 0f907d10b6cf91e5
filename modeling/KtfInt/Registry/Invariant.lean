import Mathlib.Data.List.Nodup
import KtfInt.Registry.Enumerate

/-!
The representation invariant of the registry, over every reachable state.

`Reachable` closes the empty `KernelTestMgr` under the mutations, `get_test_names`, and the
`find_test` calls that return. `Inv` ties `kernelsets`, `set_names`, `next_set` and the sets'
ordinals together, and ties every non-null tests entry to the `KernelTest` it points to.

* one preservation lemma per operation: `Inv.findAddSet`, `Inv.addTest`, `Inv.addWrapper`,
  `Inv.probe` (hence `Inv.findTest`), `Inv.getTestNames`, and the context operations;
* `reachable_inv`: **the invariant holds in every reachable state**.
-/

namespace KtfInt

namespace KernelTestMgr

/-- Reachable from the empty manager by the registry's operations. -/
inductive Reachable : KernelTestMgr → Prop
  | empty : Reachable .empty
  | mutate {st : KernelTestMgr} (m : Mutation) : Reachable st → Reachable (Mutation.apply st m)
  | getTestNames {st : KernelTestMgr} : Reachable st → Reachable st.getTestNames.2
  | findTest {st : KernelTestMgr} (fuel : Nat) (s n pctx : List Char) (r) :
      Reachable st → st.findTest fuel s n pctx = some r → Reachable r.2.2

lemma Reachable.runMutations {st : KernelTestMgr} (h : Reachable st) (ms : List Mutation) :
    Reachable (runMutations st ms) :=
  runMutations_induction Reachable (fun m _ _ h => .mutate m h) h

/-- The heap object a non-null tests entry of set `s`, ordinal `setnum`, points to. -/
def Owns (kts : List KernelTest) (s t : List Char) (setnum : Nat) (p : Ptr) : Prop :=
  ∃ kt ∈ kts[p]?, kt.setname = s ∧ kt.testname = t ∧ kt.setnum = setnum

/-- The representation invariant. -/
structure Inv (st : KernelTestMgr) : Prop where
  nodup : st.setNames.Nodup
  kernelsets : ∀ s, s ∈ st.kernelsets.keys ↔ s ∈ st.setNames
  nextSet : st.nextSet = st.setNames.length
  ordinal : ∀ i (h : i < st.setNames.length),
    ∃ ts, st.sets.find? st.setNames[i] = some ts ∧ ts.setnum = i
  noPending : ∀ s ts t p, st.sets.find? s = some ts → ts.tests.find? t = some (some p) →
    ts.wrapper.find? t = none
  bound : ∀ s ts t p, st.sets.find? s = some ts → ts.tests.find? t = some (some p) →
    s ∈ st.setNames ∧ Owns st.kts s t ts.setnum p

lemma Inv.empty : Inv .empty where
  nodup := List.nodup_nil
  kernelsets := by simp [KernelTestMgr.empty]
  nextSet := rfl
  ordinal := by simp [KernelTestMgr.empty]
  noPending := by simp [KernelTestMgr.empty]
  bound := by simp [KernelTestMgr.empty]

/-- A registered set is in the sets map. -/
lemma Inv.find?_of_mem {st : KernelTestMgr} (h : Inv st) {s : List Char} (hs : s ∈ st.setNames) :
    ∃ ts, st.sets.find? s = some ts := by
  obtain ⟨i, hi, rfl⟩ := List.getElem_of_mem hs
  obtain ⟨ts, hts, -⟩ := h.ordinal i hi
  exact ⟨ts, hts⟩

lemma Owns.append {kts : List KernelTest} {s t : List Char} {n : Nat} {p : Ptr}
    (h : Owns kts s t n p) (more : List KernelTest) : Owns (kts ++ more) s t n p := by
  obtain ⟨kt, hkt, h⟩ := h
  have hp : p < kts.length := (List.getElem?_eq_some_iff.mp hkt).1
  exact ⟨kt, by rw [List.getElem?_append_left hp]; exact hkt, h⟩

lemma Owns.concat {kts : List KernelTest} {kt : KernelTest} {s t : List Char} {n : Nat}
    (hs : kt.setname = s) (ht : kt.testname = t) (hn : kt.setnum = n) :
    Owns (kts ++ [kt]) s t n kts.length :=
  ⟨kt, by simp, hs, ht, hn⟩

lemma Owns.modify {kts : List KernelTest} {s t : List Char} {n : Nat} {p : Ptr}
    (h : Owns kts s t n p) (q : Ptr) (cb : Nat) :
    Owns (kts.modify (fun kt => { kt with userTest := some cb }) q) s t n p := by
  obtain ⟨kt, hkt, h⟩ := h
  rw [Option.mem_def] at hkt
  by_cases hq : q = p
  · exact ⟨{ kt with userTest := some cb }, by simp [List.getElem?_modify, hkt, hq], h⟩
  · exact ⟨kt, by simp [List.getElem?_modify, hkt, hq], h⟩

/-! ### The operations keep the invariant -/

lemma Inv.findAddSet {st : KernelTestMgr} (h : Inv st) (s : List Char) :
    Inv (st.findAddSet s) := by
  unfold KernelTestMgr.findAddSet
  split
  · rename_i hnew
    have hs : s ∉ st.setNames := by
      rw [← h.kernelsets, StdMap.mem_keys_iff, hnew]; simp
    -- a non-null entry after the update was there before, in the same set but for its ordinal
    have hentry : ∀ s' ts t p,
        (st.sets.update s .empty fun ts => { ts with setnum := st.nextSet }).find? s' = some ts →
        ts.tests.find? t = some (some p) → ∃ ts0, st.sets.find? s' = some ts0 ∧
          ts0.tests.find? t = some (some p) ∧ ts.wrapper = ts0.wrapper ∧ (s' = s ∨ ts = ts0) := by
      intro s' ts t p hts ht
      by_cases hss : s' = s
      · subst hss
        cases hf : st.sets.find? s' with
        | none => simp [hf] at hts; subst hts; simp [Testset.empty] at ht
        | some ts0 => simp [hf] at hts; subst hts; exact ⟨ts0, rfl, ht, rfl, .inl rfl⟩
      · simp [hss] at hts; exact ⟨ts, hts, ht, rfl, .inr rfl⟩
    refine ⟨?_, ?_, ?_, ?_, ?_, ?_⟩
    · rw [List.nodup_append]
      exact ⟨h.nodup, List.nodup_singleton s, by simpa using hs⟩
    · intro x
      simp [StdMap.set, StdMap.mem_keys_alter, h.kernelsets, or_comm]
    · simp [h.nextSet]
    · intro i hi
      simp only [List.length_append, List.length_singleton] at hi
      rcases Nat.lt_succ_iff_lt_or_eq.mp hi with hi | rfl
      · have hne : st.setNames[i] ≠ s := fun he => hs (he ▸ List.getElem_mem hi)
        simpa [List.getElem_append_left hi, hne] using h.ordinal i hi
      · simp [h.nextSet]
    · intro s' ts t p hts ht
      obtain ⟨ts0, hf, ht0, hw, -⟩ := hentry s' ts t p hts ht
      exact hw ▸ h.noPending _ _ _ _ hf ht0
    · intro s' ts t p hts ht
      obtain ⟨ts0, hf, ht0, -, rfl | rfl⟩ := hentry s' ts t p hts ht
      · exact absurd (h.bound _ _ _ _ hf ht0).1 hs
      · obtain ⟨hm, ho⟩ := h.bound _ _ _ _ hf ht0
        exact ⟨by simp [hm], ho⟩
  · rename_i hold
    have hs : s ∈ st.setNames := by
      rw [← h.kernelsets, StdMap.mem_keys_iff]; simpa [Option.isSome_iff_ne_none] using hold
    obtain ⟨ts0, hts0⟩ := h.find?_of_mem hs
    have hsets : ∀ s', (st.sets.touch s .empty).find? s' = st.sets.find? s' := by
      intro s'; by_cases hss : s' = s <;> simp [hss, hts0]
    exact ⟨h.nodup, h.kernelsets, h.nextSet, by simpa [hsets] using h.ordinal,
      by simpa [hsets] using h.noPending, by simpa [hsets] using h.bound⟩

lemma Inv.mem_findAddSet {st : KernelTestMgr} (h : Inv st) (s : List Char) :
    s ∈ (st.findAddSet s).setNames := by
  unfold KernelTestMgr.findAddSet
  split
  · simp
  · rename_i hold
    rw [← h.kernelsets, StdMap.mem_keys_iff]; simpa [Option.isSome_iff_ne_none] using hold

/-- The set under `s` as the invariant sees it: stored whenever it has a non-null entry. -/
lemma find?_testset {st : KernelTestMgr} {s t : List Char} {p : Ptr}
    (ht : (st.testset s).tests.find? t = some (some p)) : st.sets.find? s = some (st.testset s) := by
  cases hf : st.sets.find? s with
  | none =>
    rw [testset_eq, hf] at ht
    simp [Testset.empty, StdMap.empty, StdMap.find?, StdMap.findEntry] at ht
  | some ts => simp [testset_eq, hf]

/-- A non-null entry of set `s` with one name touched was stored before. -/
lemma find?_touch_testset {st : KernelTestMgr} {s t t' : List Char} {p : Ptr}
    (ht : ((st.testset s).tests.touch t none).find? t' = some (some p)) :
    st.sets.find? s = some (st.testset s) ∧ (st.testset s).tests.find? t' = some (some p) :=
  have ht := StdMap.find?_touch_none ht
  ⟨find?_testset ht, ht⟩

/-- A registered set's ordinal, read through `testset`. -/
lemma Inv.setnum_testset {st : KernelTestMgr} (h : Inv st) (i : Nat) (hi : i < st.setNames.length) :
    (st.testset st.setNames[i]).setnum = i := by
  obtain ⟨ts, hts, hn⟩ := h.ordinal i hi
  simp [testset_eq, hts, hn]

/-- Replacing the set under `s` keeps the invariant when the new set keeps `s`'s ordinal,
leaves no bound test with a pending wrapper, and points only to heap objects that own it. -/
lemma Inv.replace {st st' : KernelTestMgr} (h : Inv st) (s : List Char)
    (hnames : st'.setNames = st.setNames) (hks : st'.kernelsets = st.kernelsets)
    (hnext : st'.nextSet = st.nextSet)
    (hother : ∀ s', s' ≠ s → st'.sets.find? s' = st.sets.find? s')
    (hsetnum : ∀ i (hi : i < st.setNames.length), st.setNames[i] = s →
      ∃ ts', st'.sets.find? s = some ts' ∧ ts'.setnum = i)
    (hpend : ∀ ts' t p, st'.sets.find? s = some ts' → ts'.tests.find? t = some (some p) →
      ts'.wrapper.find? t = none)
    (hbound : ∀ ts' t p, st'.sets.find? s = some ts' → ts'.tests.find? t = some (some p) →
      s ∈ st.setNames ∧ Owns st'.kts s t ts'.setnum p)
    (hkts : ∀ s t n p, Owns st.kts s t n p → Owns st'.kts s t n p) : Inv st' := by
  refine ⟨hnames ▸ h.nodup, fun x => hks ▸ hnames ▸ h.kernelsets x, hnext ▸ hnames ▸ h.nextSet,
    fun i hi => ?_, fun s' ts t p hts ht => ?_, fun s' ts t p hts ht => ?_⟩
  · simp only [hnames] at hi ⊢
    by_cases he : st.setNames[i] = s
    · exact he ▸ hsetnum i hi he
    · simpa [hother _ he] using h.ordinal i hi
  · by_cases hss : s' = s
    · exact hpend ts t p (hss ▸ hts) ht
    · exact h.noPending _ _ _ _ (hother _ hss ▸ hts) ht
  · rw [hnames]
    by_cases hss : s' = s
    · subst hss; exact hbound ts t p hts ht
    · obtain ⟨hm, ho⟩ := h.bound _ _ _ _ (hother _ hss ▸ hts) ht
      exact ⟨hm, hkts _ _ _ _ ho⟩

lemma Inv.addTest {st : KernelTestMgr} (h : Inv st) (s t : List Char) (hid : Nat) :
    Inv (st.addTest s t hid) := by
  have h1 : Inv (st.findAddTest s t) := by
    have h0 := h.findAddSet s
    exact ⟨h0.nodup, h0.kernelsets, h0.nextSet, h0.ordinal, h0.noPending, h0.bound⟩
  have hs : s ∈ (st.findAddTest s t).setNames := h.mem_findAddSet s
  obtain ⟨ts, hts⟩ := h1.find?_of_mem hs
  unfold KernelTestMgr.addTest
  rw [← kts_findAddTest st s t]
  generalize st.findAddTest s t = st1 at h1 hs hts
  refine h1.replace s rfl rfl rfl (fun s' hs' => by simp [hs']) (fun i hi he => ?_)
    (fun ts' t' p hts' ht' => ?_) (fun ts' t' p hts' ht' => ?_) fun _ _ _ _ ho => ho.append _
  · exact ⟨_, StdMap.find?_set_self _ _ _, by simpa [he] using h1.setnum_testset i hi⟩
  all_goals
    simp only [StdMap.find?_set, if_true, Option.some.injEq, testset_eq, hts,
      Option.getD_some] at hts'
    subst hts'
    rw [register_tests_find?] at ht'
    split_ifs at ht' with htt
  · simp [htt]
  · simpa [htt] using h1.noPending _ _ _ _ hts ht'
  · cases htt; cases ht'
    exact ⟨hs, Owns.concat rfl rfl (by simp [testset_eq, hts])⟩
  · obtain ⟨hm, ho⟩ := h1.bound _ _ _ _ hts ht'
    exact ⟨hm, ho.append _⟩

lemma Inv.addWrapper {st : KernelTestMgr} (h : Inv st) (s t : List Char) (cb : Nat) :
    Inv (st.addWrapper s t cb) := by
  unfold KernelTestMgr.addWrapper
  dsimp only
  split
  · refine h.replace s rfl rfl rfl (fun s' hs' => by simp [hs'])
      (fun i hi he => ⟨_, StdMap.find?_set_self _ _ _, by simpa [he] using h.setnum_testset i hi⟩)
      (fun ts' t' q hts' ht' => ?_) (fun ts' t' q hts' ht' => ?_) fun _ _ _ _ ho => ho.modify _ _
    all_goals
      simp only [StdMap.find?_set_self, Option.some.injEq] at hts'
      subst hts'
      obtain ⟨hf, ht⟩ := find?_touch_testset ht'
    · exact h.noPending _ (st.testset s) _ _ hf ht
    · obtain ⟨hm, ho⟩ := h.bound _ (st.testset s) _ _ hf ht
      exact ⟨hm, ho.modify _ _⟩
  · rename_i hp
    refine h.replace s rfl rfl rfl (fun s' hs' => by simp [hs'])
      (fun i hi he => ⟨_, StdMap.find?_set_self _ _ _, by simpa [he] using h.setnum_testset i hi⟩)
      (fun ts' t' q hts' ht' => ?_) (fun ts' t' q hts' ht' => ?_) fun _ _ _ _ ho => ho
    all_goals
      simp only [StdMap.find?_set_self, Option.some.injEq] at hts'
      subst hts'
      obtain ⟨hf, ht⟩ := find?_touch_testset ht'
    · have htt : t' ≠ t := by rintro rfl; simp [ht] at hp
      simpa [htt] using h.noPending _ (st.testset s) _ _ hf ht
    · exact h.bound _ (st.testset s) _ _ hf ht

lemma Inv.probe {st : KernelTestMgr} (h : Inv st) (s t : List Char) : Inv (st.probe s t).2 := by
  refine h.replace s rfl rfl rfl (fun s' hs' => by simp [KernelTestMgr.probe, hs'])
    (fun i hi he => ⟨_, StdMap.find?_alter_self _ _ _, by simpa [he] using h.setnum_testset i hi⟩)
    (fun ts' t' q hts' ht' => ?_) (fun ts' t' q hts' ht' => ?_) fun _ _ _ _ ho => ho
  all_goals
    simp only [KernelTestMgr.probe, StdMap.find?_update, if_true, Option.some.injEq] at hts'
    subst hts'
    obtain ⟨hf, ht⟩ := find?_touch_testset ht'
  · exact h.noPending _ (st.testset s) _ _ hf ht
  · exact h.bound _ (st.testset s) _ _ hf ht

lemma Inv.probeAll {st : KernelTestMgr} (h : Inv st) (reads : List (List Char × List Char)) :
    Inv (st.probeAll reads) := by
  induction reads generalizing st with
  | nil => exact h
  | cons r rs ih => exact ih (h.probe r.1 r.2)

lemma Inv.findTest {st : KernelTestMgr} (h : Inv st) {fuel : Nat} {s n pctx : List Char} {r}
    (hr : st.findTest fuel s n pctx = some r) : Inv r.2.2 := by
  obtain ⟨reads, he⟩ := findTest_probes fuel st s n pctx r hr
  exact he ▸ h.probeAll reads

lemma Inv.getTestNames {st : KernelTestMgr} (h : Inv st) : Inv st.getTestNames.2 := by
  obtain ⟨c, hc⟩ := getTestNames_eq st
  rw [hc]
  exact ⟨h.nodup, h.kernelsets, h.nextSet, h.ordinal, h.noPending, h.bound⟩

lemma Inv.mutate {st : KernelTestMgr} (h : Inv st) (m : Mutation) : Inv (Mutation.apply st m) := by
  cases m with
  | addTest s t hid => exact h.addTest s t hid
  | addWrapper s t cb => exact h.addWrapper s t cb
  | findAddSet s => exact h.findAddSet s
  | addCset hid ctxs => exact ⟨h.nodup, h.kernelsets, h.nextSet, h.ordinal, h.noPending, h.bound⟩
  | addConfigurableContext c ty hid stat =>
    exact ⟨h.nodup, h.kernelsets, h.nextSet, h.ordinal, h.noPending, h.bound⟩

lemma Inv.runMutations {st : KernelTestMgr} (h : Inv st) (ms : List Mutation) :
    Inv (KtfInt.runMutations st ms) :=
  runMutations_induction Inv (fun m _ _ h => h.mutate m) h

/-- A bound test points to an object of its own name and set. -/
lemma Inv.owns_of_lookup {st : KernelTestMgr} (h : Inv st) {s t : List Char} {p : Ptr}
    (hl : st.lookup s t = some p) : ∃ kt ∈ st.kts[p]?, kt.setname = s ∧ kt.testname = t := by
  rw [lookup_eq, Option.join_eq_some] at hl
  obtain ⟨-, kt, hkt, h1, h2, -⟩ := h.bound s _ t p (find?_testset hl) hl
  exact ⟨kt, hkt, h1, h2⟩

/-- **The registry's representation invariant holds in every reachable state**: `set_names`
is duplicate-free and holds exactly the members of `kernelsets`; `next_set` counts it and
its `i`-th set is stored with ordinal `i`; no set has both a bound test and a pending wrapper
under one name; and every bound test points to a `KernelTest` of that name and set, with
the set's ordinal, in a registered set. -/
theorem reachable_inv {st : KernelTestMgr} (h : Reachable st) : Inv st := by
  induction h with
  | empty => exact Inv.empty
  | mutate m _ ih => exact ih.mutate m
  | getTestNames _ ih => exact ih.getTestNames
  | findTest fuel s n pctx r _ hr ih => exact ih.findTest hr

/-- The invariant after a wrapper registered ahead of its kernel test, then the test. -/
theorem reachable_inv_wrapper_first :
    let st := runMutations .empty
      [.addWrapper "s".toList "t".toList 7, .addTest "s".toList "t".toList 0]
    Reachable st ∧ Inv st :=
  have h := Reachable.empty.runMutations
    [.addWrapper "s".toList "t".toList 7, .addTest "s".toList "t".toList 0]
  ⟨h, reachable_inv h⟩

end KernelTestMgr

end KtfInt
