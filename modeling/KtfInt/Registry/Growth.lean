import KtfInt.Registry.Invariant

/-!
What the registry's state changes never undo.

Every state change of the library is made of a few primitive ones: a registry mutation, an
`operator[]` read of `find_test` (`probe`), `get_priv`, and the cursor move of
`get_test_names`. A relation between an earlier and a later state that each primitive
respects, and that is reflexive and transitive, holds between any two states of any run
(`Respects`, used in `KtfInt.Api.Session`).

* `Extends`: **the registry only grows**: the set names, the keys of the sets map, each set's
  generated names and each context name's records are only ever extended, a bound test name
  stays bound, and a handle with a context list keeps one;
* `Extends.findTest_some`: so a name `find_test` resolves keeps resolving;
* `HeapLater`: **no object is freed, renamed or renumbered**: a private block, once
  allocated, keeps its size, and a bound callback stays bound;
* `cur_respects`: only `get_test_names` moves the cursor;
* `Inv.getPriv`: `get_priv` keeps the representation invariant;
* `NamesBound`: every generated name of a set derives from a test bound in it, and every
  primitive change keeps it so.
-/

namespace KtfInt

/-! ### Objects over time -/

/-- `kt'` is the object `kt` later on: only its callback and its private block may have
changed, a private block once allocated keeps its size, and a callback once bound stays
bound. -/
structure KernelTest.Later (kt kt' : KernelTest) : Prop where
  fields : ∃ cb priv sz, kt' = { kt with userTest := cb, userPriv := priv, userPrivSz := sz }
  priv : kt.userPriv ≠ none → kt'.userPriv = kt.userPriv ∧ kt'.userPrivSz = kt.userPrivSz
  test : kt.userTest ≠ none → kt'.userTest ≠ none

namespace KernelTest

lemma Later.refl (kt : KernelTest) : kt.Later kt :=
  ⟨⟨kt.userTest, kt.userPriv, kt.userPrivSz, rfl⟩, fun _ => ⟨rfl, rfl⟩, id⟩

lemma Later.trans {a b c : KernelTest} (h₁ : a.Later b) (h₂ : b.Later c) : a.Later c where
  fields := by
    obtain ⟨cb, priv, sz, rfl⟩ := h₂.fields
    obtain ⟨-, -, -, rfl⟩ := h₁.fields
    exact ⟨cb, priv, sz, rfl⟩
  priv h := by
    obtain ⟨h1, h2⟩ := h₁.priv h
    obtain ⟨h3, h4⟩ := h₂.priv (h1 ▸ h)
    exact ⟨h3.trans h1, h4.trans h2⟩
  test h := h₂.test (h₁.test h)

end KernelTest

/-- The heap later on: every object it held is still there, later. -/
def HeapLater (kts kts' : List KernelTest) : Prop :=
  ∀ p : Ptr, ∀ kt ∈ kts[p]?, ∃ kt' ∈ kts'[p]?, kt.Later kt'

namespace HeapLater

lemma refl (kts : List KernelTest) : HeapLater kts kts :=
  fun _ kt h => ⟨kt, h, .refl kt⟩

lemma trans {a b c : List KernelTest} (h₁ : HeapLater a b) (h₂ : HeapLater b c) :
    HeapLater a c := fun p kt h => by
  obtain ⟨kt', h', hl⟩ := h₁ p kt h
  obtain ⟨kt'', h'', hl'⟩ := h₂ p kt' h'
  exact ⟨kt'', h'', hl.trans hl'⟩

/-- Allocation keeps the objects there are. -/
lemma append (kts more : List KernelTest) : HeapLater kts (kts ++ more) := fun p kt h =>
  ⟨kt, by rw [List.getElem?_append_left (List.getElem?_eq_some_iff.mp h).1]; exact h, .refl kt⟩

/-- Changing one object as `f` does keeps the heap when `f` only moves an object later. -/
lemma modify (kts : List KernelTest) {f : KernelTest → KernelTest}
    (hf : ∀ kt : KernelTest, kt.Later (f kt))
    (q : Nat) : HeapLater kts (kts.modify f q) := fun p kt h => by
  rw [Option.mem_def] at h
  by_cases hq : q = p
  · exact ⟨f kt, by simp [List.getElem?_modify, h, hq], hf kt⟩
  · exact ⟨kt, by simp [List.getElem?_modify, h, hq], .refl kt⟩

end HeapLater

/-- `get_priv` allocates a block only for an object that has none. -/
lemma KernelTest.later_getPriv (sz : Nat) (kt : KernelTest) :
    kt.Later (if kt.userPriv = none then { kt with userPriv := some sz, userPrivSz := sz }
      else kt) := by
  split
  · rename_i h
    exact ⟨⟨kt.userTest, _, _, rfl⟩, fun h' => absurd h h', id⟩
  · exact .refl kt

/-- `add_wrapper` binds a callback. -/
lemma KernelTest.later_userTest (cb : Nat) (kt : KernelTest) :
    kt.Later { kt with userTest := some cb } :=
  ⟨⟨some cb, kt.userPriv, kt.userPrivSz, rfl⟩, fun _ => ⟨rfl, rfl⟩, fun _ => Option.some_ne_none _⟩

namespace KernelTestMgr

/-! ### Relations the primitive changes respect -/

/-- A reflexive and transitive relation between an earlier and a later state that every
primitive state change outside `get_test_names` respects. -/
structure Respects (R : KernelTestMgr → KernelTestMgr → Prop) : Prop where
  refl : ∀ st, R st st
  trans : ∀ {a b c}, R a b → R b c → R a c
  mutate : ∀ st m, R st (Mutation.apply st m)
  probe : ∀ st s t, R st (st.probe s t).2
  getPriv : ∀ st p sz, R st (st.getPriv p sz)

section Respects

variable {R : KernelTestMgr → KernelTestMgr → Prop} (hR : Respects R)
include hR

lemma Respects.runMutations (st : KernelTestMgr) (ms : List Mutation) :
    R st (KtfInt.runMutations st ms) :=
  runMutations_induction (R st) (fun m _ s h => hR.trans h (hR.mutate s m)) (hR.refl st)

lemma Respects.probeAll (st : KernelTestMgr) (reads : List (List Char × List Char)) :
    R st (st.probeAll reads) := by
  induction reads generalizing st with
  | nil => exact hR.refl st
  | cons r rs ih => exact hR.trans (hR.probe st r.1 r.2) (ih _)

lemma Respects.findTest {st : KernelTestMgr} {fuel : Nat} {s n pctx : List Char} {r}
    (h : st.findTest fuel s n pctx = some r) : R st r.2.2 := by
  obtain ⟨reads, e⟩ := findTest_probes fuel st s n pctx r h
  exact e ▸ hR.probeAll st reads

end Respects

/-! ### The cursor -/

lemma cur_findAddSet (st : KernelTestMgr) (s : List Char) : (st.findAddSet s).cur = st.cur := by
  unfold findAddSet; split <;> rfl

/-- Only `get_test_names` moves the cursor. -/
lemma cur_respects : Respects fun st st' => st'.cur = st.cur where
  refl _ := rfl
  trans h₁ h₂ := h₂.trans h₁
  mutate st m := by
    cases m with
    | addTest s t hid => simp [Mutation.apply, addTest, findAddTest, cur_findAddSet]
    | addWrapper s t cb => simp only [Mutation.apply, addWrapper]; split <;> rfl
    | findAddSet s => exact cur_findAddSet st s
    | addCset _ _ | addConfigurableContext _ _ _ _ => rfl
  probe _ _ _ := rfl
  getPriv _ _ _ := rfl

/-! ### The registry only grows -/

/-- `st'` keeps all that `st` registered: the set names, the keys of the sets map, each set's
generated names and each context name's records are only extended at their end, a test
name bound to an object stays bound (possibly to a newer one), and a handle with a context
list keeps one. -/
structure Extends (st st' : KernelTestMgr) : Prop where
  setNames : st.setNames <+: st'.setNames
  sets : st.sets.keys ⊆ st'.sets.keys
  names : ∀ s, (st.testset s).testNames <+: (st'.testset s).testNames
  bound : ∀ s t, (st.lookup s t).isSome → (st'.lookup s t).isSome
  contexts : ∀ c, st.findContexts c <+: st'.findContexts c
  handles : st.handleToCtxvec.keys ⊆ st'.handleToCtxvec.keys

/-- A change that keeps the set names, the sets map, the context records and the handle map
keeps it all. -/
lemma Extends.of_eq {st st' : KernelTestMgr} (h1 : st'.setNames = st.setNames)
    (h2 : st'.sets = st.sets) (h3 : st'.cfgContexts = st.cfgContexts)
    (h4 : st'.handleToCtxvec = st.handleToCtxvec) : Extends st st' where
  setNames := h1 ▸ List.prefix_refl _
  sets := h2 ▸ List.Subset.refl _
  names s := by simp only [testset, h2, List.prefix_refl]
  bound s t := by rw [lookup, lookup, h2]; exact id
  contexts c := by simp only [findContexts, h3, List.prefix_refl]
  handles := by simp only [h4, List.Subset.refl]

lemma mem_keys_findAddSet (st : KernelTestMgr) (s x : List Char) :
    x ∈ (st.findAddSet s).sets.keys ↔ x = s ∨ x ∈ st.sets.keys := by
  unfold findAddSet; split <;> exact StdMap.mem_keys_alter _ _ _ _

lemma mem_keys_addTest (st : KernelTestMgr) (s t : List Char) (hid : Nat) (x : List Char) :
    x ∈ (st.addTest s t hid).sets.keys ↔ x = s ∨ x ∈ st.sets.keys := by
  simp only [addTest, findAddTest, StdMap.set, StdMap.mem_keys_alter, mem_keys_findAddSet]
  tauto

lemma sets_findAddSet (st : KernelTestMgr) (s : List Char) :
    st.sets.keys ⊆ (st.findAddSet s).sets.keys :=
  fun x hx => (mem_keys_findAddSet st s x).2 (.inr hx)

lemma Extends.findAddSet (st : KernelTestMgr) (s : List Char) : Extends st (st.findAddSet s) where
  setNames := by rw [setNames_findAddSet]; exact List.prefix_append _ _
  sets := sets_findAddSet st s
  names s' := by simp only [testNames_findAddSet, List.prefix_refl]
  bound s' t := by rw [lookup_findAddSet]; exact id
  contexts c := by simp only [findContexts, cfgContexts_findAddSet, List.prefix_refl]
  handles := by simp only [handleToCtxvec_findAddSet, List.Subset.refl]

/-- `add_test` on a handle registers it in the handle map, and drops none. -/
lemma handles_addTest (st : KernelTestMgr) (s t : List Char) (hid : Nat) :
    st.handleToCtxvec.keys ⊆ (st.addTest s t hid).handleToCtxvec.keys := by
  by_cases h0 : hid = 0
  · simp [addTest, findAddTest, h0]
  · simpa [addTest, findAddTest, h0, StdMap.touch, StdMap.update] using
      StdMap.keys_subset_alter _ _ _

lemma Extends.addTest (st : KernelTestMgr) (s t : List Char) (hid : Nat) :
    Extends st (st.addTest s t hid) where
  setNames := by rw [setNames_addTest]; exact (Extends.findAddSet st s).setNames
  sets := (sets_findAddSet st s).trans (StdMap.keys_subset_alter _ _ _)
  names s' := by
    rw [testNames_addTest]
    split
    · subst_vars; exact List.prefix_append _ _
    · exact List.prefix_refl _
  bound s' t' h := by rw [lookup_addTest]; split <;> simp [h]
  contexts c := by simp only [findContexts, cfgContexts_addTest, List.prefix_refl]
  handles := handles_addTest st s t hid

/-- `add_wrapper` changes the sets map and the heap only. -/
lemma addWrapper_eq (st : KernelTestMgr) (s t : List Char) (cb : Nat) :
    ∃ sets kts, st.addWrapper s t cb = { st with sets, kts } := by
  simp only [addWrapper]; split <;> exact ⟨_, _, rfl⟩

lemma mem_keys_addWrapper (st : KernelTestMgr) (s t : List Char) (cb : Nat) (x : List Char) :
    x ∈ (st.addWrapper s t cb).sets.keys ↔ x = s ∨ x ∈ st.sets.keys := by
  simp only [addWrapper]; split <;> exact StdMap.mem_keys_alter _ _ _ _

/-- `add_wrapper` leaves every set's names as they were. -/
lemma testNames_addWrapper (st : KernelTestMgr) (s t : List Char) (cb : Nat) (s' : List Char) :
    ((st.addWrapper s t cb).testset s').testNames = (st.testset s').testNames := by
  rw [testset_addWrapper]; split <;> (subst_vars; rfl)

/-- A wrapper `add_wrapper` leaves pending is its own or was pending before. -/
lemma mem_wrapper_addWrapper {st : KernelTestMgr} {s t : List Char} {cb : Nat}
    {s' t' : List Char} (h : t' ∈ ((st.addWrapper s t cb).testset s').wrapper.keys) :
    (s' = s ∧ t' = t) ∨ t' ∈ (st.testset s').wrapper.keys := by
  rw [testset_addWrapper] at h
  by_cases hs : s' = s
  · subst hs
    rw [if_pos rfl] at h
    dsimp only at h
    split at h
    · rw [StdMap.set, StdMap.mem_keys_alter] at h
      exact h.imp (⟨rfl, ·⟩) id
    · exact .inr h
  · rw [if_neg hs] at h; exact .inr h

/-- `add_wrapper` of a bound test leaves every wrapper map as it was. -/
lemma wrapper_addWrapper_of_bound {st : KernelTestMgr} {s t : List Char} (cb : Nat)
    (h : (st.lookup s t).isSome) (s' : List Char) :
    ((st.addWrapper s t cb).testset s').wrapper = (st.testset s').wrapper := by
  rw [testset_addWrapper]
  split
  · subst_vars; simp [Option.isSome_iff_ne_none.1 h]
  · rfl

/-- `add_test` leaves no wrapper pending that was not pending before. -/
lemma mem_wrapper_addTest {st : KernelTestMgr} {s t : List Char} {hid : Nat} {s' t' : List Char}
    (h : t' ∈ ((st.addTest s t hid).testset s').wrapper.keys) :
    t' ∈ (st.testset s').wrapper.keys := by
  rw [testset_addTest] at h
  split at h
  · subst_vars
    rw [register_wrapper, testset_findAddTest, wrapper_findAddSet, StdMap.mem_keys_erase] at h
    exact h.2
  · rwa [testset_findAddTest, wrapper_findAddSet] at h

lemma Extends.addWrapper (st : KernelTestMgr) (s t : List Char) (cb : Nat) :
    Extends st (st.addWrapper s t cb) := by
  obtain ⟨sets, kts, e⟩ := addWrapper_eq st s t cb
  refine ⟨e ▸ List.prefix_refl _, fun x hx => (mem_keys_addWrapper st s t cb x).2 (.inr hx),
    fun s' => ?_, fun s' t' => ?_, fun c => e ▸ List.prefix_refl _, e ▸ List.Subset.refl _⟩
  · simp only [testNames_addWrapper, List.prefix_refl]
  · rw [lookup_addWrapper]; exact id

/-- The `operator[]` reads of `find_test` leave every set's names as they were. -/
lemma testNames_probe (st : KernelTestMgr) (s t s' : List Char) :
    ((st.probe s t).2.testset s').testNames = (st.testset s').testNames := by
  by_cases h : s' = s <;> simp [KernelTestMgr.probe, testset_eq, h]

/-- The `operator[]` reads of `find_test` leave every wrapper map as it was. -/
lemma wrapper_probe (st : KernelTestMgr) (s t s' : List Char) :
    ((st.probe s t).2.testset s').wrapper = (st.testset s').wrapper := by
  by_cases h : s' = s <;> simp [KernelTestMgr.probe, testset_eq, h]

lemma Extends.probe (st : KernelTestMgr) (s t : List Char) : Extends st (st.probe s t).2 where
  setNames := List.prefix_refl _
  sets := StdMap.keys_subset_alter _ _ _
  names s' := by simp only [testNames_probe, List.prefix_refl]
  bound s' t' := by rw [lookup_probe]; exact id
  contexts _ := List.prefix_refl _
  handles := List.Subset.refl _

lemma extends_respects : Respects Extends where
  refl st := .of_eq rfl rfl rfl rfl
  trans h₁ h₂ := ⟨h₁.setNames.trans h₂.setNames, h₁.sets.trans h₂.sets,
    fun s => (h₁.names s).trans (h₂.names s), fun s t h => h₂.bound s t (h₁.bound s t h),
    fun c => (h₁.contexts c).trans (h₂.contexts c), h₁.handles.trans h₂.handles⟩
  mutate st m := by
    cases m with
    | addTest s t hid => exact .addTest st s t hid
    | addWrapper s t cb => exact .addWrapper st s t cb
    | findAddSet s => exact .findAddSet st s
    | addCset _ _ =>
      exact ⟨List.prefix_refl _, List.Subset.refl _, fun _ => List.prefix_refl _, fun _ _ => id,
        fun _ => List.prefix_refl _, StdMap.keys_subset_alter _ _ _⟩
    | addConfigurableContext c ty hid stat =>
      refine ⟨List.prefix_refl _, List.Subset.refl _, fun _ => List.prefix_refl _,
        fun _ _ => id, fun c' => ?_, List.Subset.refl _⟩
      rw [Mutation.apply, findContexts_addConfigurableContext]
      exact List.prefix_append _ _
  probe := .probe
  getPriv _ _ _ := .of_eq rfl rfl rfl rfl

lemma extends_getTestNames (st : KernelTestMgr) : Extends st st.getTestNames.2 := by
  obtain ⟨c, hc⟩ := getTestNames_eq st
  exact hc ▸ .of_eq rfl rfl rfl rfl

/-- Once some handle has a context list, some handle keeps one. -/
lemma Extends.size_handleToCtxvec {st st' : KernelTestMgr} (h : Extends st st')
    (hmap : st.handleToCtxvec.size ≠ 0) : st'.handleToCtxvec.size ≠ 0 := fun h0 =>
  hmap (StdMap.size_eq_zero _ fun _ hk => StdMap.size_ne_zero_of_mem (h.handles hk) h0)

/-- **A name that resolves keeps resolving**: where `find_test` returned a test for a name,
it returns one, within `n + 1` iterations of its scan, `n` the name's length, in every
registry that extends this one. The test may be a newer one, bound to a longer prefix. -/
lemma Extends.findTest_some {st st' : KernelTestMgr} (h : Extends st st') {fuel : Nat}
    {s n pctx : List Char} {p : Ptr} {r : List Char × KernelTestMgr} (hlen : n.length < npos)
    (hf : st.findTest fuel s n pctx = some (some p, r)) (pctx' : List Char) :
    ∃ q r', st'.findTest (n.length + 1) s n pctx' = some (some q, r') := by
  obtain ⟨t, ht, hn⟩ := findTest_sound fuel st s n pctx _ hlen hf rfl
  have hbt := h.bound s t (by simp [ht])
  cases hbn : st'.lookup s n with
  | some q => exact ⟨q, _, findTest_of_lookup _ st' s n pctx' q hbn⟩
  | none =>
    rcases hn with ⟨rfl, -⟩ | rfl
    · simp [hbn] at hbt
    have han : st.lookup s (t ++ '_' :: r.1) = none :=
      Option.not_isSome_iff_eq_none.1 fun hx => by simpa [hbn] using h.bound s _ hx
    have hmap : st.handleToCtxvec.size ≠ 0 := fun h0 => by
      rw [findTest_of_empty_map _ _ _ _ _ han h0] at hf; cases hf
    obtain ⟨j, q, r', h1, -, -⟩ := findTest_of_split hbt (h.size_handleToCtxvec hmap) pctx'
    exact ⟨q, r', h1⟩

/-! ### Objects are never freed -/

lemma heapLater_respects : Respects fun st st' => HeapLater st.kts st'.kts where
  refl st := .refl st.kts
  trans h₁ h₂ := h₁.trans h₂
  mutate st m := by
    cases m with
    | addTest s t hid =>
      simp only [Mutation.apply, addTest, findAddTest, kts_findAddSet]
      exact .append _ _
    | addWrapper s t cb =>
      rw [Mutation.apply, kts_addWrapper]
      split
      · exact .modify _ (KernelTest.later_userTest cb) _
      · exact .refl _
    | findAddSet s => rw [Mutation.apply, kts_findAddSet]; exact .refl _
    | addCset _ _ | addConfigurableContext _ _ _ _ => exact .refl _
  probe st _ _ := .refl st.kts
  getPriv st _ sz := .modify _ (KernelTest.later_getPriv sz) _

lemma heapLater_getTestNames (st : KernelTestMgr) : HeapLater st.kts st.getTestNames.2.kts := by
  obtain ⟨c, hc⟩ := getTestNames_eq st
  exact hc ▸ .refl _

/-! ### The representation invariant -/

/-- An object keeps the names and the ordinal its tests entry owns it by. -/
lemma Owns.later {kts kts' : List KernelTest} {s t : List Char} {n : Nat} {p : Ptr}
    (h : Owns kts s t n p) (hk : HeapLater kts kts') : Owns kts' s t n p := by
  obtain ⟨kt, hkt, h⟩ := h
  obtain ⟨kt', hkt', hl⟩ := hk p kt hkt
  obtain ⟨cb, priv, sz, rfl⟩ := hl.fields
  exact ⟨_, hkt', h⟩

/-- A change of the heap that moves every object later keeps the invariant. -/
lemma Inv.of_heapLater {st : KernelTestMgr} (h : Inv st) {kts : List KernelTest}
    (hk : HeapLater st.kts kts) : Inv { st with kts := kts } :=
  ⟨h.nodup, h.kernelsets, h.nextSet, h.ordinal, h.noPending,
    fun s ts t p hs ht => (h.bound s ts t p hs ht).imp_right (Owns.later · hk)⟩

lemma Inv.getPriv {st : KernelTestMgr} (h : Inv st) (p : Ptr) (sz : Nat) :
    Inv (st.getPriv p sz) :=
  h.of_heapLater (heapLater_respects.getPriv st p sz)

lemma inv_respects : Respects fun st st' => Inv st → Inv st' where
  refl _ := id
  trans h₁ h₂ := h₂ ∘ h₁
  mutate _ m h := h.mutate m
  probe _ s t h := h.probe s t
  getPriv _ p sz h := h.getPriv p sz

/-- A test name is bound only in a registered set. -/
lemma Inv.mem_setNames_of_lookup {st : KernelTestMgr} (h : Inv st) {s t : List Char}
    (hl : (st.lookup s t).isSome) : s ∈ st.setNames := by
  obtain ⟨p, hp⟩ := Option.isSome_iff_exists.1 hl
  rw [lookup_eq, Option.join_eq_some] at hp
  exact (h.bound s _ t p (find?_testset hp) hp).1

/-! ### Generated names come from bound tests -/

/-- Every generated name of a set derives from a test bound in it: it is the test's own name,
or the name, `_` and a context, and then some handle has a context list. -/
def NamesBound (st : KernelTestMgr) : Prop :=
  ∀ s, ∀ n ∈ (st.testset s).testNames, ∃ t, (st.lookup s t).isSome ∧
    (n = t ∨ (∃ c, n = t ++ '_' :: c) ∧ st.handleToCtxvec.size ≠ 0)

lemma NamesBound.empty : NamesBound .empty := fun _ _ h => absurd h (List.not_mem_nil _)

/-- A change that keeps every set's names, every binding and some handle's context list keeps
the names derived. -/
lemma NamesBound.of_eq {st st' : KernelTestMgr} (h : NamesBound st)
    (hn : ∀ s, (st'.testset s).testNames = (st.testset s).testNames)
    (hl : ∀ s t, st'.lookup s t = st.lookup s t)
    (hh : st.handleToCtxvec.size ≠ 0 → st'.handleToCtxvec.size ≠ 0) : NamesBound st' :=
  fun s n hmem => by
    obtain ⟨t, ht, hnt⟩ := h s n (hn s ▸ hmem)
    exact ⟨t, hl s t ▸ ht, hnt.imp_right (And.imp_right hh)⟩

/-- `add_test` on a handle registers a context list for it, and drops none. -/
lemma size_handleToCtxvec_addTest (st : KernelTestMgr) (s t : List Char) (hid : Nat)
    (h : hid ≠ 0 ∨ st.handleToCtxvec.size ≠ 0) : (st.addTest s t hid).handleToCtxvec.size ≠ 0 := by
  by_cases h0 : hid = 0
  · simpa [addTest, findAddTest, h0] using h
  · simpa [addTest, findAddTest, h0] using StdMap.size_alter_ne_zero _ _ _

/-- `add_test` binds the test whose names it generates, and unbinds nothing. -/
lemma NamesBound.addTest {st : KernelTestMgr} (h : NamesBound st) (s t : List Char)
    (hid : Nat) : NamesBound (st.addTest s t hid) := fun s' n hmem => by
  have hbound : ∀ t', (st.lookup s' t').isSome → ((st.addTest s t hid).lookup s' t').isSome :=
    fun t' ht' => by rw [lookup_addTest]; split <;> simp [ht']
  have hold : ∀ t', (st.lookup s' t').isSome → (n = t' ∨ (∃ c, n = t' ++ '_' :: c) ∧
      st.handleToCtxvec.size ≠ 0) → ∃ u, ((st.addTest s t hid).lookup s' u).isSome ∧
      (n = u ∨ (∃ c, n = u ++ '_' :: c) ∧ (st.addTest s t hid).handleToCtxvec.size ≠ 0) :=
    fun t' ht' hnt => ⟨t', hbound t' ht',
      hnt.imp_right (And.imp_right (size_handleToCtxvec_addTest st s t hid ∘ .inr))⟩
  rw [testNames_addTest] at hmem
  by_cases hs : s' = s
  · rw [if_pos hs] at hmem
    rcases List.mem_append.1 hmem with hmem | hmem
    · obtain ⟨t', ht', hnt⟩ := h s n (hs ▸ hmem)
      exact hold t' (hs ▸ ht') hnt
    · refine ⟨t, by simp [lookup_addTest, hs], ?_⟩
      unfold genNames at hmem
      split at hmem
      · exact .inl (List.mem_singleton.1 hmem)
      · rename_i h0
        obtain ⟨c, -, rfl⟩ := List.mem_map.1 hmem
        exact .inr ⟨⟨c, rfl⟩, size_handleToCtxvec_addTest st s t hid (.inl h0)⟩
  · rw [if_neg hs] at hmem
    obtain ⟨t', ht', hnt⟩ := h s' n hmem
    exact hold t' ht' hnt

lemma NamesBound.getTestNames {st : KernelTestMgr} (h : NamesBound st) :
    NamesBound st.getTestNames.2 := by
  obtain ⟨c, hc⟩ := getTestNames_eq st
  rw [hc]; exact h

lemma namesBound_respects : Respects fun st st' => NamesBound st → NamesBound st' where
  refl _ := id
  trans h₁ h₂ := h₂ ∘ h₁
  mutate st m h := by
    cases m with
    | addTest s t hid => exact h.addTest s t hid
    | addWrapper s t cb =>
      obtain ⟨sets, kts, e⟩ := addWrapper_eq st s t cb
      exact h.of_eq (testNames_addWrapper st s t cb) (lookup_addWrapper st s t cb)
        (by rw [Mutation.apply, e]; exact id)
    | findAddSet s =>
      exact h.of_eq (testNames_findAddSet st s) (lookup_findAddSet st s)
        (by rw [Mutation.apply, handleToCtxvec_findAddSet]; exact id)
    | addCset hid _ =>
      exact h.of_eq (fun _ => rfl) (fun _ _ => rfl) fun _ => StdMap.size_alter_ne_zero _ _ _
    | addConfigurableContext _ _ _ _ => exact h
  probe st s t h := h.of_eq (testNames_probe st s t) (lookup_probe st s t) id
  getPriv _ _ _ h := h

end KernelTestMgr

end KtfInt
