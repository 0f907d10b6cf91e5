import KtfInt.Registry.Invariant
import KtfInt.Netlink.Query

/-!
Binding test names to `KernelTest` objects and callbacks over whole runs of mutations.

`add_test` is `new KernelTest(...)`: every call allocates an object, binds the test name to
it, appends its generated names and claims the pending wrapper, whatever the set held before.
`add_wrapper` gives a bound test its callback, and otherwise leaves the callback pending for
the test to claim.

* `callbackOf_runMutations`: mutations of other tests leave a test's callback and pending
  wrapper alone;
* `addWrapper_binds_either_order`: **the callback reaches the test whichever of `add_test` and
  `add_wrapper` comes first**;
* `addWrapper_shifts_testnum`: **the null entry `add_wrapper` inserts counts in the `testnum`
  of the set's next test**, one more than without the wrapper;
* `addWrapper_first_shifts_testnum`: hence the order of `add_wrapper` and `add_test` shows in
  the `testnum` of the tests added in between;
* `lookup_last_addTest`: **every `add_test` rebinds its name**, to the object it allocates;
* `repeated_query_rebinds`: a response processed twice binds the test to a second object that
  has lost the callback, and duplicates its generated names and context records.
-/

namespace KtfInt

/-- A mutation that is neither `add_test(s, t, _)` nor `add_wrapper(s, t, _)`. -/
def Mutation.avoids (s t : List Char) : Mutation → Bool
  | .addTest s' t' _ | .addWrapper s' t' _ => !(s' == s && t' == t)
  | _ => true

/-- Whether a mutation is `add_test(s, t, _)`. -/
def Mutation.addsTest (s t : List Char) : Mutation → Bool
  | .addTest s' t' _ => s' == s && t' == t
  | _ => false

/-- Whether a mutation allocates an object: `add_test` does. -/
def Mutation.allocates : Mutation → Bool
  | .addTest .. => true
  | _ => false

namespace KernelTestMgr

/-- What the registry holds for the callback of test `t` of set `s`: the `user_test` of the
object bound to the name (`none` when no test is bound), and the wrapper pending for it. -/
def callbackOf (st : KernelTestMgr) (s t : List Char) :
    Option (Option (Option Nat)) × Option Nat :=
  ((st.lookup s t).map fun p => st.kts[p]?.map (·.userTest), (st.testset s).wrapper.find? t)

/-! ### One mutation -/

section Callback

variable {st : KernelTestMgr} {s t : List Char}

/-- Two names bound to one object are the same name. -/
lemma Inv.lookup_inj (h : Inv st) {s' t' : List Char} {p : Ptr} (hl : st.lookup s t = some p)
    (hl' : st.lookup s' t' = some p) : s' = s ∧ t' = t := by
  obtain ⟨kt, hkt, h1, h2⟩ := h.owns_of_lookup hl
  obtain ⟨kt', hkt', h1', h2'⟩ := h.owns_of_lookup hl'
  rw [Option.mem_def, hkt, Option.some.injEq] at hkt'
  subst hkt'
  exact ⟨h1'.symm.trans h1, h2'.symm.trans h2⟩

/-- A bound test's object is allocated. -/
lemma Inv.lt_of_lookup (h : Inv st) {p : Ptr} (hl : st.lookup s t = some p) :
    p < st.kts.length := by
  obtain ⟨kt, hkt, -⟩ := h.owns_of_lookup hl
  exact (List.getElem?_eq_some_iff.mp hkt).1

/-- `add_test(s, t, _)` binds a new object that takes the pending wrapper, which is
claimed. -/
lemma callbackOf_addTest (hid : Nat) :
    callbackOf (st.addTest s t hid) s t = (some (some (callbackOf st s t).2), none) := by
  simp only [callbackOf, lookup_addTest, and_self, if_true, Option.map_some', userTest_addTest]
  simp [testset_addTest]

/-- `add_wrapper(s, t, cb)` gives a bound test the callback, and otherwise leaves it
pending. -/
lemma callbackOf_addWrapper (h : Inv st) (cb : Nat) :
    callbackOf (st.addWrapper s t cb) s t =
      match (callbackOf st s t).1 with
      | some _ => (some (some (some cb)), (callbackOf st s t).2)
      | none => (none, some cb) := by
  cases hl : st.lookup s t with
  | none => simp [callbackOf, hl, testset_addWrapper]
  | some p =>
    obtain ⟨kt, hkt, -⟩ := h.owns_of_lookup hl
    simp [callbackOf, hl, kts_addWrapper, testset_addWrapper, List.getElem?_modify,
      Option.mem_def.mp hkt]

/-- A mutation of another test leaves the callback of `t` as it was. -/
lemma callbackOf_apply (h : Inv st) {m : Mutation} (hm : m.avoids s t = true) :
    callbackOf (m.apply st) s t = callbackOf st s t := by
  cases m with
  | addTest s' t' hid =>
    have hne : ¬(s = s' ∧ t = t') := by
      rintro ⟨rfl, rfl⟩; simp [Mutation.avoids] at hm
    have hkts : ∀ p, st.lookup s t = some p → (st.addTest s' t' hid).kts[p]? = st.kts[p]? :=
      fun p hl => getElem?_kts_addTest _ _ _ _ (h.lt_of_lookup hl)
    simp only [Mutation.apply, callbackOf, lookup_addTest, hne, if_false, Prod.mk.injEq]
    refine ⟨?_, ?_⟩
    · cases hl : st.lookup s t with
      | none => rfl
      | some p => simp [hkts p hl]
    · rw [testset_addTest]
      by_cases hs : s = s'
      · subst hs; simp [show t ≠ t' from fun ht => hne ⟨rfl, ht⟩]
      · simp [hs]
  | addWrapper s' t' cb =>
    have hne : ¬(s' = s ∧ t' = t) := by
      rintro ⟨rfl, rfl⟩; simp [Mutation.avoids] at hm
    simp only [Mutation.apply, callbackOf, lookup_addWrapper, Prod.mk.injEq]
    refine ⟨?_, ?_⟩
    · cases hl : st.lookup s t with
      | none => rfl
      | some p =>
        rw [kts_addWrapper]
        cases hl' : st.lookup s' t' with
        | none => rfl
        | some p' =>
          have hp : p' ≠ p := fun e => hne (h.lookup_inj hl (e ▸ hl'))
          simp [List.getElem?_modify, hp, Function.comp_def]
    · rw [testset_addWrapper]
      by_cases hs : s = s'
      · subst hs
        have ht : t ≠ t' := fun ht => hne ⟨rfl, ht.symm⟩
        by_cases hl : st.lookup s t' = none <;> simp [hl, ht]
      · simp [hs]
  | findAddSet s' => simp [Mutation.apply, callbackOf]
  | addCset => rfl
  | addConfigurableContext => rfl

/-- Mutations of other tests leave the callback of `t` as it was. -/
lemma callbackOf_runMutations (h : Inv st) {ms : List Mutation}
    (hms : ∀ m ∈ ms, m.avoids s t = true) : callbackOf (runMutations st ms) s t = callbackOf st s t := by
  induction ms generalizing st with
  | nil => rfl
  | cons m ms ih =>
    rw [runMutations_cons, ih (h.mutate m) fun m' hm' => hms m' (.tail _ hm'),
      callbackOf_apply h (hms m (.head _))]

end Callback

/-! ### Deferred binding -/

/-- **Deferred binding delivers the callback in either order.** From the empty registry, a
run with one `add_test(s, t, hid)` and otherwise only mutations of other tests ends with the
name bound to an object whose `user_test` is `cb` and no wrapper pending for it, whether
`add_wrapper(s, t, cb)` is inserted before the test or after it, at any position. -/
theorem addWrapper_binds_either_order (s t : List Char) (hid cb : Nat) (u v w : List Mutation)
    (havoid : ∀ m ∈ u ++ v ++ w, m.avoids s t = true) :
    callbackOf (runMutations .empty (u ++ .addWrapper s t cb :: v ++ .addTest s t hid :: w)) s t =
        (some (some (some cb)), none) ∧
      callbackOf (runMutations .empty (u ++ .addTest s t hid :: v ++ .addWrapper s t cb :: w)) s t =
        (some (some (some cb)), none) := by
  have hu : ∀ m ∈ u, m.avoids s t = true := fun m hm => havoid m (by simp [hm])
  have hv : ∀ m ∈ v, m.avoids s t = true := fun m hm => havoid m (by simp [hm])
  have hw : ∀ m ∈ w, m.avoids s t = true := fun m hm => havoid m (by simp [hm])
  have h1 := Inv.empty.runMutations u
  have c1 : callbackOf (runMutations .empty u) s t = (none, none) :=
    (callbackOf_runMutations Inv.empty hu).trans rfl
  simp only [List.append_assoc, List.cons_append, runMutations_append, runMutations_cons,
    Mutation.apply]
  constructor
  · have h2 := (h1.addWrapper s t cb).runMutations v
    rw [callbackOf_runMutations (h2.addTest s t hid) hw, callbackOf_addTest,
      callbackOf_runMutations (h1.addWrapper s t cb) hv, callbackOf_addWrapper h1, c1]
  · have h2 := (h1.addTest s t hid).runMutations v
    rw [callbackOf_runMutations (h2.addWrapper s t cb) hw, callbackOf_addWrapper h2,
      callbackOf_runMutations (h1.addTest s t hid) hv, callbackOf_addTest, c1]

/-- The wrapper of `t`, with test `u` of the same set added before `t`, on either side. -/
theorem addWrapper_binds_either_order_with_other :
    callbackOf (runMutations .empty ([.addTest "s".toList "u".toList 0] ++
        .addWrapper "s".toList "t".toList 7 :: [] ++ .addTest "s".toList "t".toList 0 :: []))
        "s".toList "t".toList = (some (some (some 7)), none) ∧
      callbackOf (runMutations .empty ([.addTest "s".toList "u".toList 0] ++
        .addTest "s".toList "t".toList 0 :: [] ++ .addWrapper "s".toList "t".toList 7 :: []))
        "s".toList "t".toList = (some (some (some 7)), none) :=
  addWrapper_binds_either_order _ _ _ _ _ _ _ (by decide)

/-- **A wrapper registered ahead of its test shifts the `testnum` of the set's next test.**
For a name `u` the set's tests map does not hold, `add_wrapper(s, u, cb)` inserts a null
entry, and a test `t ≠ u` that `add_test` then adds to the set gets a `testnum` one larger
than without the wrapper. -/
theorem addWrapper_shifts_testnum (st : KernelTestMgr) (s t u : List Char) (cb hid : Nat)
    (hu : u ∉ (st.testset s).tests.keys) (htu : t ≠ u) :
    ((st.addWrapper s u cb).addTest s t hid).kts[st.kts.length]?.map (·.testnum) =
      ((st.addTest s t hid).kts[st.kts.length]?.map (·.testnum)).map (· + 1) := by
  have hw := testnum_addTest (st.addWrapper s u cb) s t hid
  rw [kts_length_addWrapper] at hw
  have hts : ((st.addWrapper s u cb).testset s).tests = (st.testset s).tests.touch u none := by
    simp [testset_addWrapper]
  rw [hw, testnum_addTest, hts]
  simp only [StdMap.touch, StdMap.update, StdMap.mem_keys_alter, StdMap.size_alter, htu, hu,
    false_or, if_false, Option.map_some']
  split_ifs <;> rfl

/-- Wrapper `t` ahead of test `u` in a fresh set: `u` gets `testnum` 2 instead of 1. -/
theorem addWrapper_shifts_testnum_fresh_set :
    "t".toList ∉ (KernelTestMgr.empty.testset "s".toList).tests.keys ∧ "u".toList ≠ "t".toList ∧
      ((KernelTestMgr.empty.addWrapper "s".toList "t".toList 7).addTest "s".toList "u".toList
        0).kts[0]?.map (·.testnum) =
        ((KernelTestMgr.empty.addTest "s".toList "u".toList 0).kts[0]?.map (·.testnum)).map
          (· + 1) :=
  ⟨by decide, by decide,
    addWrapper_shifts_testnum .empty _ _ _ 7 0 (by decide) (by decide)⟩

/-- The wrapper of `t` registered first, then tests `u` and `t`, against the wrapper
registered last: `u`'s `testnum` counts the null entry `add_wrapper` left for `t`. -/
theorem addWrapper_first_shifts_testnum :
    (runMutations .empty [.addWrapper "s".toList "t".toList 7, .addTest "s".toList "u".toList 0,
        .addTest "s".toList "t".toList 0]).kts.map (fun kt => (kt.testnum, kt.userTest)) =
        [(2, none), (2, some 7)] ∧
      (runMutations .empty [.addTest "s".toList "u".toList 0, .addTest "s".toList "t".toList 0,
        .addWrapper "s".toList "t".toList 7]).kts.map (fun kt => (kt.testnum, kt.userTest)) =
        [(1, none), (2, some 7)] := by
  decide

/-! ### Repeated registration -/

/-- Only `add_test` allocates, one object a call, and no object is freed. -/
lemma kts_length_apply (st : KernelTestMgr) (m : Mutation) :
    (m.apply st).kts.length = st.kts.length + if m.allocates then 1 else 0 := by
  cases m with
  | addTest s t hid => exact kts_addTest st s t hid
  | addWrapper s t cb => exact kts_length_addWrapper st s t cb
  | findAddSet s => simp [Mutation.apply, Mutation.allocates]
  | addCset | addConfigurableContext => rfl

/-- A mutation binds `t` exactly when it is `add_test(s, t, _)`, to the object it allocates. -/
lemma lookup_apply (st : KernelTestMgr) (m : Mutation) (s t : List Char) :
    (m.apply st).lookup s t = if m.addsTest s t then some st.kts.length else st.lookup s t := by
  cases m with
  | addTest s' t' hid =>
    simp only [Mutation.apply, Mutation.addsTest, lookup_addTest, Bool.and_eq_true, beq_iff_eq]
    simp only [eq_comm]
  | addWrapper | findAddSet => simp [Mutation.apply, Mutation.addsTest]
  | addCset | addConfigurableContext => rfl

/-- Mutations none of which is `add_test(s, t, _)` leave the binding of `t` alone. -/
lemma lookup_runMutations_of_not_addsTest (st : KernelTestMgr) (s t : List Char)
    (ms : List Mutation) (hms : ∀ m ∈ ms, m.addsTest s t = false) :
    (runMutations st ms).lookup s t = st.lookup s t :=
  runMutations_induction (fun st' => st'.lookup s t = st.lookup s t)
    (fun m hm s' h => (lookup_apply s' m s t).trans
      (by rw [hms m hm, if_neg Bool.false_ne_true]; exact h)) rfl

lemma kts_length_runMutations (st : KernelTestMgr) (ms : List Mutation) :
    (runMutations st ms).kts.length = st.kts.length + ms.countP Mutation.allocates := by
  induction ms generalizing st with
  | nil => rfl
  | cons m ms ih => rw [runMutations_cons, ih, kts_length_apply, List.countP_cons]; omega

/-- **Every `add_test` rebinds its name.** After any run, test `t` of set `s` is bound to the
object its last `add_test(s, t, _)` allocated, the `(n + k)`-th for a heap of `n` objects and
`k` allocations before that call, whatever the name was bound to before. -/
theorem lookup_last_addTest (st : KernelTestMgr) (s t : List Char) (hid : Nat)
    (pre post : List Mutation) (hpost : ∀ m ∈ post, m.addsTest s t = false) :
    (runMutations st (pre ++ .addTest s t hid :: post)).lookup s t =
      some (st.kts.length + pre.countP Mutation.allocates) := by
  rw [runMutations_append, runMutations_cons, lookup_runMutations_of_not_addsTest _ _ _ _ hpost,
    Mutation.apply, lookup_addTest, if_pos ⟨rfl, rfl⟩, kts_length_runMutations]

/-- A test added twice, then a wrapper for another test: the name is bound to the second
object. -/
theorem lookup_last_addTest_twice :
    (∀ m ∈ [Mutation.addWrapper "s".toList "u".toList 7], m.addsTest "s".toList "t".toList = false) ∧
      (runMutations .empty ([.addTest "s".toList "t".toList 0] ++
        .addTest "s".toList "t".toList 0 :: [.addWrapper "s".toList "u".toList 7])).lookup
        "s".toList "t".toList = some (KernelTestMgr.empty.kts.length +
          [Mutation.addTest "s".toList "t".toList 0].countP Mutation.allocates) :=
  ⟨by decide, lookup_last_addTest _ _ _ _ _ _ (by decide)⟩

/-- A response registering context `c` of handle `1` and test `t` of set `s` on that handle,
processed twice after `add_wrapper(s, t, 7)`: `t` is bound to the second object, which has no
callback (the first claimed the wrapper), its generated name and the context record are
there twice. -/
theorem repeated_query_rebinds (latest : Version) :
    let q : QueryAttrs := ⟨some latest, some [.hid 1, .list [.str "c".toList, .num 0, .stat 0]],
      some 1, some [.str "s".toList, .test [.hid 1, .str "t".toList]]⟩
    let st := (parseQuery latest q
      (parseQuery latest q (KernelTestMgr.empty.addWrapper "s".toList "t".toList 7)).2).2
    st.lookup "s".toList "t".toList = some 1 ∧ st.kts.map (·.userTest) = [some 7, none] ∧
      (st.testset "s".toList).testNames = ["t_c".toList, "t_c".toList] ∧
      st.findContexts "c".toList = [⟨"c".toList, 1, 0, 0⟩, ⟨"c".toList, 1, 0, 0⟩] := by
  intro q st
  have e : ∀ st', parseQuery latest q st' = parseInventory q.hlist q.num q.list st' :=
    parseQuery_of_compatible (isCompatible_self latest)
  simp only [st, e]
  decide

end KernelTestMgr

end KtfInt
