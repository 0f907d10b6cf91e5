import KtfInt.Cxx.StdMap
import KtfInt.Cxx.StdString

/-!
The registry of `ktf_int.cpp`: the `testset`s, the `KernelTest` objects, the
`ConfigurableContext` records, and the `KernelTestMgr` that owns them.

A `KernelTest` is allocated by `new` and registered by its own constructor, so the manager
carries the heap of allocated tests, and the tests maps hold pointers into it (`none` is the
null pointer that `operator[]` inserts).

* `findAddSet`, `addTest` (the constructor `KernelTest::KernelTest`), `addWrapper`,
  `addCset`, `addConfigurableContext`: the mutations, one definition each, in the order of
  the statements of the source.
* `Mutation`: the mutations as data, with `Mutation.apply` and `runMutations`.
* `lookup`: the `KernelTest` bound to a test name, the view under which the `operator[]`
  reads of `probe` change nothing (`lookup_probe`).
-/

namespace KtfInt

/-- A `KernelTest*`: the index of the test in the heap of allocated tests. -/
abbrev Ptr := Nat

/-- A `KernelTest` record. The header that declares it is not part of the source; the
fields are those `ktf_int.cpp` reads or writes. `userPriv` is the size of the block
`get_priv` allocated, `userTest` the bound `test_cb*`. The constructor's initializer list
does not name `handle_id`, and no statement assigns it: `handleId` is `none`, a member that
holds no value the program wrote. -/
structure KernelTest where
  setname : List Char
  testname : List Char
  name : List Char
  setnum : Nat
  testnum : Nat
  userPriv : Option Nat
  userPrivSz : Nat
  userTest : Option Nat
  handleId : Option Nat
  deriving DecidableEq, Repr

/-- A `testset`: its tests, its generated names, the wrappers waiting for a kernel test,
and its ordinal. -/
structure Testset where
  tests : StdMap (List Char) (Option Ptr)
  testNames : List (List Char)
  wrapper : StdMap (List Char) Nat
  setnum : Nat

/-- `testset()`: no tests, no names, no wrappers, ordinal `0`. -/
def Testset.empty : Testset := ⟨.empty, [], .empty, 0⟩

instance : Inhabited Testset := ⟨.empty⟩

/-- The constructor's update of its set: the test name bound to the new object `this`, the
generated names appended, the name's pending wrapper claimed (erasing an absent wrapper
changes nothing, so the erase is written unconditionally). -/
def Testset.register (ts : Testset) (tname : List Char) (this : Ptr)
    (names : List (List Char)) : Testset :=
  { ts with
    tests := ts.tests.set tname (some this)
    testNames := ts.testNames ++ names
    wrapper := ts.wrapper.erase tname }

/-- A `ConfigurableContext` record; `handle_id` and `type_id` are stored as the unsigned
values they are built from, which their `int` copies compare equal exactly when these do. -/
structure ConfigurableContext where
  name : List Char
  handleId : Nat
  typeId : Nat
  cfgStat : Int
  deriving DecidableEq, Repr

/-- A `name_iter`: the set under the cursor (`none` for `sets.end()`) and the name of the
set last returned. -/
structure NameIter where
  it : Option (List Char)
  setname : List Char
  deriving DecidableEq, Repr

/-- The `KernelTestMgr` singleton together with the heap of `KernelTest` objects. -/
structure KernelTestMgr where
  sets : StdMap (List Char) Testset
  testNames : List (List Char)
  setNames : List (List Char)
  kernelsets : StdSet (List Char)
  handleToCtxvec : StdMap Nat (List (List Char))
  cfgContexts : StdMap (List Char) (List ConfigurableContext)
  nextSet : Nat
  cur : Option NameIter
  kts : List KernelTest

namespace KernelTestMgr

/-- `KernelTestMgr()`: `next_set(0)`, `cur(NULL)`, every container empty. -/
def empty : KernelTestMgr := ⟨.empty, [], [], .empty, .empty, .empty, 0, none, []⟩

/-- The `KernelTest` bound to test name `t` of set `s`: a non-null entry of `sets[s].tests`. -/
def lookup (st : KernelTestMgr) (s t : List Char) : Option Ptr :=
  ((st.sets.find? s).bind fun ts => ts.tests.find? t).join

/-- The test set stored under `s`, the default one when there is none. -/
def testset (st : KernelTestMgr) (s : List Char) : Testset := st.sets.get s .empty

/-! ### The mutations -/

/-- `find_add_set(setname)`: a name not yet in `kernelsets` is recorded there and in
`set_names`, and its set (created by `sets[setname]` if needed) takes the next ordinal. -/
def findAddSet (st : KernelTestMgr) (setname : List Char) : KernelTestMgr :=
  if st.kernelsets.find? setname = none then
    { st with
      kernelsets := st.kernelsets.set setname ()
      setNames := st.setNames ++ [setname]
      sets := st.sets.update setname .empty fun ts => { ts with setnum := st.nextSet }
      nextSet := st.nextSet + 1 }
  else { st with sets := st.sets.touch setname .empty }

/-- `find_add_test(setname, testname)`. -/
def findAddTest (st : KernelTestMgr) (setname testname : List Char) : KernelTestMgr :=
  let st := st.findAddSet setname
  { st with testNames := st.testNames ++ [testname] }

/-- The names the constructor appends to its set's `test_names`: the bare name for handle
`0`, otherwise one `testname_ctx` per context of the handle. -/
def genNames (testname : List Char) (handleId : Nat) (ctxv : List (List Char)) :
    List (List Char) :=
  if handleId = 0 then [testname] else ctxv.map fun c => testname ++ '_' :: c

/-- `add_test(setname, tname, handle_id)`, that is `new KernelTest(setname, tname,
handle_id)`: the constructor registers the set and the test, binds the test name to the new
object, appends the generated names (`get_contexts(handle_id)` inserts an empty context list
for an unknown handle), takes the test count as `testnum`, and takes a pending wrapper. -/
def addTest (st : KernelTestMgr) (setname tname : List Char) (handleId : Nat) :
    KernelTestMgr :=
  let this := st.kts.length
  let st := st.findAddTest setname tname
  let ts := st.testset setname
  let ctxv := if handleId = 0 then [] else st.handleToCtxvec.get handleId []
  let kt : KernelTest :=
    { setname, testname := tname, name := setname ++ '.' :: tname, setnum := ts.setnum,
      testnum := (ts.tests.set tname (some this)).size, userPriv := none, userPrivSz := 0,
      userTest := ts.wrapper.find? tname, handleId := none }
  { st with
    sets := st.sets.set setname (ts.register tname this (genNames tname handleId ctxv))
    handleToCtxvec :=
      if handleId = 0 then st.handleToCtxvec else st.handleToCtxvec.touch handleId []
    kts := st.kts ++ [kt] }

/-- `add_wrapper(setname, testname, tcb)`: `sets[setname].tests[testname]` is read (both
`operator[]`s insert); a bound test gets the callback, otherwise it waits in `wrapper`. -/
def addWrapper (st : KernelTestMgr) (setname testname : List Char) (tcb : Nat) :
    KernelTestMgr :=
  let ts := st.testset setname
  let tests := ts.tests.touch testname none
  match ts.tests.get testname none with
  | some p =>
    { st with
      sets := st.sets.set setname { ts with tests }
      kts := st.kts.modify (fun kt => { kt with userTest := some tcb }) p }
  | none =>
    { st with sets := st.sets.set setname { ts with tests, wrapper := ts.wrapper.set testname tcb } }

/-- `add_cset(hid, ctxs)`: the handle's context list is replaced. -/
def addCset (st : KernelTestMgr) (hid : Nat) (ctxs : List (List Char)) : KernelTestMgr :=
  { st with handleToCtxvec := st.handleToCtxvec.set hid ctxs }

/-- `add_configurable_context(ctx, type_id, hid, cfg_stat)`: a new record is appended to the
context name's vector. -/
def addConfigurableContext (st : KernelTestMgr) (ctx : List Char) (typeId hid : Nat)
    (cfgStat : Int) : KernelTestMgr :=
  { st with cfgContexts := st.cfgContexts.update ctx [] (· ++ [⟨ctx, hid, typeId, cfgStat⟩]) }

/-- `find_contexts(ctx)`: the records named `ctx`, none when the name is unknown. -/
def findContexts (st : KernelTestMgr) (ctx : List Char) : List ConfigurableContext :=
  (st.cfgContexts.find? ctx).getD []

/-- `get_priv(kt, sz)`: the first request allocates the block, later ones keep it whatever
size they ask for (allocation is taken to succeed). -/
def getPriv (st : KernelTestMgr) (p : Ptr) (sz : Nat) : KernelTestMgr :=
  { st with
    kts := st.kts.modify
      (fun kt => if kt.userPriv = none then { kt with userPriv := some sz, userPrivSz := sz }
        else kt) p }

/-- `sets[setname].tests[tname]` used as a read in `find_test`: the non-null pointer found,
and the manager with the two `operator[]` insertions made. -/
def probe (st : KernelTestMgr) (setname tname : List Char) : Option Ptr × KernelTestMgr :=
  (st.lookup setname tname,
    { st with sets := st.sets.update setname .empty fun ts =>
      { ts with tests := ts.tests.touch tname none } })

/-! ### Basic facts -/

/-- A tests-map read `operator[]` yields a non-null pointer exactly when one is stored. -/
@[simp] lemma getD_none_eq_some (o : Option (Option Ptr)) (p : Ptr) :
    o.getD none = some p ↔ o = some (some p) := by
  cases o <;> simp

@[simp] lemma lookup_empty (s t : List Char) : empty.lookup s t = none := rfl

lemma testset_eq (st : KernelTestMgr) (s : List Char) :
    st.testset s = (st.sets.find? s).getD .empty := rfl

/-- The `operator[]` reads of `find_test` bind nothing: every lookup is as before. -/
@[simp] lemma lookup_probe (st : KernelTestMgr) (s t s' t' : List Char) :
    (st.probe s t).2.lookup s' t' = st.lookup s' t' := by
  by_cases hs : s' = s
  · subst hs
    by_cases ht : t' = t
    · subst ht
      cases h : st.sets.find? s' with
      | none => simp [probe, lookup, h, Testset.empty]
      | some ts => cases h' : ts.tests.find? t' <;> simp [probe, lookup, h, h']
    · cases h : st.sets.find? s' <;> simp [probe, lookup, h, ht, Testset.empty]
  · simp [probe, lookup, hs]

/-- A binding is a non-null entry of the set's tests map, the default set having none. -/
lemma lookup_eq (st : KernelTestMgr) (s t : List Char) :
    st.lookup s t = ((st.testset s).tests.find? t).join := by
  cases h : st.sets.find? s with
  | none => simp [lookup, testset_eq, h, Testset.empty]
  | some ts => simp [lookup, testset_eq, h]

/-- The set under `s'` after the set under `s` is replaced. -/
lemma testset_of_sets {st st' : KernelTestMgr} {s : List Char} {ts : Testset}
    (h : st'.sets = st.sets.set s ts) (s' : List Char) :
    st'.testset s' = if s' = s then ts else st.testset s' := by
  by_cases hs : s' = s <;> simp [testset_eq, h, hs]

@[simp] lemma register_tests_find? (ts : Testset) (t : List Char) (p : Ptr)
    (names : List (List Char)) (t' : List Char) :
    (ts.register t p names).tests.find? t' = if t' = t then some (some p) else ts.tests.find? t' := by
  simp [Testset.register]

@[simp] lemma register_testNames (ts : Testset) (t : List Char) (p : Ptr)
    (names : List (List Char)) : (ts.register t p names).testNames = ts.testNames ++ names := rfl

@[simp] lemma register_wrapper (ts : Testset) (t : List Char) (p : Ptr)
    (names : List (List Char)) : (ts.register t p names).wrapper = ts.wrapper.erase t := rfl

@[simp] lemma register_setnum (ts : Testset) (t : List Char) (p : Ptr)
    (names : List (List Char)) : (ts.register t p names).setnum = ts.setnum := rfl

/-! ### What each mutation changes -/

/-- `find_add_set` changes at most the ordinal of a set. -/
lemma testset_findAddSet (st : KernelTestMgr) (s s' : List Char) :
    ∃ n, (st.findAddSet s).testset s' = { st.testset s' with setnum := n } := by
  unfold findAddSet
  split
  · by_cases h : s' = s
    · exact ⟨st.nextSet, by simp [testset_eq, h]⟩
    · exact ⟨(st.testset s').setnum, by simp [testset_eq, h]⟩
  · by_cases h : s' = s
    · exact ⟨(st.testset s').setnum, by simp [testset_eq, h]⟩
    · exact ⟨(st.testset s').setnum, by simp [testset_eq, h]⟩

@[simp] lemma tests_findAddSet (st : KernelTestMgr) (s s' : List Char) :
    ((st.findAddSet s).testset s').tests = (st.testset s').tests := by
  obtain ⟨n, h⟩ := testset_findAddSet st s s'; rw [h]

@[simp] lemma testNames_findAddSet (st : KernelTestMgr) (s s' : List Char) :
    ((st.findAddSet s).testset s').testNames = (st.testset s').testNames := by
  obtain ⟨n, h⟩ := testset_findAddSet st s s'; rw [h]

@[simp] lemma wrapper_findAddSet (st : KernelTestMgr) (s s' : List Char) :
    ((st.findAddSet s).testset s').wrapper = (st.testset s').wrapper := by
  obtain ⟨n, h⟩ := testset_findAddSet st s s'; rw [h]

@[simp] lemma lookup_findAddSet (st : KernelTestMgr) (s s' t : List Char) :
    (st.findAddSet s).lookup s' t = st.lookup s' t := by
  simp [lookup_eq]

@[simp] lemma kts_findAddSet (st : KernelTestMgr) (s : List Char) :
    (st.findAddSet s).kts = st.kts := by
  unfold findAddSet; split <;> rfl

@[simp] lemma handleToCtxvec_findAddSet (st : KernelTestMgr) (s : List Char) :
    (st.findAddSet s).handleToCtxvec = st.handleToCtxvec := by
  unfold findAddSet; split <;> rfl

@[simp] lemma cfgContexts_findAddSet (st : KernelTestMgr) (s : List Char) :
    (st.findAddSet s).cfgContexts = st.cfgContexts := by
  unfold findAddSet; split <;> rfl

/-- `find_add_set` records its name in `kernelsets`. -/
lemma mem_kernelsets_findAddSet (st : KernelTestMgr) (s x : List Char) :
    x ∈ (st.findAddSet s).kernelsets.keys ↔ x = s ∨ x ∈ st.kernelsets.keys := by
  unfold findAddSet
  split
  · simp [StdMap.set, StdMap.mem_keys_alter]
  · rename_i hs
    have hmem : s ∈ st.kernelsets.keys := by rwa [StdMap.mem_keys_iff, Option.isSome_iff_ne_none]
    exact ⟨.inr, fun h => h.elim (· ▸ hmem) id⟩

/-- `find_add_set` of a name `kernelsets` holds changes neither `set_names` nor
`kernelsets`. -/
lemma findAddSet_of_mem {st : KernelTestMgr} {s : List Char} (h : s ∈ st.kernelsets.keys) :
    (st.findAddSet s).setNames = st.setNames ∧ (st.findAddSet s).kernelsets = st.kernelsets := by
  rw [StdMap.mem_keys_iff, Option.isSome_iff_ne_none] at h
  unfold findAddSet; simp [h]

/-- `find_add_set` appends a name `kernelsets` does not hold to `set_names`. -/
lemma setNames_findAddSet (st : KernelTestMgr) (s : List Char) :
    (st.findAddSet s).setNames = st.setNames ++ if s ∈ st.kernelsets.keys then [] else [s] := by
  by_cases h : s ∈ st.kernelsets.keys
  · simp [h, (findAddSet_of_mem h).1]
  · rw [StdMap.mem_keys_iff, Option.isSome_iff_ne_none, not_not] at h
    simp [findAddSet, h, StdMap.mem_keys_iff]

@[simp] lemma testset_findAddTest (st : KernelTestMgr) (s t s' : List Char) :
    (st.findAddTest s t).testset s' = (st.findAddSet s).testset s' := rfl

@[simp] lemma kts_findAddTest (st : KernelTestMgr) (s t : List Char) :
    (st.findAddTest s t).kts = st.kts := by
  simp [findAddTest]

/-- The set `add_test` leaves under `s'`. -/
lemma testset_addTest (st : KernelTestMgr) (s t : List Char) (hid : Nat) (s' : List Char) :
    (st.addTest s t hid).testset s' =
      if s' = s then ((st.findAddTest s t).testset s).register t st.kts.length
        (genNames t hid (if hid = 0 then [] else st.handleToCtxvec.get hid []))
      else (st.findAddTest s t).testset s' := by
  rw [testset_of_sets rfl]; simp [findAddTest]

/-- `add_test` binds its test name to the object it allocates, and nothing else. -/
lemma lookup_addTest (st : KernelTestMgr) (s t : List Char) (hid : Nat) (s' t' : List Char) :
    (st.addTest s t hid).lookup s' t' =
      if s' = s ∧ t' = t then some st.kts.length else st.lookup s' t' := by
  rw [lookup_eq, testset_addTest]
  by_cases hs : s' = s
  · subst hs; by_cases ht : t' = t <;> simp [ht, lookup_eq]
  · simp [hs, lookup_eq]

/-- `add_test` appends the names it generates to its set's list. -/
lemma testNames_addTest (st : KernelTestMgr) (s t : List Char) (hid : Nat) (s' : List Char) :
    ((st.addTest s t hid).testset s').testNames =
      if s' = s then (st.testset s).testNames ++
        genNames t hid (if hid = 0 then [] else st.handleToCtxvec.get hid [])
      else (st.testset s').testNames := by
  rw [testset_addTest]
  by_cases hs : s' = s <;> simp [hs]

/-- The context list `add_test` reads matters only for a test with a handle. -/
lemma genNames_ite (t : List Char) (hid : Nat) (ctxv : List (List Char)) :
    genNames t hid (if hid = 0 then [] else ctxv) = genNames t hid ctxv := by
  unfold genNames; split_ifs <;> rfl

@[simp] lemma kts_addTest (st : KernelTestMgr) (s t : List Char) (hid : Nat) :
    (st.addTest s t hid).kts.length = st.kts.length + 1 := by
  simp [addTest, findAddTest]

/-- `add_test` inserts an empty context list for an unknown handle and changes no list. -/
@[simp] lemma handle_addTest (st : KernelTestMgr) (s t : List Char) (hid h : Nat) :
    (st.addTest s t hid).handleToCtxvec.get h [] = st.handleToCtxvec.get h [] := by
  by_cases h0 : hid = 0
  · simp [addTest, findAddTest, h0]
  · by_cases hh : h = hid <;> simp [addTest, findAddTest, h0, hh]

@[simp] lemma cfgContexts_addTest (st : KernelTestMgr) (s t : List Char) (hid : Nat) :
    (st.addTest s t hid).cfgContexts = st.cfgContexts := by
  simp [addTest, findAddTest]

/-- `add_test` keeps every context list there is (`get_contexts` inserts only absent ones). -/
lemma find?_handleToCtxvec_addTest {st : KernelTestMgr} {h : Nat} {v : List (List Char)}
    (hv : st.handleToCtxvec.find? h = some v) (s t : List Char) (hid : Nat) :
    (st.addTest s t hid).handleToCtxvec.find? h = some v := by
  by_cases h0 : hid = 0
  · simp [addTest, findAddTest, h0, hv]
  · by_cases hh : h = hid
    · subst hh; simp [addTest, findAddTest, h0, hv]
    · simp [addTest, findAddTest, h0, hh, hv]

lemma setNames_addTest (st : KernelTestMgr) (s t : List Char) (hid : Nat) :
    (st.addTest s t hid).setNames = (st.findAddSet s).setNames := rfl

lemma kernelsets_addTest (st : KernelTestMgr) (s t : List Char) (hid : Nat) :
    (st.addTest s t hid).kernelsets = (st.findAddSet s).kernelsets := rfl

/-- `add_configurable_context` appends a record to the vector of its name. -/
lemma findContexts_addConfigurableContext (st : KernelTestMgr) (ctx : List Char)
    (typeId hid : Nat) (cfgStat : Int) (c : List Char) :
    (st.addConfigurableContext ctx typeId hid cfgStat).findContexts c =
      st.findContexts c ++ if c = ctx then [⟨ctx, hid, typeId, cfgStat⟩] else [] := by
  by_cases h : c = ctx <;> simp [findContexts, addConfigurableContext, h]

/-- The objects allocated before `add_test` are left as they were. -/
lemma getElem?_kts_addTest (st : KernelTestMgr) (s t : List Char) (hid : Nat) {p : Ptr}
    (hp : p < st.kts.length) : (st.addTest s t hid).kts[p]? = st.kts[p]? := by
  simp [addTest, findAddTest, List.getElem?_append_left hp]

/-- The object `add_test` allocates takes the wrapper pending for its name. -/
lemma userTest_addTest (st : KernelTestMgr) (s t : List Char) (hid : Nat) :
    (st.addTest s t hid).kts[st.kts.length]?.map (·.userTest) =
      some ((st.testset s).wrapper.find? t) := by
  simp [addTest]

/-- The object `add_test` allocates carries the set and test names it was called with. -/
lemma names_addTest (st : KernelTestMgr) (s t : List Char) (hid : Nat) :
    (st.addTest s t hid).kts[st.kts.length]?.map (fun kt => (kt.setname, kt.testname)) =
      some (s, t) := by
  simp [addTest]

/-- The object `add_test` allocates takes as `testnum` the size of its set's tests map with
its name in it: every name the map holds, null entries included, and its own if new. -/
lemma testnum_addTest (st : KernelTestMgr) (s t : List Char) (hid : Nat) :
    (st.addTest s t hid).kts[st.kts.length]?.map (·.testnum) =
      some (if t ∈ (st.testset s).tests.keys then (st.testset s).tests.size
        else (st.testset s).tests.size + 1) := by
  simp [addTest, StdMap.set, StdMap.size_alter]

/-- The `operator[]` read of the tests map in `add_wrapper` sees the binding. -/
lemma get_tests_eq_lookup (st : KernelTestMgr) (s t : List Char) :
    (st.testset s).tests.get t none = st.lookup s t := by
  rw [lookup_eq, StdMap.get_eq]; cases (st.testset s).tests.find? t <;> rfl

/-- The set `add_wrapper` leaves under `s'`: the name is touched in the tests map, and the
callback waits in `wrapper` when no test is bound to it. -/
lemma testset_addWrapper (st : KernelTestMgr) (s t : List Char) (cb : Nat) (s' : List Char) :
    (st.addWrapper s t cb).testset s' =
      if s' = s then
        { st.testset s with
          tests := (st.testset s).tests.touch t none
          wrapper := if st.lookup s t = none then (st.testset s).wrapper.set t cb
            else (st.testset s).wrapper }
      else st.testset s' := by
  simp only [addWrapper, get_tests_eq_lookup]
  cases st.lookup s t <;> rw [testset_of_sets rfl] <;> simp

/-- `add_wrapper` binds nothing: its `operator[]` reads insert null entries at most. -/
@[simp] lemma lookup_addWrapper (st : KernelTestMgr) (s t : List Char) (cb : Nat)
    (s' t' : List Char) : (st.addWrapper s t cb).lookup s' t' = st.lookup s' t' := by
  rw [lookup_eq, lookup_eq, testset_addWrapper]
  by_cases hs : s' = s
  · subst hs
    by_cases ht : t' = t
    · subst ht; simp; cases (st.testset s').tests.find? t' <;> rfl
    · simp [ht]
  · simp [hs]

/-- `add_wrapper` gives a bound test the callback. -/
lemma kts_addWrapper (st : KernelTestMgr) (s t : List Char) (cb : Nat) :
    (st.addWrapper s t cb).kts = match st.lookup s t with
      | some p => st.kts.modify (fun kt => { kt with userTest := some cb }) p
      | none => st.kts := by
  simp only [addWrapper, get_tests_eq_lookup]
  cases st.lookup s t <;> rfl

@[simp] lemma kts_length_addWrapper (st : KernelTestMgr) (s t : List Char) (cb : Nat) :
    (st.addWrapper s t cb).kts.length = st.kts.length := by
  rw [kts_addWrapper]; split <;> simp

/-- `add_wrapper` renames no object. -/
lemma names_addWrapper (st : KernelTestMgr) (s t : List Char) (cb p : Nat) :
    (st.addWrapper s t cb).kts[p]?.map (fun kt => (kt.setname, kt.testname)) =
      st.kts[p]?.map (fun kt => (kt.setname, kt.testname)) := by
  rw [kts_addWrapper]
  split
  · rw [List.getElem?_modify]
    cases st.kts[p]? <;> simp only [Option.map_none', Option.map_eq_map, Option.map_some']
    split <;> rfl
  · rfl

end KernelTestMgr

/-! ### Mutations as data -/

/-- The registry mutations issued by the query interpreter and by wrapper registration. -/
inductive Mutation where
  | addTest (setname tname : List Char) (handleId : Nat)
  | addWrapper (setname testname : List Char) (tcb : Nat)
  | findAddSet (setname : List Char)
  | addCset (hid : Nat) (ctxs : List (List Char))
  | addConfigurableContext (ctx : List Char) (typeId hid : Nat) (cfgStat : Int)
  deriving DecidableEq, Repr

/-- One mutation applied to the manager. -/
def Mutation.apply (st : KernelTestMgr) : Mutation → KernelTestMgr
  | .addTest s t h => st.addTest s t h
  | .addWrapper s t cb => st.addWrapper s t cb
  | .findAddSet s => st.findAddSet s
  | .addCset h cs => st.addCset h cs
  | .addConfigurableContext c ty h stat => st.addConfigurableContext c ty h stat

/-- A sequence of mutations applied in order. -/
def runMutations (st : KernelTestMgr) (ms : List Mutation) : KernelTestMgr :=
  ms.foldl Mutation.apply st

@[simp] lemma runMutations_nil (st : KernelTestMgr) : runMutations st [] = st := rfl

@[simp] lemma runMutations_cons (st : KernelTestMgr) (m : Mutation) (ms : List Mutation) :
    runMutations st (m :: ms) = runMutations (Mutation.apply st m) ms := rfl

lemma runMutations_append (st : KernelTestMgr) (ms ms' : List Mutation) :
    runMutations st (ms ++ ms') = runMutations (runMutations st ms) ms' :=
  List.foldl_append _ _ _ _

/-- A property every mutation of a run keeps holds after the run. -/
lemma runMutations_induction (P : KernelTestMgr → Prop) {st : KernelTestMgr}
    {ms : List Mutation} (hstep : ∀ m ∈ ms, ∀ st, P st → P (Mutation.apply st m)) (h : P st) :
    P (runMutations st ms) := by
  induction ms generalizing st with
  | nil => exact h
  | cons m ms ih => exact ih (fun m' hm' => hstep m' (.tail _ hm')) (hstep m (.head _) st h)

end KtfInt
