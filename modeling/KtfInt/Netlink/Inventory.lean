import KtfInt.Registry.Binding

/-!
Well-formed query responses, and what `parse_query` makes of them.

An inventory is a handle table, a list of groups `HID h, LIST [STR c (NUM ty STAT st)?]*`,
and a set list, a list of entries `STR setname (TEST [(HID h)? STR t]*)?`. The encoders below
write an inventory as the attributes a kernel sends. On such attributes every loop of the
interpreter runs to its end, and the response comes down to a sequence of registry
mutations, `inventoryMutations`.

* `parseQuery_inventory`: **a well-formed response is applied as its mutations**, in order:
  each group's context records and context list, then for each set entry `find_add_set`, its
  tests with their handles, and `find_add_set` again;
* one run lemma per part of the registry these mutations touch (`find?_handleToCtxvec_last`,
  `findContexts_groups`, `setNames_sets`, `testNames_sets`, `holds_sets`), each from what one
  mutation does (`runMutations_induction`);
* `parseQuery_applies_inventory`: **a well-formed inventory is applied exactly**, its parts
  collected in `AppliesInventory`.
-/

namespace KtfInt

/-! ### Well-formed inventories -/

/-- An entry of a handle group's `LIST`: `STR c`, followed by `NUM ty` and `STAT st` when the
context takes configuration (`cfg = some (ty, st)`). -/
structure CtxEntry where
  name : List Char
  cfg : Option (Nat × Nat)

/-- The attributes of a context entry. -/
def CtxEntry.attrs (e : CtxEntry) : List Attr :=
  .str e.name :: match e.cfg with
    | none => []
    | some (ty, st) => [.num ty, .stat st]

/-- The `add_configurable_context` call the `STAT` of a context entry makes in the group of
handle `hid`. -/
def CtxEntry.mutations (hid : Nat) (e : CtxEntry) : List Mutation :=
  match e.cfg with
  | none => []
  | some (ty, st) => [.addConfigurableContext e.name ty hid (int32OfU32 st)]

/-- The record a context entry of the group of handle `hid` describes, if it takes
configuration; the `u32` payload of `STAT` is stored in the `int` `cfg_stat`. -/
def CtxEntry.record (hid : Nat) (e : CtxEntry) : Option ConfigurableContext :=
  e.cfg.map fun (ty, st) => ⟨e.name, hid, ty, int32OfU32 st⟩

/-- A group of the handle table: `HID h`, then the `LIST` of the handle's contexts. -/
structure HandleGroup where
  hid : Nat
  ctxs : List CtxEntry

/-- The attributes of a handle group. -/
def HandleGroup.attrs (g : HandleGroup) : List Attr :=
  [.hid g.hid, .list (g.ctxs.flatMap CtxEntry.attrs)]

/-- The mutations a handle group makes: the context records of its entries, then its
context list (`add_cset`). -/
def HandleGroup.mutations (g : HandleGroup) : List Mutation :=
  g.ctxs.flatMap (CtxEntry.mutations g.hid) ++ [.addCset g.hid (g.ctxs.map (·.name))]

/-- The `ConfigurableContext` records a group describes, one per entry with `NUM` and
`STAT`. -/
def HandleGroup.records (g : HandleGroup) : List ConfigurableContext :=
  g.ctxs.filterMap (CtxEntry.record g.hid)

/-- An entry of a set's `TEST` list: `STR t`, after `HID h` when the test has a handle. -/
structure TestEntry where
  hid : Option Nat
  name : List Char

/-- The attributes of a test entry. -/
def TestEntry.attrs (e : TestEntry) : List Attr := (e.hid.map .hid).toList ++ [.str e.name]

/-- An entry of the set list: `STR setname`, then the set's `TEST` list when it has one. -/
structure SetEntry where
  name : List Char
  tests : Option (List TestEntry)

/-- The attributes of a set entry. -/
def SetEntry.attrs (e : SetEntry) : List Attr :=
  .str e.name :: (e.tests.map fun ts => Attr.test (ts.flatMap TestEntry.attrs)).toList

/-- The mutations a set entry makes: `find_add_set`, and with a test list, each test added
with its handle (`0` without `HID`) and `find_add_set` again. -/
def SetEntry.mutations (e : SetEntry) : List Mutation :=
  .findAddSet e.name :: match e.tests with
    | none => []
    | some ts => ts.map (fun t => .addTest e.name t.name (t.hid.getD 0)) ++ [.findAddSet e.name]

/-- The mutations of an inventory: the handle table's, then the set list's. -/
def inventoryMutations (groups : List HandleGroup) (sets : List SetEntry) : List Mutation :=
  groups.flatMap HandleGroup.mutations ++ sets.flatMap SetEntry.mutations

/-- The elements of `l` not in `known`, each once, in the order of their first occurrence. -/
def newInOrder {α : Type} [DecidableEq α] (known : List α) : List α → List α
  | [] => []
  | x :: xs => if x ∈ known then newInOrder known xs else x :: newInOrder (x :: known) xs

/-- The elements of `l`, each once, in the order of their first occurrence. -/
def firstOccurrences {α : Type} [DecidableEq α] (l : List α) : List α := newInOrder [] l

/-- What `newInOrder` keeps depends only on which elements of the list are known. -/
lemma newInOrder_congr {α : Type} [DecidableEq α] :
    ∀ (l k k' : List α), (∀ x ∈ l, x ∈ k ↔ x ∈ k') → newInOrder k l = newInOrder k' l
  | [], _, _, _ => rfl
  | x :: xs, k, k', h => by
    have hxs : ∀ y ∈ xs, y ∈ k ↔ y ∈ k' := fun y hy => h y (.tail _ hy)
    simp only [newInOrder, h x (.head _)]
    split
    · exact newInOrder_congr xs k k' hxs
    · exact congrArg _ (newInOrder_congr xs _ _ fun y hy => by simp [hxs y hy])

/-! ### The loops on well-formed input -/

/-- The inner loop over a group's entries appends their names to `contexts` and adds their
records. -/
lemma parseCtxList_entries (hid : Nat) :
    ∀ (es : List CtxEntry) (ctx : List Char) (ty : Nat) (cs : List (List Char))
      (st : KernelTestMgr),
      (parseCtxList hid (es.flatMap CtxEntry.attrs) ctx ty cs st).2.2 =
        (cs ++ es.map (·.name), runMutations st (es.flatMap (CtxEntry.mutations hid)))
  | [], _, _, _, _ => by simp [parseCtxList]
  | ⟨name, cfg⟩ :: es, ctx, ty, cs, st => by
    cases cfg <;> simpa [CtxEntry.attrs, CtxEntry.mutations, parseCtxList] using
      parseCtxList_entries hid es name _ (cs ++ [name]) _

/-- The handle-table loop over well-formed groups runs to its end, making each group's
mutations. -/
lemma parseHlist_groups :
    ∀ (gs : List HandleGroup) (ctx : List Char) (h ty : Nat) (st : KernelTestMgr),
      parseHlist (gs.flatMap HandleGroup.attrs) ctx h ty st =
        (none, runMutations st (gs.flatMap HandleGroup.mutations))
  | [], _, _, _, _ => rfl
  | g :: gs, ctx, h, ty, st => by
    have e := Prod.ext_iff.mp (parseCtxList_entries g.hid g.ctxs ctx ty [] st)
    rw [List.flatMap_cons, HandleGroup.attrs, List.cons_append, List.cons_append,
      List.nil_append]
    simp only [parseHlist, e.1, e.2, List.nil_append]
    rw [parseHlist_groups gs, List.flatMap_cons, HandleGroup.mutations, runMutations_append,
      runMutations_append]
    rfl

/-- `parse_one_set` over well-formed test entries adds each test with its handle. -/
lemma parseOneSet_tests (setname : List Char) :
    ∀ (ts : List TestEntry) (st : KernelTestMgr),
      parseOneSet setname (ts.flatMap TestEntry.attrs) 0 st =
        (nlOk, runMutations st (ts.map fun t => .addTest setname t.name (t.hid.getD 0)))
  | [], _ => rfl
  | ⟨none, _⟩ :: ts, _ => parseOneSet_tests setname ts _
  | ⟨some _, _⟩ :: ts, _ => parseOneSet_tests setname ts _

/-- The set-list loop over well-formed entries runs to its end, making each entry's
mutations. -/
lemma parseSetList_entries :
    ∀ (es : List SetEntry) (setname : List Char) (st : KernelTestMgr),
      parseSetList (es.flatMap SetEntry.attrs) setname st =
        (none, runMutations st (es.flatMap SetEntry.mutations))
  | [], _, _ => rfl
  | ⟨name, none⟩ :: es, _, _ => parseSetList_entries es name _
  | ⟨name, some ts⟩ :: es, _, st => by
    have e : (SetEntry.mk name (some ts) :: es).flatMap SetEntry.attrs =
        .str name :: .test (ts.flatMap TestEntry.attrs) :: es.flatMap SetEntry.attrs := rfl
    rw [e]
    simp only [parseSetList, parseOneSet_tests, ne_eq, not_true_eq_false, if_false,
      parseSetList_entries es, List.flatMap_cons, SetEntry.mutations, List.cons_append,
      runMutations_cons, runMutations_append, List.singleton_append]
    rfl

/-- An absent handle table is read as an empty one. -/
lemma parseHandleTable_eq (hlist : Option (List Attr)) (st : KernelTestMgr) :
    parseHandleTable hlist st = parseHlist (hlist.getD []) [] 0 0 st := by
  cases hlist <;> rfl

/-- An absent set list is read as an empty one. -/
lemma parseInventory_list_getD (hlist : Option (List Attr)) (num : Option Nat)
    (list : Option (List Attr)) (st : KernelTestMgr) :
    parseInventory hlist num list st = parseInventory hlist num (some (list.getD [])) st := by
  cases list <;> rfl

/-- **A well-formed response is applied as its mutations.** A response of a compatible
version whose handle table encodes `groups` (or is absent for none), with a set count, and
whose set list encodes `sets` (or is absent for none), returns `NL_OK` after making exactly
the mutations of the inventory, in order. -/
theorem parseQuery_inventory (latest : Version) (q : QueryAttrs) (st : KernelTestMgr)
    (groups : List HandleGroup) (sets : List SetEntry)
    (hv : isCompatible latest (q.version.getD defaultKernelVersion) = true)
    (hh : q.hlist.getD [] = groups.flatMap HandleGroup.attrs) (hn : q.num.isSome)
    (hl : q.list.getD [] = sets.flatMap SetEntry.attrs) :
    parseQuery latest q st = (nlOk, runMutations st (inventoryMutations groups sets)) := by
  obtain ⟨n, hn⟩ := Option.isSome_iff_exists.mp hn
  rw [parseQuery_of_compatible hv, parseInventory_list_getD]
  simp only [parseInventory, parseHandleTable_eq, hh, parseHlist_groups, hn, hl,
    parseSetList_entries, Option.getD_none, inventoryMutations, runMutations_append]

/-! ### The handle table's mutations -/

namespace KernelTestMgr

/-- A group's entries make only `add_configurable_context` calls for its handle. -/
lemma mem_mutations_ctxEntries {hid : Nat} {es : List CtxEntry} {m : Mutation}
    (hm : m ∈ es.flatMap (CtxEntry.mutations hid)) :
    ∃ c ty v, m = .addConfigurableContext c ty hid v := by
  obtain ⟨e, -, hm⟩ := List.mem_flatMap.mp hm
  unfold CtxEntry.mutations at hm
  split at hm
  · cases hm
  · exact ⟨_, _, _, List.mem_singleton.mp hm⟩

/-- The handle table's mutations change the context maps only. -/
lemma runMutations_groups (st : KernelTestMgr) (gs : List HandleGroup) :
    ∃ hc cc, runMutations st (gs.flatMap HandleGroup.mutations) =
      { st with handleToCtxvec := hc, cfgContexts := cc } := by
  refine runMutations_induction
    (fun s => ∃ hc cc, s = { st with handleToCtxvec := hc, cfgContexts := cc }) ?_ ⟨_, _, rfl⟩
  rintro m hm _ ⟨hc, cc, rfl⟩
  obtain ⟨g, -, hm⟩ := List.mem_flatMap.mp hm
  rcases List.mem_append.mp hm with hm | hm
  · obtain ⟨c, ty, v, rfl⟩ := mem_mutations_ctxEntries hm
    exact ⟨_, _, rfl⟩
  · rw [List.mem_singleton.mp hm]; exact ⟨_, _, rfl⟩

/-- A group's list becomes its handle's context list. -/
lemma handleToCtxvec_group (g : HandleGroup) (st : KernelTestMgr) :
    (runMutations st g.mutations).handleToCtxvec =
      st.handleToCtxvec.set g.hid (g.ctxs.map (·.name)) := by
  have hes : (runMutations st (g.ctxs.flatMap (CtxEntry.mutations g.hid))).handleToCtxvec =
      st.handleToCtxvec := by
    refine runMutations_induction (fun s => s.handleToCtxvec = st.handleToCtxvec) ?_ rfl
    intro m hm s hs
    obtain ⟨c, ty, v, rfl⟩ := mem_mutations_ctxEntries hm
    exact hs
  simp only [HandleGroup.mutations, runMutations_append, runMutations_cons, runMutations_nil,
    Mutation.apply, addCset, hes]

/-- Groups of other handles leave a handle's context list alone. -/
lemma find?_handleToCtxvec_groups {h : Nat} :
    ∀ (gs : List HandleGroup) (st : KernelTestMgr), (∀ g ∈ gs, g.hid ≠ h) →
      (runMutations st (gs.flatMap HandleGroup.mutations)).handleToCtxvec.find? h =
        st.handleToCtxvec.find? h
  | [], _, _ => rfl
  | g :: gs, st, hgs => by
    rw [List.flatMap_cons, runMutations_append,
      find?_handleToCtxvec_groups gs _ fun g' hg' => hgs g' (.tail _ hg'), handleToCtxvec_group,
      StdMap.find?_set, if_neg fun e => hgs g (.head _) e.symm]

/-- A handle's context list is the list of its last group. -/
lemma find?_handleToCtxvec_last (st : KernelTestMgr) (pre : List HandleGroup) (g : HandleGroup)
    (post : List HandleGroup) (hpost : ∀ g' ∈ post, g'.hid ≠ g.hid) :
    (runMutations st ((pre ++ g :: post).flatMap HandleGroup.mutations)).handleToCtxvec.find?
      g.hid = some (g.ctxs.map (·.name)) := by
  rw [List.flatMap_append, List.flatMap_cons, runMutations_append, runMutations_append,
    find?_handleToCtxvec_groups post _ hpost, handleToCtxvec_group, StdMap.find?_set_self]

/-- The entries of a group add their records, in order. -/
lemma findContexts_entries (hid : Nat) (c : List Char) :
    ∀ (es : List CtxEntry) (st : KernelTestMgr),
      (runMutations st (es.flatMap (CtxEntry.mutations hid))).findContexts c =
        st.findContexts c ++ (es.filterMap (CtxEntry.record hid)).filter (·.name = c)
  | [], _ => by simp
  | ⟨name, none⟩ :: es, st => by
    simpa [CtxEntry.mutations, CtxEntry.record] using findContexts_entries hid c es st
  | ⟨name, some (ty, v)⟩ :: es, st => by
    rw [List.flatMap_cons, runMutations_append, findContexts_entries hid c es]
    by_cases h : c = name <;>
      simp [CtxEntry.mutations, CtxEntry.record, Mutation.apply,
        findContexts_addConfigurableContext, h, List.filter_cons, eq_comm]

/-- The handle table adds the records of its groups, in order. -/
lemma findContexts_groups (c : List Char) :
    ∀ (gs : List HandleGroup) (st : KernelTestMgr),
      (runMutations st (gs.flatMap HandleGroup.mutations)).findContexts c =
        st.findContexts c ++ (gs.flatMap HandleGroup.records).filter (·.name = c)
  | [], _ => by simp
  | g :: gs, st => by
    rw [List.flatMap_cons, runMutations_append, findContexts_groups c gs, HandleGroup.mutations,
      runMutations_append, runMutations_cons, runMutations_nil, List.flatMap_cons,
      List.filter_append, ← List.append_assoc]
    exact congrArg (· ++ _) (findContexts_entries g.hid c g.ctxs st)

/-! ### The set list's mutations -/

/-- A set entry's mutations are `find_add_set` and `add_test` of its set. -/
lemma mem_mutations_entry {e : SetEntry} {m : Mutation} (hm : m ∈ e.mutations) :
    m = .findAddSet e.name ∨ ∃ t hid, m = .addTest e.name t hid := by
  unfold SetEntry.mutations at hm
  rcases List.mem_cons.mp hm with rfl | hm
  · exact .inl rfl
  · split at hm
    · cases hm
    · rcases List.mem_append.mp hm with hm | hm
      · obtain ⟨t, -, rfl⟩ := List.mem_map.mp hm
        exact .inr ⟨_, _, rfl⟩
      · exact .inl (List.mem_singleton.mp hm)

/-- The set list's mutations keep the context records and every context list there is, and
read the others as empty. -/
lemma contexts_apply_of_mem_entry {e : SetEntry} {m : Mutation} (hm : m ∈ e.mutations)
    (st : KernelTestMgr) :
    (m.apply st).cfgContexts = st.cfgContexts ∧
      (∀ h, (m.apply st).handleToCtxvec.get h [] = st.handleToCtxvec.get h []) ∧
      ∀ h v, st.handleToCtxvec.find? h = some v →
        (m.apply st).handleToCtxvec.find? h = some v := by
  rcases mem_mutations_entry hm with rfl | ⟨t, hid, rfl⟩
  · simp [Mutation.apply]
  · exact ⟨cfgContexts_addTest _ _ _ _, fun h => handle_addTest _ _ _ _ h,
      fun h v hv => find?_handleToCtxvec_addTest hv _ _ _⟩

/-- The set list keeps the context records and every context list there is. -/
lemma contexts_sets (es : List SetEntry) (st : KernelTestMgr) :
    (runMutations st (es.flatMap SetEntry.mutations)).cfgContexts = st.cfgContexts ∧
      (∀ h, (runMutations st (es.flatMap SetEntry.mutations)).handleToCtxvec.get h [] =
        st.handleToCtxvec.get h []) ∧
      ∀ h v, st.handleToCtxvec.find? h = some v →
        (runMutations st (es.flatMap SetEntry.mutations)).handleToCtxvec.find? h = some v := by
  refine runMutations_induction (fun s => s.cfgContexts = st.cfgContexts ∧
      (∀ h, s.handleToCtxvec.get h [] = st.handleToCtxvec.get h []) ∧
      ∀ h v, st.handleToCtxvec.find? h = some v → s.handleToCtxvec.find? h = some v)
    ?_ ⟨rfl, fun _ => rfl, fun _ _ hv => hv⟩
  rintro m hm s ⟨h1, h2, h3⟩
  obtain ⟨e, -, hm⟩ := List.mem_flatMap.mp hm
  obtain ⟨c1, c2, c3⟩ := contexts_apply_of_mem_entry hm s
  exact ⟨c1.trans h1, fun h => (c2 h).trans (h2 h), fun h v hv => c3 h v (h3 h v hv)⟩

/-- A set entry registers its set unless `kernelsets` holds it, and changes `kernelsets` by
that name only. -/
lemma setNames_entry (e : SetEntry) (st : KernelTestMgr) :
    (runMutations st e.mutations).setNames =
        st.setNames ++ (if e.name ∈ st.kernelsets.keys then [] else [e.name]) ∧
      ∀ x, x ∈ (runMutations st e.mutations).kernelsets.keys ↔
        x = e.name ∨ x ∈ st.kernelsets.keys := by
  obtain ⟨rest, hrest⟩ : ∃ rest, e.mutations = .findAddSet e.name :: rest := ⟨_, rfl⟩
  have hk := mem_kernelsets_findAddSet st e.name
  -- after its first `find_add_set` the set is registered, and the rest registers nothing
  have hreg :
      (runMutations (st.findAddSet e.name) rest).setNames = (st.findAddSet e.name).setNames ∧
        (runMutations (st.findAddSet e.name) rest).kernelsets =
          (st.findAddSet e.name).kernelsets := by
    refine runMutations_induction (fun s => s.setNames = (st.findAddSet e.name).setNames ∧
      s.kernelsets = (st.findAddSet e.name).kernelsets) ?_ ⟨rfl, rfl⟩
    rintro m hm s ⟨h1, h2⟩
    have hf := findAddSet_of_mem (show e.name ∈ s.kernelsets.keys by rw [h2, hk]; exact .inl rfl)
    rcases mem_mutations_entry (hrest ▸ List.mem_cons_of_mem _ hm) with rfl | ⟨_, _, rfl⟩ <;>
      exact ⟨hf.1.trans h1, hf.2.trans h2⟩
  rw [hrest, runMutations_cons, Mutation.apply, hreg.1, hreg.2, setNames_findAddSet]
  exact ⟨rfl, hk⟩

/-- The set list registers the sets `kernelsets` does not hold, in order of first
appearance. -/
lemma setNames_sets : ∀ (es : List SetEntry) (st : KernelTestMgr),
    (runMutations st (es.flatMap SetEntry.mutations)).setNames =
      st.setNames ++ newInOrder st.kernelsets.keys (es.map (·.name))
  | [], _ => by simp [newInOrder]
  | e :: es, st => by
    obtain ⟨h1, h2⟩ := setNames_entry e st
    rw [List.flatMap_cons, runMutations_append, setNames_sets es, h1, List.map_cons, newInOrder]
    by_cases hm : e.name ∈ st.kernelsets.keys
    · rw [if_pos hm, if_pos hm, newInOrder_congr _ _ st.kernelsets.keys fun x _ =>
        (h2 x).trans ⟨fun h => h.elim (· ▸ hm) id, .inr⟩]
      simp
    · rw [if_neg hm, if_neg hm, newInOrder_congr _ _ (e.name :: st.kernelsets.keys) fun x _ =>
        (h2 x).trans List.mem_cons.symm]
      simp

/-- The tests of a set entry append the names generated for them to their set's list. -/
lemma testNames_tests (n x : List Char) :
    ∀ (ts : List TestEntry) (st : KernelTestMgr),
      ((runMutations st (ts.map fun t => .addTest n t.name (t.hid.getD 0))).testset x).testNames =
        (st.testset x).testNames ++ if x = n then ts.flatMap (fun t =>
          genNames t.name (t.hid.getD 0) (st.handleToCtxvec.get (t.hid.getD 0) [])) else []
  | [], _ => by simp
  | t :: ts, st => by
    rw [List.map_cons, runMutations_cons, testNames_tests n x ts]
    simp only [Mutation.apply, testNames_addTest, handle_addTest, genNames_ite]
    by_cases hx : x = n <;> simp [hx]

/-- A set entry appends the names generated for its tests to its set's list. -/
lemma testNames_entry (e : SetEntry) (x : List Char) (st : KernelTestMgr) :
    ((runMutations st e.mutations).testset x).testNames = (st.testset x).testNames ++
      if x = e.name then (e.tests.getD []).flatMap (fun t =>
        genNames t.name (t.hid.getD 0) (st.handleToCtxvec.get (t.hid.getD 0) [])) else [] := by
  obtain ⟨n, ts⟩ := e
  cases ts with
  | none => by_cases hx : x = n <;> simp [SetEntry.mutations, Mutation.apply, hx]
  | some ts =>
    simp only [SetEntry.mutations, runMutations_cons, runMutations_append, runMutations_nil,
      Mutation.apply, testNames_findAddSet, testNames_tests, handleToCtxvec_findAddSet]
    rfl

/-- The set list appends, set by set, the names generated for its tests. -/
lemma testNames_sets (x : List Char) :
    ∀ (es : List SetEntry) (st : KernelTestMgr),
      ((runMutations st (es.flatMap SetEntry.mutations)).testset x).testNames =
        (st.testset x).testNames ++ (es.filter (·.name = x)).flatMap fun e =>
          (e.tests.getD []).flatMap fun t =>
            genNames t.name (t.hid.getD 0) (st.handleToCtxvec.get (t.hid.getD 0) [])
  | [], _ => by simp
  | e :: es, st => by
    have hget := (contexts_sets [e] st).2.1
    rw [List.flatMap_singleton] at hget
    rw [List.flatMap_cons, runMutations_append, testNames_sets x es, testNames_entry]
    simp only [hget]
    by_cases hx : e.name = x
    · simp [hx, List.filter_cons]
    · simp [Ne.symm hx, hx, List.filter_cons]

/-! ### Bindings -/

/-- Test `t` of set `s` is bound to an object of that set and name. -/
def Holds (st : KernelTestMgr) (s t : List Char) : Prop :=
  ∃ p, st.lookup s t = some p ∧
    st.kts[p]?.map (fun kt => (kt.setname, kt.testname)) = some (s, t)

/-- `add_test` makes its test held. -/
lemma holds_addTest (st : KernelTestMgr) (s t : List Char) (hid : Nat) :
    (st.addTest s t hid).Holds s t :=
  ⟨_, by rw [lookup_addTest, if_pos ⟨rfl, rfl⟩], names_addTest st s t hid⟩

/-- A held test stays held: `add_test` rebinds it to another object of its name, and no
mutation renames an object. -/
lemma Holds.apply {st : KernelTestMgr} {s t : List Char} (h : st.Holds s t) (m : Mutation) :
    (m.apply st).Holds s t := by
  obtain ⟨p, hl, hp⟩ := h
  cases m with
  | addTest s' t' hid =>
    by_cases he : s = s' ∧ t = t'
    · obtain ⟨rfl, rfl⟩ := he; exact holds_addTest st s t hid
    · have hlt : p < st.kts.length := by
        cases hk : st.kts[p]? with
        | none => simp [hk] at hp
        | some kt => exact (List.getElem?_eq_some_iff.mp hk).1
      refine ⟨p, ?_, ?_⟩
      · simp only [Mutation.apply, lookup_addTest, if_neg he, hl]
      · simp only [Mutation.apply, getElem?_kts_addTest _ _ _ _ hlt, hp]
  | addWrapper s' t' cb =>
    exact ⟨p, by simp [Mutation.apply, hl], by rw [Mutation.apply, names_addWrapper, hp]⟩
  | findAddSet s' => exact ⟨p, by simp [Mutation.apply, hl], by simp [Mutation.apply, hp]⟩
  | addCset | addConfigurableContext => exact ⟨p, hl, hp⟩

/-- Every test of the set list is held after it. -/
lemma holds_sets (es : List SetEntry) (st : KernelTestMgr) {e : SetEntry} (he : e ∈ es)
    {t : TestEntry} (ht : t ∈ e.tests.getD []) :
    (runMutations st (es.flatMap SetEntry.mutations)).Holds e.name t.name := by
  have hm : Mutation.addTest e.name t.name (t.hid.getD 0) ∈ es.flatMap SetEntry.mutations := by
    refine List.mem_flatMap.mpr ⟨e, he, ?_⟩
    obtain ⟨n, ts⟩ := e
    cases ts with
    | none => cases ht
    | some ts => exact .tail _ (List.mem_append_left _ (List.mem_map_of_mem _ ht))
  obtain ⟨pre, post, hsplit⟩ := List.append_of_mem hm
  rw [hsplit, runMutations_append, runMutations_cons]
  exact runMutations_induction (fun s => s.Holds e.name t.name) (fun m _ s h => h.apply m)
    (holds_addTest _ _ _ _)

/-! ### A well-formed inventory, applied -/

/-- What applying the inventory `groups`, `sets` to the registry `st` leaves in `st'`. -/
structure AppliesInventory (groups : List HandleGroup) (sets : List SetEntry)
    (st st' : KernelTestMgr) : Prop where
  /-- A handle's context list is the context names of its last group, in order. -/
  ctxvec : ∀ pre g post, groups = pre ++ g :: post → (∀ g' ∈ post, g'.hid ≠ g.hid) →
    st'.handleToCtxvec.find? g.hid = some (g.ctxs.map (·.name))
  /-- Each context entry with `NUM` and `STAT` adds one record, with its own name, type and
  status and its group's handle, after the records there were. -/
  records : ∀ c, st'.findContexts c =
    st.findContexts c ++ (groups.flatMap HandleGroup.records).filter (·.name = c)
  /-- The listed sets are registered in order of first appearance. -/
  setNames : st'.setNames = st.setNames ++ firstOccurrences (sets.map (·.name))
  /-- Each test entry appends to its set's names the names generated for the test with its
  handle: the bare name without one, one name per context of the handle's list otherwise. -/
  testNames : ∀ s, (st'.testset s).testNames = (st.testset s).testNames ++
    (sets.filter (·.name = s)).flatMap fun e => (e.tests.getD []).flatMap fun t =>
      genNames t.name (t.hid.getD 0) (st'.handleToCtxvec.get (t.hid.getD 0) [])
  /-- Each listed test is bound, in its set, to an object of its set and name. -/
  holds : ∀ e ∈ sets, ∀ t ∈ e.tests.getD [], st'.Holds e.name t.name

/-- The mutations of an inventory whose sets `kernelsets` does not hold apply it. -/
lemma appliesInventory_runMutations (st : KernelTestMgr) (groups : List HandleGroup)
    (sets : List SetEntry) (hfresh : ∀ e ∈ sets, st.kernelsets.find? e.name = none) :
    AppliesInventory groups sets st (runMutations st (inventoryMutations groups sets)) := by
  have hctx := contexts_sets sets (runMutations st (groups.flatMap HandleGroup.mutations))
  obtain ⟨hc, cc, hg⟩ := runMutations_groups st groups
  rw [inventoryMutations, runMutations_append]
  refine ⟨fun pre g post hgs hpost => ?_, fun c => ?_, ?_, fun s => ?_, fun e he t ht => ?_⟩
  · exact hctx.2.2 _ _ (hgs ▸ find?_handleToCtxvec_last st pre g post hpost)
  · rw [findContexts, hctx.1, ← findContexts, findContexts_groups]
  · rw [hg, setNames_sets]
    refine congrArg (st.setNames ++ ·) (newInOrder_congr _ _ _ fun x hx => ?_)
    obtain ⟨e, he, rfl⟩ := List.mem_map.mp hx
    simp [StdMap.mem_keys_iff, hfresh e he]
  · rw [hg] at hctx ⊢
    rw [testNames_sets]
    simp only [hctx.2.1]
    rfl
  · rw [hg]
    exact holds_sets sets _ he ht

/-- **A well-formed inventory is applied exactly.** A response of a compatible version whose
handle table is a sequence of groups `HID h, LIST [STR c (NUM ty STAT st)?]*`, with a set
count, and whose set list is a sequence of entries `STR setname (TEST [(HID h)? STR t]*)?`,
applied to a registry whose `kernelsets` holds none of the listed sets, returns `NL_OK`, and:
each handle's context list is the names of its last group; one record per configurable
entry is added with the entry's name, type and status and its group's handle; the listed sets
are registered in order of first appearance, those without tests included; each test entry
appends the names generated for its test with the handle of its `HID` (`0` without one) to
its set's names; and each listed test is bound to an object of its set and name. -/
theorem parseQuery_applies_inventory (latest : Version) (q : QueryAttrs) (st : KernelTestMgr)
    (groups : List HandleGroup) (sets : List SetEntry)
    (hv : isCompatible latest (q.version.getD defaultKernelVersion) = true)
    (hh : q.hlist.getD [] = groups.flatMap HandleGroup.attrs) (hn : q.num.isSome)
    (hl : q.list.getD [] = sets.flatMap SetEntry.attrs)
    (hfresh : ∀ e ∈ sets, st.kernelsets.find? e.name = none) :
    (parseQuery latest q st).1 = nlOk ∧
      AppliesInventory groups sets st (parseQuery latest q st).2 := by
  rw [parseQuery_inventory latest q st groups sets hv hh hn hl]
  exact ⟨rfl, appliesInventory_runMutations st groups sets hfresh⟩

/-- Handle `1` with the configurable context `c`, set `s` with test `t` on that handle, and
set `e` without a test list, sent to the empty registry. -/
theorem parseQuery_applies_inventory_two_sets :
    let groups : List HandleGroup := [⟨1, [⟨"c".toList, some (2, 0)⟩]⟩]
    let sets : List SetEntry :=
      [⟨"s".toList, some [⟨some 1, "t".toList⟩]⟩, ⟨"e".toList, none⟩]
    let q : QueryAttrs := ⟨none, some (groups.flatMap HandleGroup.attrs), some 2,
      some (sets.flatMap SetEntry.attrs)⟩
    (∀ e ∈ sets, KernelTestMgr.empty.kernelsets.find? e.name = none) ∧
      (parseQuery defaultKernelVersion q .empty).1 = nlOk ∧
      AppliesInventory groups sets .empty (parseQuery defaultKernelVersion q .empty).2 :=
  ⟨by decide, parseQuery_applies_inventory defaultKernelVersion _ .empty _ _ rfl rfl rfl rfl
    (by decide)⟩

end KernelTestMgr

end KtfInt
