import KtfInt.Api.Configure
import KtfInt.Api.Requests
import KtfInt.Netlink.Result
import KtfInt.Registry.Growth

/-!
The library as a state machine driven by a test program: the program calls the entry points
that change the library's state, `query_testsets`, `add_wrapper`, `find_test`,
`get_test_names` and `get_priv`, in any order and as often as it likes, and the kernel
answers each query as it likes. A run is such a sequence of calls; a theorem about every run
holds for every interleaving of them.

The other entry points only read the state: `run_test`, `run`, `configure_context`,
`configure_context_for_test` and `set_coverage` send requests built from it, and
`get_current_setname`, `get_priv_sz` and `get_testsets` return part of it. The answers the
library reads back, to a `run` or beyond the first answer to a query, are `receive` steps:
`parse_cb` hands each to `parse_query` or `parse_result` by the type the kernel gave it.

* `runOps_extends`: **the registry only grows** over every run;
* `runOps_heapLater`: **no object is ever freed, renamed or renumbered**, a private block
  keeps the size of its first `get_priv` and a bound callback stays bound;
* `runOps_inv`: **the representation invariant holds in every state a program reaches**;
* `getTestNames_names_bound`: **every name the enumeration hands out has a kernel test
  behind it**, in a set the kernel listed;
* `getTestNames_names_resolve`: **every name the enumeration hands out resolves**:
  `find_test` finds a test for it, bound in its set to a prefix of the name;
* `getTestNames_names_resolve_later`: **every name the enumeration hands out resolves for
  the rest of the run**, whatever happens between the call and the lookup;
* `runTest_runs_announced`: **the library asks the kernel to run only tests the kernel
  announced**;
* `runTest_keeps_wrapper`: **a bound wrapper keeps its test from the kernel** until the
  kernel announces the test again;
* `findTest_stays_resolved`: **a name that resolves keeps resolving** over every run;
* `configureContext_never_recovers`: **context configuration never recovers**: the record
  `configure_context` configures stays the same until the name gains a second record, and
  from then on it always reports more than one context.
-/

namespace KtfInt

/-- An entry point of the library that changes its state. -/
inductive Op where
  /-- `query_testsets()`, the request acknowledged with `ack` and answered with `response`. -/
  | query (ack : Int) (response : QueryAttrs)
  /-- `add_wrapper(setname, testname, tcb)`. -/
  | addWrapper (setname testname : List Char) (tcb : Nat)
  /-- `find_test(setname, testname, &ctx)`, on at most `fuel` iterations of its scan. -/
  | findTest (fuel : Nat) (setname testname pctx : List Char)
  /-- `get_test_names()`. -/
  | getTestNames
  /-- `get_priv(kt, sz)`. -/
  | getPriv (kt : Ptr) (sz : Nat)
  /-- A message the library reads from its socket and hands to `parse_cb`: an answer after
  the first to a query, or an answer to a `run` request, of whatever type the kernel
  chooses. -/
  | receive (msg : Message)

/-- The calls to `get_test_names`. -/
def Op.isCall : Op → Bool
  | .getTestNames => true
  | _ => false

section Session

variable (latest : Version)

/-- The state one entry point leaves; `none` for a `find_test` whose scan does not end
within its fuel, after which the program makes no further call. -/
def Op.apply (st : KernelTestMgr) : Op → Option KernelTestMgr
  | .query ack response => some (queryTestsets latest ack response st).2
  | .addWrapper s t cb => some (st.addWrapper s t cb)
  | .findTest fuel s n pctx => (st.findTest fuel s n pctx).map (·.2.2)
  | .getTestNames => some st.getTestNames.2
  | .getPriv p sz => some (st.getPriv p sz)
  | .receive msg => some (parseCb latest msg st).2.1

/-- A run of entry points from `st`: each operation with the state it leaves, up to the
first that does not return. -/
def runOps (st : KernelTestMgr) : List Op → List (Op × KernelTestMgr)
  | [] => []
  | op :: ops => match op.apply latest st with
    | none => []
    | some st' => (op, st') :: runOps st' ops

end Session

/-- The (set, test) pairs the kernel announces in a step: those of a query answer the library
reads, after `query_testsets` or through `parse_cb`. -/
def Op.announced : Op → List (List Char × List Char)
  | .query ack response => if ack < 0 then [] else response.announced
  | .receive msg => if msg.type = some .query then msg.attrs.announced else []
  | _ => []

namespace KernelTestMgr

variable {latest : Version}

/-! ### One step -/

lemma runOps_cons (st : KernelTestMgr) (op : Op) (ops : List Op) :
    runOps latest st (op :: ops) = match op.apply latest st with
      | none => []
      | some st' => (op, st') :: runOps latest st' ops := rfl

lemma Op.apply_call {op : Op} {st st' : KernelTestMgr} (h : op.apply latest st = some st')
    (hc : op.isCall = true) : st' = st.getTestNames.2 := by
  cases op <;> first | exact (Option.some.inj h).symm | cases hc

/-- `query_testsets` acts on the registry only through the registry's mutations. -/
lemma queryTestsets_mutations (ack : Int) (response : QueryAttrs) (st : KernelTestMgr) :
    ∃ ms, (queryTestsets latest ack response st).2 = runMutations st ms := by
  unfold queryTestsets
  split
  · exact ⟨[], rfl⟩
  · exact parseQuery_mutations latest response st

lemma Respects.of_mutations {R : KernelTestMgr → KernelTestMgr → Prop} (hR : Respects R)
    {st st' : KernelTestMgr} (h : ∃ ms, st' = KtfInt.runMutations st ms) : R st st' := by
  obtain ⟨ms, rfl⟩ := h
  exact hR.runMutations st ms

/-- Every entry point other than `get_test_names` is made of primitive changes. -/
lemma Respects.apply {R : KernelTestMgr → KernelTestMgr → Prop} (hR : Respects R)
    {op : Op} {st st' : KernelTestMgr} (h : op.apply latest st = some st')
    (hc : op.isCall = false) : R st st' := by
  cases op with
  | query ack response => cases h; exact hR.of_mutations (queryTestsets_mutations ack response st)
  | addWrapper s t cb => cases h; exact hR.mutate st (.addWrapper s t cb)
  | findTest fuel s n pctx =>
    obtain ⟨r, hr, rfl⟩ := Option.map_eq_some'.1 h
    exact hR.findTest hr
  | getTestNames => cases hc
  | getPriv p sz => cases h; exact hR.getPriv st p sz
  | receive msg => cases h; exact hR.of_mutations (parseCb_mutations latest msg st)

/-- **What every step keeps, every run keeps**: a relation the primitive changes and
`get_test_names` respect holds between any earlier and any later state of a run. -/
lemma Respects.runOps {R : KernelTestMgr → KernelTestMgr → Prop} (hR : Respects R)
    (hcall : ∀ st, R st st.getTestNames.2) (st : KernelTestMgr) (ops : List Op) :
    (st :: (runOps latest st ops).map Prod.snd).Pairwise R := by
  induction ops generalizing st with
  | nil => exact List.pairwise_singleton R st
  | cons op ops ih =>
    rw [runOps_cons]
    cases h : op.apply latest st with
    | none => exact List.pairwise_singleton R st
    | some st' =>
      have hstep : R st st' := by
        cases hc : op.isCall
        · exact hR.apply h hc
        · exact Op.apply_call h hc ▸ hcall st
      have hrest := ih st'
      rw [List.map_cons, List.pairwise_cons]
      refine ⟨fun x hx => ?_, hrest⟩
      rcases List.mem_cons.1 hx with rfl | hx
      · exact hstep
      · exact hR.trans hstep ((List.pairwise_cons.1 hrest).1 x hx)

/-- A property every primitive change and `get_test_names` keep holds in every state of a
run from a state that has it. -/
lemma Respects.holds {P : KernelTestMgr → Prop} (hR : Respects fun a b => P a → P b)
    (hcall : ∀ st, P st → P st.getTestNames.2) {st : KernelTestMgr} (h : P st) (ops : List Op) :
    ∀ s ∈ st :: (KtfInt.runOps latest st ops).map Prod.snd, P s := by
  intro s hs
  rcases List.mem_cons.1 hs with rfl | hs
  · exact h
  · exact (List.pairwise_cons.1 (hR.runOps hcall st ops)).1 s hs h

/-! ### Invariants over runs -/

/-- Every state of a run from the initial state keeps the representation invariant. -/
lemma inv_of_mem_run (ops : List Op) :
    ∀ st ∈ KernelTestMgr.empty :: (runOps latest .empty ops).map Prod.snd, Inv st :=
  inv_respects.holds (fun _ h => h.getTestNames) Inv.empty ops

/-- In every state of a run from the initial state, generated names derive from bound
tests. -/
lemma namesBound_of_mem_run (ops : List Op) :
    ∀ st ∈ KernelTestMgr.empty :: (runOps latest .empty ops).map Prod.snd, NamesBound st :=
  namesBound_respects.holds (fun _ h => h.getTestNames) NamesBound.empty ops

/-- **The registry only grows.** Between any earlier and any later state of a run, whatever
the program calls and the kernel answers: the set names `query_testsets` returns, the sets
the enumeration walks, each set's generated names and each context name's records are only
extended, and a test name bound to an object stays bound. -/
theorem runOps_extends (st : KernelTestMgr) (ops : List Op) :
    (st :: (runOps latest st ops).map Prod.snd).Pairwise Extends :=
  extends_respects.runOps extends_getTestNames st ops

/-- **No object is ever freed, renamed or renumbered.** Between any earlier and any later
state of a run, every object of the heap is still there with its names and ordinals; its
private block, once `get_priv` allocated it, keeps its size, so every `run` of it sends data
of the size its first `get_priv` asked for; and a callback bound to it stays bound. -/
theorem runOps_heapLater (st : KernelTestMgr) (ops : List Op) :
    (st :: (runOps latest st ops).map Prod.snd).Pairwise fun a b => HeapLater a.kts b.kts :=
  heapLater_respects.runOps heapLater_getTestNames st ops

/-- **The representation invariant holds in every state a test program reaches**, from the
library's initial state, whatever it calls in whatever order and whatever the kernel
answers. -/
theorem runOps_inv (ops : List Op) : ∀ s ∈ (runOps latest .empty ops).map Prod.snd, Inv s :=
  fun s hs => inv_of_mem_run ops s (.tail _ hs)

/-- The state a first query answer leaves keeps the invariant. -/
theorem runOps_inv_first_query :
    Inv (queryTestsets defaultKernelVersion 0
      ⟨none, none, some 1, some [.str "s".toList, .test [.str "t".toList]]⟩ .empty).2 :=
  @runOps_inv defaultKernelVersion
    [.query 0 ⟨none, none, some 1, some [.str "s".toList, .test [.str "t".toList]]⟩]
    _ (List.mem_cons_self _ _)

/-- **Every name the enumeration hands out has a kernel test behind it.** In every state a
test program reaches, each name the next `get_test_names` call returns belongs to the set
`get_current_setname` then names, a set the kernel listed, and is the name of a test bound in
that set, or that name followed by `_` and a context; so no name is ever handed out for a set
that a lookup or a wrapper added to the map without the kernel listing it. -/
theorem getTestNames_names_bound (ops : List Op) :
    ∀ st ∈ KernelTestMgr.empty :: (runOps latest .empty ops).map Prod.snd,
      ∀ n ∈ st.getTestNames.1, ∃ s t, st.getTestNames.2.getCurrentSetname = some s ∧
        s ∈ st.setNames ∧ (st.lookup s t).isSome ∧ (n = t ∨ ∃ c, n = t ++ '_' :: c) := by
  intro st hst n hn
  obtain ⟨s, hs, hmem⟩ := mem_getTestNames hn
  obtain ⟨t, ht, hnt⟩ := namesBound_of_mem_run ops st hst s n hmem
  exact ⟨s, t, hs, (inv_of_mem_run ops st hst).mem_setNames_of_lookup ht, ht,
    hnt.imp_right And.left⟩

/-- Test `t` of set `s` on handle `1`, whose context is `c`: the name `t_c` of the first call
derives from `t`. -/
theorem getTestNames_names_bound_t_c :
    let q : QueryAttrs := ⟨none, some [.hid 1, .list [.str "c".toList]], some 1,
      some [.str "s".toList, .test [.hid 1, .str "t".toList]]⟩
    let st := (queryTestsets defaultKernelVersion 0 q .empty).2
    ∃ s t, st.getTestNames.2.getCurrentSetname = some s ∧ s ∈ st.setNames ∧
      (st.lookup s t).isSome ∧ ("t_c".toList = t ∨ ∃ c, "t_c".toList = t ++ '_' :: c) := by
  intro q st
  exact @getTestNames_names_bound defaultKernelVersion [.query 0 q] st (.tail _ (.head _))
    _ (by decide)

/-- **Every name the enumeration hands out resolves.** In every state a test program reaches,
`find_test` on the set `get_current_setname` names and on any name the next `get_test_names`
call returns finds a `KernelTest` within `n + 1` iterations of its scan, `n` the name's
length, bound in that set to a prefix of the name (the name itself, or the name cut at
one of its underscores). -/
theorem getTestNames_names_resolve (ops : List Op) :
    ∀ st ∈ KernelTestMgr.empty :: (runOps latest .empty ops).map Prod.snd,
      ∀ n ∈ st.getTestNames.1, ∀ pctx, ∃ s j p r, st.getTestNames.2.getCurrentSetname = some s ∧
        st.findTest (n.length + 1) s n pctx = some (some p, r) ∧
          st.lookup s (n.take j) = some p ∧ (j = n.length ∨ n[j]? = some '_') := by
  intro st hst n hn pctx
  obtain ⟨s, hs, hmem⟩ := mem_getTestNames hn
  obtain ⟨t, ht, hnt⟩ := namesBound_of_mem_run ops st hst s n hmem
  rcases hnt with rfl | ⟨⟨c, rfl⟩, hmap⟩
  · obtain ⟨p, hp⟩ := Option.isSome_iff_exists.1 ht
    exact ⟨s, n.length, p, _, hs, findTest_of_lookup _ st s n pctx p hp,
      by rw [List.take_of_length_le le_rfl]; exact hp, .inl rfl⟩
  · obtain ⟨j, q, r, h1, h2, h3⟩ := findTest_of_split ht hmap pctx
    exact ⟨s, j, q, r, hs, h1, h2, h3⟩

/-- There `t_c` resolves to `t`, bound in `s` to `t_c` cut at its underscore. -/
theorem getTestNames_names_resolve_t_c :
    let q : QueryAttrs := ⟨none, some [.hid 1, .list [.str "c".toList]], some 1,
      some [.str "s".toList, .test [.hid 1, .str "t".toList]]⟩
    let st := (queryTestsets defaultKernelVersion 0 q .empty).2
    ∃ s j p r, st.getTestNames.2.getCurrentSetname = some s ∧
      st.findTest ("t_c".toList.length + 1) s "t_c".toList [] = some (some p, r) ∧
      st.lookup s ("t_c".toList.take j) = some p ∧
        (j = "t_c".toList.length ∨ "t_c".toList[j]? = some '_') := by
  intro q st
  exact @getTestNames_names_resolve defaultKernelVersion [.query 0 q] st (.tail _ (.head _))
    _ (by decide) []

/-- **Every name the enumeration hands out resolves for the rest of the run.** Between any
earlier and any later state of a run from the initial `KernelTestMgr`, whatever the program
calls and the kernel answers in between, `find_test` in the later state, on the set
`get_current_setname` named and on any name a `get_test_names` call in the earlier state
returns, finds a test within `n + 1` iterations of its scan, `n` the name's length: the
names a test harness collects stay runnable. -/
theorem getTestNames_names_resolve_later (ops : List Op) :
    (KernelTestMgr.empty :: (runOps latest .empty ops).map Prod.snd).Pairwise fun a b =>
      ∀ n ∈ a.getTestNames.1, ∀ pctx, ∃ s p r, a.getTestNames.2.getCurrentSetname = some s ∧
        b.findTest (n.length + 1) s n pctx = some (some p, r) := by
  refine List.Pairwise.imp_of_mem ?_ (extends_respects.runOps extends_getTestNames .empty ops)
  intro a b ha _ hab n hn pctx
  obtain ⟨s, hs, hmem⟩ := mem_getTestNames hn
  obtain ⟨t, ht, hnt⟩ := namesBound_of_mem_run ops a ha s n hmem
  have hbt := hab.bound s t ht
  rcases hnt with rfl | ⟨⟨c, rfl⟩, hmap⟩
  · obtain ⟨p, hp⟩ := Option.isSome_iff_exists.1 hbt
    exact ⟨s, p, _, hs, findTest_of_lookup _ b s n pctx p hp⟩
  · obtain ⟨j, q, r, h1, -, -⟩ := findTest_of_split hbt (hab.size_handleToCtxvec hmap) pctx
    exact ⟨s, q, r, hs, h1⟩

/-- `t_c`, handed out after a first answer, still resolves after a second answer that adds a
test `t_c_d` to a new set. -/
theorem getTestNames_names_resolve_later_t_c :
    let q : QueryAttrs := ⟨none, some [.hid 1, .list [.str "c".toList]], some 1,
      some [.str "s".toList, .test [.hid 1, .str "t".toList]]⟩
    let q' : QueryAttrs := ⟨none, none, some 1, some [.str "r".toList, .test [.str "t_c_d".toList]]⟩
    let st := (queryTestsets defaultKernelVersion 0 q .empty).2
    ∃ s p r, st.getTestNames.2.getCurrentSetname = some s ∧
      (queryTestsets defaultKernelVersion 0 q' st).2.findTest ("t_c".toList.length + 1) s
        "t_c".toList [] = some (some p, r) := by
  intro q q' st
  have h := @getTestNames_names_resolve_later defaultKernelVersion [.query 0 q, .query 0 q']
  exact (List.pairwise_cons.1 (List.pairwise_cons.1 h).2).1 _ (List.mem_cons_self _ _)
    "t_c".toList (by decide) []

/-! ### The library runs only what the kernel announced -/

/-- A step rebinds only the tests it announces: `add_wrapper`, `find_test`, `get_test_names`
and `get_priv` rebind none, and a query answer only those it lists. -/
lemma Op.lookup_apply {op : Op} {st st' : KernelTestMgr} (h : op.apply latest st = some st')
    {s t : List Char} (hna : (s, t) ∉ op.announced) : st'.lookup s t = st.lookup s t := by
  cases op with
  | query ack response =>
    cases h
    unfold queryTestsets
    rw [Op.announced] at hna
    split
    · rfl
    · rw [if_neg ‹_›] at hna; exact lookup_parseQuery latest response st s t hna
  | addWrapper => cases h; exact lookup_addWrapper ..
  | findTest fuel s' n pctx =>
    obtain ⟨r, hr, rfl⟩ := Option.map_eq_some'.1 h
    obtain ⟨reads, he⟩ := findTest_probes fuel st s' n pctx r hr
    rw [he, lookup_probeAll]
  | getTestNames =>
    cases h
    obtain ⟨c, hc⟩ := getTestNames_eq st
    rw [hc]; rfl
  | getPriv => cases h; rfl
  | receive msg =>
    cases h
    unfold parseCb
    rw [Op.announced] at hna
    split
    · next heq => rw [if_pos heq] at hna; exact lookup_parseQuery latest msg.attrs st s t hna
    all_goals rfl

/-- A run leaves every binding that no step of it announces as it was. -/
lemma runOps_lookup (ops : List Op) :
    ∀ st, ∀ st' ∈ (runOps latest st ops).map Prod.snd, ∀ s t,
      (∀ op ∈ ops, (s, t) ∉ op.announced) → st'.lookup s t = st.lookup s t := by
  induction ops with
  | nil => intro st st' h; cases h
  | cons op ops ih =>
    intro st st' hst' s t hna
    rw [runOps_cons] at hst'
    cases h : op.apply latest st with
    | none => simp only [h, List.map_nil, List.not_mem_nil] at hst'
    | some st₁ =>
      simp only [h, List.map_cons, List.mem_cons] at hst'
      have hstep := Op.lookup_apply h (hna op (List.mem_cons_self op ops))
      rcases hst' with rfl | hst'
      · exact hstep
      · exact (ih st₁ st' hst' s t fun op' h' => hna op' (List.mem_cons_of_mem op h')).trans hstep

/-- **The library asks the kernel to run only tests the kernel announced.** In every state a
test program reaches from the initial `KernelTestMgr`, whatever it calls in whatever order and
whatever the kernel answers, a test `find_test` returns is an object whose run request, when
`run_test` sends one, names a set and a test that a query answer of the run listed: neither
`add_wrapper` for a test the kernel does not have, nor the entries `find_test`'s reads insert,
ever yields a test to run. -/
theorem runTest_runs_announced (ops : List Op) :
    ∀ st ∈ KernelTestMgr.empty :: (runOps latest .empty ops).map Prod.snd,
      ∀ fuel s n pctx p ctx st', n.length < npos →
        st.findTest fuel s n pctx = some (some p, ctx, st') →
        ∃ kt ∈ st'.kts[p]?, ∀ v sn tn c d,
          runTest latest kt ctx = .request (.run v sn tn c d) →
            ∃ op ∈ ops, (sn, tn) ∈ op.announced := by
  intro st hst fuel s n pctx p ctx st' hlen hf
  obtain ⟨t, hl, -⟩ := findTest_sound fuel st s n pctx _ hlen hf rfl
  obtain ⟨reads, he⟩ := findTest_probes fuel st s n pctx _ hf
  obtain ⟨kt, hkt, rfl, rfl⟩ := (inv_of_mem_run ops st hst).owns_of_lookup hl
  refine ⟨kt, by rw [show st' = _ from he, kts_probeAll]; exact hkt, fun v sn tn c d hr => ?_⟩
  have hnames : sn = kt.setname ∧ tn = kt.testname := by
    unfold runTest runRequest at hr
    split at hr
    · cases hr
    · cases hr; exact ⟨rfl, rfl⟩
  obtain ⟨rfl, rfl⟩ := hnames
  rcases List.mem_cons.1 hst with rfl | hst
  · simp at hl
  · by_contra hno
    push_neg at hno
    rw [runOps_lookup ops _ st hst _ _ hno] at hl
    simp at hl

/-- A first answer announcing test `t` of set `s`: `find_test` returns its object, whose run
request names a pair that answer announced. -/
theorem runTest_runs_announced_s_t :
    let q : QueryAttrs := ⟨none, none, some 1, some [.str "s".toList, .test [.str "t".toList]]⟩
    let st := (queryTestsets defaultKernelVersion 0 q .empty).2
    ∃ kt ∈ (st.probe "s".toList "t".toList).2.kts[0]?, ∀ v sn tn c d,
      runTest defaultKernelVersion kt [] = .request (.run v sn tn c d) →
        ∃ op ∈ [Op.query 0 q], (sn, tn) ∈ op.announced := by
  intro q st
  exact @runTest_runs_announced defaultKernelVersion [.query 0 q] st (.tail _ (.head _)) 1 _ _ []
    0 [] _ (by decide) (findTest_of_lookup 1 st _ _ [] 0 (by decide))

/-- **A bound wrapper keeps its test from the kernel until the kernel announces the test
again.** From any state in which test `t` of set `s` is bound to an object with a callback,
in every state of a run in which no query answer the library reads lists `t` in `s`, `t`
stays bound to that object and the object keeps a callback, so `run_test` on it calls a
callback and never sends the kernel a run request. -/
theorem runTest_keeps_wrapper (st : KernelTestMgr) (ops : List Op) (s t : List Char) (p : Ptr)
    (hl : st.lookup s t = some p) (hcb : ∃ kt ∈ st.kts[p]?, kt.userTest ≠ none)
    (hna : ∀ op ∈ ops, (s, t) ∉ op.announced) :
    ∀ st' ∈ (runOps latest st ops).map Prod.snd, st'.lookup s t = some p ∧
      ∃ kt ∈ st'.kts[p]?, ∀ ctx, ∃ cb, runTest latest kt ctx = .callback cb := by
  intro st' hst'
  obtain ⟨kt, hkt, hu⟩ := hcb
  obtain ⟨kt', hkt', hlater⟩ := (List.pairwise_cons.1
    (heapLater_respects.runOps heapLater_getTestNames st ops)).1 st' hst' p kt hkt
  refine ⟨(runOps_lookup ops st st' hst' s t hna).trans hl, kt', hkt', fun ctx => ?_⟩
  obtain ⟨cb, hcb⟩ := Option.ne_none_iff_exists'.1 (hlater.test hu)
  exact ⟨cb, by simp [runTest, hcb]⟩

/-- Test `t` of set `s` with a wrapper bound after the query; an enumeration call and an
answer listing `t` in another set keep it bound to its object, run through a callback. -/
theorem runTest_keeps_wrapper_t :
    let q : QueryAttrs := ⟨none, none, some 1, some [.str "s".toList, .test [.str "t".toList]]⟩
    let st := (queryTestsets defaultKernelVersion 0 q .empty).2.addWrapper "s".toList "t".toList 7
    let ops := [Op.getTestNames,
      .query 0 ⟨none, none, some 1, some [.str "r".toList, .test [.str "t".toList]]⟩]
    ∀ st' ∈ (runOps defaultKernelVersion st ops).map Prod.snd,
      st'.lookup "s".toList "t".toList = some 0 ∧
        ∃ kt ∈ st'.kts[0]?, ∀ ctx, ∃ cb, runTest defaultKernelVersion kt ctx = .callback cb := by
  intro q st ops
  exact runTest_keeps_wrapper st ops "s".toList "t".toList 0 (by decide) ⟨_, rfl, by decide⟩
    (by decide)

/-! ### What a run never undoes -/

/-- **A name that resolves keeps resolving.** Between any earlier and any later state of a
run, whatever the program calls and the kernel answers: where `find_test` returned a test for
a name of a set, it returns one for that name in the later state too, within `n + 1`
iterations of its scan, `n` the name's length, so it neither returns NULL nor loops. -/
theorem findTest_stays_resolved (st : KernelTestMgr) (ops : List Op) :
    (st :: (runOps latest st ops).map Prod.snd).Pairwise fun a b =>
      ∀ fuel s n pctx p r, n.length < npos → a.findTest fuel s n pctx = some (some p, r) →
        ∀ pctx', ∃ q r', b.findTest (n.length + 1) s n pctx' = some (some q, r') :=
  (extends_respects.runOps extends_getTestNames st ops).imp fun h => by
    intro _ _ _ _ _ _ hlen hf
    exact h.findTest_some hlen hf

/-- Test `t` on handle `1` with context `c`, and a second answer binding `t_c` on its own:
`t_c` resolved to `t` before and still resolves after. -/
theorem findTest_stays_resolved_t_c :
    let st := (queryTestsets defaultKernelVersion 0 ⟨none, some [.hid 1, .list [.str "c".toList]],
      some 1, some [.str "s".toList, .test [.hid 1, .str "t".toList]]⟩ .empty).2
    let q : QueryAttrs := ⟨none, none, some 1, some [.str "s".toList, .test [.str "t_c".toList]]⟩
    (∃ p r, st.findTest 3 "s".toList "t_c".toList [] = some (some p, r)) ∧
    ∃ p r, (queryTestsets defaultKernelVersion 0 q st).2.findTest ("t_c".toList.length + 1)
      "s".toList "t_c".toList [] = some (some p, r) := by
  intro st q
  obtain ⟨r, hr⟩ : ∃ r, st.findTest 3 "s".toList "t_c".toList [] = some (some 0, r) := ⟨_, rfl⟩
  exact ⟨⟨0, r, hr⟩, List.pairwise_pair.1
    (@findTest_stays_resolved defaultKernelVersion st [.query 0 q]) 3 _ _ [] 0 r (by decide) hr []⟩

/-- **Context configuration never recovers.** Between any earlier and any later state of a
run, whatever the program calls and the kernel answers: where `configure_context` configured a
record, it configures the same record again, or the name has gained a second record and it
reports more than one context; and once it reports more than one context, it always does, so
only `configure_context_for_test` can configure that name's records from then on. -/
theorem configureContext_never_recovers (st : KernelTestMgr) (ops : List Op)
    (configure : ConfigurableContext → Int) (context : List Char) (typeId : Nat) :
    let more := CfgOutcome.failed (" - More than one context named ".toList ++ context ++
      " - use KTF_CONTEXT_CFG_FOR_TEST to uniquely identify context.".toList)
    (st :: (runOps latest st ops).map Prod.snd).Pairwise fun a b =>
      (∀ c err, a.configureContext configure context typeId = .configured c err →
        b.configureContext configure context typeId = .configured c err ∨
          b.configureContext configure context typeId = more) ∧
      (a.configureContext configure context typeId = more →
        b.configureContext configure context typeId = more) := by
  intro more
  refine (extends_respects.runOps extends_getTestNames st ops).imp fun {a b} h => ?_
  obtain ⟨rest, hr⟩ := h.contexts context
  have hmore := configureContext_eq_more configure b context typeId
  refine ⟨fun c err hc => ?_, fun hd => hmore.2 ?_⟩
  · obtain ⟨ha, hty, rfl⟩ := (configureContext_configured configure a context typeId c err).1 hc
    rw [ha] at hr
    cases rest with
    | nil =>
      exact .inl ((configureContext_configured configure b context typeId c _).2
        ⟨hr.symm, hty, rfl⟩)
    | cons x xs => exact .inr (hmore.2 (by simp [← hr]))
  · calc 2 ≤ (a.findContexts context).length :=
          (configureContext_eq_more configure a context typeId).1 hd
      _ ≤ (b.findContexts context).length := (h.contexts context).length_le

/-- Context `c` of type `7` on handle `1` configures; once a second answer declares `c` on
handle `2` too, it reports more than one context. -/
theorem configureContext_duplicate_is_final :
    let q (hid : Nat) : QueryAttrs :=
      ⟨none, some [.hid hid, .list [.str "c".toList, .num 7, .stat 0]], some 0, some []⟩
    let st := (queryTestsets defaultKernelVersion 0 (q 1) .empty).2
    let st' := (queryTestsets defaultKernelVersion 0 (q 2) st).2
    st.configureContext (fun _ => 0) "c".toList 7 = .configured ⟨"c".toList, 1, 7, 0⟩ 0 ∧
    st'.configureContext (fun _ => 0) "c".toList 7 =
      .failed (" - More than one context named ".toList ++ "c".toList ++
        " - use KTF_CONTEXT_CFG_FOR_TEST to uniquely identify context.".toList) := by
  intro q st st'
  have h1 : st.configureContext (fun _ => 0) "c".toList 7 = .configured ⟨"c".toList, 1, 7, 0⟩ 0 :=
    by decide
  exact ⟨h1, ((List.pairwise_pair.1 (@configureContext_never_recovers defaultKernelVersion st
    [.query 0 (q 2)] (fun _ => 0) "c".toList 7)).1 _ _ h1).resolve_left (by decide)⟩

end KernelTestMgr

end KtfInt
