import KtfInt.Netlink.Query
import KtfInt.Registry.Invariant

/-!
The requests the library sends to the kernel, and the test-program entry points around them:
`query_testsets`, which asks for the inventory and hands the answer to `parse_query`;
`run_test` and `run`, which run a test through its wrapper callback or in the kernel;
`set_coverage`; and `ConfigurableContext::Configure`.

Each request carries its type and the library's version `KTF_VERSION_LATEST`. Sending, the
acknowledgement and the reception of the answer are the socket's business: the model takes
the acknowledgement and the answer as arguments.

* `Inv.parseQuery`: a query response keeps the registry's representation invariant;
* `queryTestsets_nodup`: **`query_testsets` names each set once**;
* `findTest_resolves_own_test`: **a test `find_test` resolves is a test of the set, whose
  name, with the context returned, spells the name asked for**, so `run_test` on it requests
  that set, test and context.
-/

namespace KtfInt

/-- A request to the kernel, by its type `KTF_CT_*`, with the attributes it carries. -/
inductive Request where
  /-- `KTF_CT_QUERY` with `VERSION`. -/
  | query (version : Version)
  /-- `KTF_CT_RUN` with `VERSION`, `SNAM`, `TNAM`, a `STR` context unless it is empty, and
  `DATA` of `user_priv_sz` bytes when the test has private data. -/
  | run (version : Version) (setname testname : List Char) (context : Option (List Char))
      (data : Option Nat)
  /-- `KTF_CT_COV_ENABLE` or `KTF_CT_COV_DISABLE`, with `COVOPT`, `VERSION` and `MOD`. -/
  | coverage (enabled : Bool) (opts : Nat) (version : Version) (module : List Char)
  /-- `KTF_CT_CTX_CFG` with `VERSION`, `STR` (the context), `HID` and `DATA` of `data_sz`
  bytes. -/
  | ctxCfg (version : Version) (name : List Char) (handleId : Nat) (dataSz : Nat)
  deriving DecidableEq, Repr

/-- What `run_test(kt, ctx)` does: call the wrapper callback, or run the test in the
kernel. -/
inductive RunAction where
  | callback (cb : Nat)
  | request (r : Request)
  deriving DecidableEq, Repr

section Requests

variable (latest : Version)

/-- The request of `query_testsets()`. -/
def queryRequest : Request := .query latest

/-- The request of `run(kt, context)`. -/
def runRequest (kt : KernelTest) (context : List Char) : Request :=
  .run latest kt.setname kt.testname (if context = [] then none else some context)
    (kt.userPriv.map fun _ => kt.userPrivSz)

/-- The request of `set_coverage(module, opts, enabled)`. -/
def setCoverageRequest (module : List Char) (opts : Nat) (enabled : Bool) : Request :=
  .coverage enabled opts latest module

/-- The request of `ConfigurableContext::Configure(data, data_sz)` on record `c`. -/
def configureRequest (c : ConfigurableContext) (dataSz : Nat) : Request :=
  .ctxCfg latest c.name c.handleId dataSz

/-- `run_test(kt, ctx)`: the wrapper callback if one is bound, the kernel otherwise. -/
def runTest (kt : KernelTest) (ctx : List Char) : RunAction :=
  match kt.userTest with
  | some cb => .callback cb
  | none => .request (runRequest latest kt ctx)

/-- `query_testsets()` against a kernel that acknowledges the request with `ack` and answers
with `response`: a failed acknowledgement returns the set names as they are, otherwise the
answer goes through `parse_query` first. -/
def queryTestsets (ack : Int) (response : QueryAttrs) (st : KernelTestMgr) :
    List (List Char) × KernelTestMgr :=
  if ack < 0 then (st.setNames, st)
  else
    let st := (parseQuery latest response st).2
    (st.setNames, st)

end Requests

namespace KernelTestMgr

/-! ### Query responses keep the invariant -/

/-- A query response keeps the registry's representation invariant: it acts through the
registry's mutations, which keep it. -/
lemma Inv.parseQuery {st : KernelTestMgr} (h : Inv st) (latest : Version) (q : QueryAttrs) :
    Inv (KtfInt.parseQuery latest q st).2 := by
  obtain ⟨ms, e⟩ := parseQuery_mutations latest q st
  exact e ▸ h.runMutations ms

/-- **`query_testsets` names each set once**, whatever the kernel answers, from every
registry that keeps the invariant. -/
theorem queryTestsets_nodup {st : KernelTestMgr} (h : Inv st) (latest : Version) (ack : Int)
    (response : QueryAttrs) : (queryTestsets latest ack response st).1.Nodup := by
  unfold queryTestsets
  split
  · exact h.nodup
  · exact (h.parseQuery latest response).nodup

/-- A response listing set `s` twice, with test `t` in it: `s` is named once. -/
theorem queryTestsets_nodup_repeated_set :
    (queryTestsets defaultKernelVersion 0
      ⟨none, none, some 2, some [.str "s".toList, .test [.str "t".toList], .str "s".toList]⟩
      .empty).1.Nodup ∧
    (queryTestsets defaultKernelVersion 0
      ⟨none, none, some 2, some [.str "s".toList, .test [.str "t".toList], .str "s".toList]⟩
      .empty).1 = ["s".toList] :=
  ⟨queryTestsets_nodup Inv.empty _ _ _, by decide⟩

/-! ### Running a resolved name -/

/-- **A resolved name runs the test it spells.** In a registry that keeps the invariant, when
`find_test` resolves name `n` of set `s` to an object and a context, the object is a test of
`s` named `n` with the empty context, or named by `n` cut at an underscore with the rest of
`n` as the context. Without a bound callback, `run_test` sends the kernel a run request for
exactly that set, test and context. -/
theorem findTest_resolves_own_test {st : KernelTestMgr} (h : Inv st) (latest : Version)
    (fuel : Nat) (s n pctx : List Char) (hlen : n.length < npos) (p : Ptr)
    (ctx : List Char) (st' : KernelTestMgr) (hf : st.findTest fuel s n pctx = some (some p, ctx, st')) :
    ∃ kt ∈ st'.kts[p]?, kt.setname = s ∧
      (n = kt.testname ∧ ctx = [] ∨ n = kt.testname ++ '_' :: ctx) ∧
      (kt.userTest = none → runTest latest kt ctx = .request (runRequest latest kt ctx)) := by
  obtain ⟨t, hl, hn⟩ := findTest_sound fuel st s n pctx _ hlen hf rfl
  obtain ⟨reads, he⟩ := findTest_probes fuel st s n pctx _ hf
  obtain ⟨kt, hkt, h1, h2⟩ := h.owns_of_lookup hl
  refine ⟨kt, ?_, h1, h2 ▸ hn, fun hu => by simp [runTest, hu]⟩
  simp only at he
  rw [he, kts_probeAll]
  exact hkt

/-- Test `t` on handle `1` with context `c`: `t_c` resolves to `t`'s object, with context
`c`. -/
theorem findTest_resolves_own_test_t_c :
    let st := runMutations .empty [.addCset 1 ["c".toList], .addTest "s".toList "t".toList 1]
    let st' := ((st.findTest 2 "s".toList "t_c".toList []).getD (none, [], st)).2.2
    ∃ kt ∈ st'.kts[0]?, kt.setname = "s".toList ∧
      ("t_c".toList = kt.testname ∧ "c".toList = [] ∨
        "t_c".toList = kt.testname ++ '_' :: "c".toList) ∧
      (kt.userTest = none → runTest defaultKernelVersion kt "c".toList =
        .request (runRequest defaultKernelVersion kt "c".toList)) :=
  findTest_resolves_own_test
    (Inv.empty.runMutations [.addCset 1 ["c".toList], .addTest "s".toList "t".toList 1])
    defaultKernelVersion 2 _ _ [] (by decide) 0 _ _ rfl

end KernelTestMgr

end KtfInt
