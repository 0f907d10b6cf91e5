import KtfInt.Netlink.Query
import KtfInt.Registry.Invariant

/-!
Context configuration from a test program: `configure_context`, which configures the one
context of a given name, and `configure_context_for_test`, which configures the context a
test was generated for, selected by the handle of the test's `KernelTest`.

Each ends either by sending `ConfigurableContext::Configure` for one record, whose
acknowledgement is then asserted to be `0`, or at a failed gtest assertion, with the text
streamed into it. The kernel's acknowledgement is a parameter, `configure`.

`configure_context_for_test` reads `kt->handle_id`, a member the `KernelTest` constructor
never assigns: each object holds its own indeterminate value there, and the model takes the
value the read of object `p` yields as a parameter, `unset p`.

* `configureContext_configured`: `configure_context` configures the one record of its name,
  of the requested type;
* `configureContext_eq_more`: it reports more than one context exactly when the name has two
  records or more;
* `Reachable.handleId_eq_none`: no `KernelTest` of a reachable registry holds a handle id, so
  `configure_context_for_test` selects by the value the unset member of the object it found
  holds (`configureContextForTest_of_reachable`);
* `configureContextForTest_reads_unset_handle`: two tests of one set on two handles that share
  a context name; each call configures its own handle's record exactly when the unset member
  of its object happens to hold that handle, and with zero-filled objects both fail.
-/

namespace KtfInt

/-- How a configuration call ends: `configured c err` when `Configure` was sent for record `c`
and the kernel acknowledged with `err` (the final `ASSERT_EQ(..., 0)` passes exactly when
`err = 0`); `failed msg` when an assertion failed before, with the text streamed into it. -/
inductive CfgOutcome where
  | configured (c : ConfigurableContext) (err : Int)
  | failed (msg : List Char)
  deriving DecidableEq, Repr

namespace KernelTestMgr

variable (configure : ConfigurableContext → Int)

/-- `configure_context(context, type_id, data, data_sz)`: the records named `context` must be
exactly one, of type `type_id`. -/
def configureContext (st : KernelTestMgr) (context : List Char) (typeId : Nat) : CfgOutcome :=
  match st.findContexts context with
  | [] => .failed (" - no context found named ".toList ++ context)
  | [c] => if typeId = c.typeId then .configured c (configure c) else .failed []
  | _ :: _ :: _ => .failed (" - More than one context named ".toList ++ context ++
      " - use KTF_CONTEXT_CFG_FOR_TEST to uniquely identify context.".toList)

/-- The checks of `configure_context_for_test` once its test is found, with the handle id read
from the test and the records of the context its name carries: the handle must be non-zero,
and the first record of that handle is configured if its type is `type_id`. -/
def configureFound (setname testname : List Char) (typeId handleId : Nat)
    (ct : List ConfigurableContext) : CfgOutcome :=
  if handleId = 0 then
    .failed (" test ".toList ++ setname ++ '.' :: testname ++ " does not have a context".toList)
  else match ct.find? (·.handleId = handleId) with
    | some c => if typeId = c.typeId then .configured c (configure c) else .failed []
    | none => .failed (" unconfigurable context found for test ".toList ++ setname ++
        '.' :: testname ++ "?".toList)

/-- `configure_context_for_test(setname, testname, type_id, data, data_sz)` with `find_test` on
`fuel` iterations (`none` when it does not return), and `unset p` the value the read of the
never-assigned `kt->handle_id` of object `p` yields. The outcome and the manager after
`find_test`'s `operator[]` reads. -/
def configureContextForTest (fuel : Nat) (unset : Ptr → Nat) (st : KernelTestMgr)
    (setname testname : List Char) (typeId : Nat) : Option (CfgOutcome × KernelTestMgr) :=
  match st.findTest fuel setname testname [] with
  | none => none
  | some (none, _, st') =>
    some (.failed (" Could not find test ".toList ++ setname ++ '.' :: testname), st')
  | some (some p, context, st') =>
    let handleId := (st'.kts[p]?.bind (·.handleId)).getD (unset p)
    some (configureFound configure setname testname typeId handleId (st'.findContexts context),
      st')

/-! ### `configure_context` -/

/-- `configure_context` configures only the one record of its name, and only when it has the
requested type. -/
lemma configureContext_configured (st : KernelTestMgr) (context : List Char) (typeId : Nat)
    (c : ConfigurableContext) (err : Int) :
    st.configureContext configure context typeId = .configured c err ↔
      st.findContexts context = [c] ∧ c.typeId = typeId ∧ err = configure c := by
  unfold configureContext
  split
  next _ h => simp [h]
  next _ c' h =>
    by_cases ht : typeId = c'.typeId
    · simp only [ht, if_true, CfgOutcome.configured.injEq, h, List.cons.injEq, and_true]
      constructor
      · rintro ⟨rfl, rfl⟩; exact ⟨rfl, rfl, rfl⟩
      · rintro ⟨rfl, -, rfl⟩; exact ⟨rfl, rfl⟩
    · simp only [ht, if_false, h, List.cons.injEq, and_true, reduceCtorEq, false_iff]
      rintro ⟨rfl, h', -⟩; exact ht h'.symm
  next _ _ _ _ h => simp [h]

/-- `configure_context` reports more than one context exactly when its name has two records or
more, whatever the requested type. -/
lemma configureContext_eq_more (st : KernelTestMgr) (context : List Char) (typeId : Nat) :
    st.configureContext configure context typeId =
      .failed (" - More than one context named ".toList ++ context ++
        " - use KTF_CONTEXT_CFG_FOR_TEST to uniquely identify context.".toList) ↔
      2 ≤ (st.findContexts context).length := by
  unfold configureContext
  split
  next _ h =>
    have hn : " - no context found named ".toList =
      ' ' :: '-' :: ' ' :: 'n' :: "o context found named ".toList := rfl
    have hm : " - More than one context named ".toList =
      ' ' :: '-' :: ' ' :: 'M' :: "ore than one context named ".toList := rfl
    simp [h, hn, hm]
  next _ _ h => split <;> simp [h]
  next _ _ _ _ h => simp [h]

/-! ### `configure_context_for_test` -/

/-- The checks configure only a record of the handle read from the test, of the requested
type. -/
lemma configureFound_configured {s n : List Char} {ty h : Nat} {ct : List ConfigurableContext}
    {c : ConfigurableContext} {err : Int}
    (hc : configureFound configure s n ty h ct = .configured c err) :
    c ∈ ct ∧ c.handleId = h ∧ c.typeId = ty := by
  unfold configureFound at hc
  split at hc
  · cases hc
  · split at hc
    · rename_i c' hfind
      split at hc
      · cases hc
        exact ⟨List.mem_of_find?_eq_some hfind, by simpa using List.find?_some hfind, by simp_all⟩
      · cases hc
    · cases hc

/-- The checks configure the first record of handle `h`, of the requested type, exactly when
the handle read from the test is `h`. -/
lemma configureFound_eq_configured_iff {s n : List Char} {ty h u : Nat}
    {ct : List ConfigurableContext} {c : ConfigurableContext} (h0 : h ≠ 0)
    (hfind : ct.find? (·.handleId = h) = some c) (hty : c.typeId = ty) :
    configureFound configure s n ty u ct = .configured c (configure c) ↔ u = h := by
  constructor
  · intro hc
    have hcu := (configureFound_configured configure hc).2.1
    have hch : c.handleId = h := by simpa using List.find?_some hfind
    exact hcu.symm.trans hch
  · rintro rfl
    simp [configureFound, h0, hfind, hty]

/-! ### No test object carries a handle -/

lemma forall_mem_modify {α : Type} {P : α → Prop} {f : α → α} (hf : ∀ a, P a → P (f a))
    {l : List α} (hl : ∀ a ∈ l, P a) (n : Nat) : ∀ a ∈ l.modify f n, P a := by
  induction l generalizing n with
  | nil => simp
  | cons b l ih =>
    rw [List.forall_mem_cons] at hl
    cases n with
    | zero => simpa using ⟨hf b hl.1, hl.2⟩
    | succ n => simpa using ⟨hl.1, ih hl.2 n⟩

/-- No `KernelTest` of a reachable registry holds a handle id: the constructor does not store
its argument, and nothing else writes the member. -/
lemma Reachable.handleId_eq_none {st : KernelTestMgr} (h : Reachable st) :
    ∀ kt ∈ st.kts, kt.handleId = none := by
  induction h with
  | empty => simp [KernelTestMgr.empty]
  | mutate m _ ih =>
    cases m with
    | addTest s t hid =>
      intro kt hkt
      simp only [Mutation.apply, addTest, kts_findAddTest, List.mem_append,
        List.mem_singleton] at hkt
      rcases hkt with hkt | rfl
      · exact ih kt hkt
      · rfl
    | addWrapper s t cb =>
      simp only [Mutation.apply, kts_addWrapper]
      split
      · refine forall_mem_modify ?_ ih _
        exact fun _ h => h
      · exact ih
    | findAddSet s => simpa [Mutation.apply] using ih
    | addCset => exact ih
    | addConfigurableContext => exact ih
  | getTestNames _ ih =>
    obtain ⟨c, hc⟩ := getTestNames_eq _
    rw [hc]; exact ih
  | findTest fuel s n pctx r _ hr ih =>
    obtain ⟨reads, he⟩ := findTest_probes fuel _ s n pctx r hr
    rw [he, kts_probeAll]; exact ih

/-- In a reachable registry, once `find_test` resolves a name to object `p` and a context, the
call checks the value the unset member of `p` holds against the records of that context. -/
lemma configureContextForTest_of_reachable {st : KernelTestMgr} (h : Reachable st) (fuel : Nat)
    (unset : Ptr → Nat) (s n : List Char) (typeId : Nat) {p : Ptr} {context : List Char}
    {st' : KernelTestMgr} (hf : st.findTest fuel s n [] = some (some p, context, st')) :
    st.configureContextForTest configure fuel unset s n typeId =
      some (configureFound configure s n typeId (unset p) (st.findContexts context), st') := by
  obtain ⟨reads, he⟩ := findTest_probes fuel st s n [] _ hf
  have hk := (h.findTest fuel s n [] _ hf).handleId_eq_none
  have hctx : st'.findContexts context = st.findContexts context := by
    simp only [findContexts, show st' = _ from he, cfgContexts_probeAll]
  cases hkt : st'.kts[p]? with
  | none => simp [configureContextForTest, hf, hkt, hctx]
  | some kt =>
    simp [configureContextForTest, hf, hkt, hctx, hk kt (List.mem_iff_getElem?.mpr ⟨p, hkt⟩)]

/-- Two handles `1` and `2` that both have a context `c` needing configuration, and a set `s`
with a test on each, as a query response registers them: `find_test` resolves `t1_c` and
`t2_c` to their own tests, objects `0` and `1`, with context `c`. Yet each call configures
the record of its own handle exactly when the unset `handle_id` member of its object happens
to hold that handle; when the two members hold one value, the calls cannot both configure
their own record; and with zero-filled objects both fail the "does not have a context"
assertion. -/
theorem configureContextForTest_reads_unset_handle (latest : Version) (unset : Ptr → Nat) :
    let q : QueryAttrs := ⟨some latest,
      some [.hid 1, .list [.str "c".toList, .num 0, .stat 0],
        .hid 2, .list [.str "c".toList, .num 0, .stat 0]],
      some 1, some [.str "s".toList, .test [.hid 1, .str "t1".toList, .hid 2, .str "t2".toList]]⟩
    let st := (parseQuery latest q .empty).2
    let c1 : ConfigurableContext := ⟨"c".toList, 1, 0, 0⟩
    let c2 : ConfigurableContext := ⟨"c".toList, 2, 0, 0⟩
    let own1 := (st.configureContextForTest configure 5 unset "s".toList "t1_c".toList 0).map
      Prod.fst = some (.configured c1 (configure c1))
    let own2 := (st.configureContextForTest configure 5 unset "s".toList "t2_c".toList 0).map
      Prod.fst = some (.configured c2 (configure c2))
    (st.testset "s".toList).testNames = ["t1_c".toList, "t2_c".toList] ∧
    st.findContexts "c".toList = [c1, c2] ∧
    (st.findTest 5 "s".toList "t1_c".toList []).map (fun r => (r.1, r.2.1)) =
      some (some 0, "c".toList) ∧
    (st.findTest 5 "s".toList "t2_c".toList []).map (fun r => (r.1, r.2.1)) =
      some (some 1, "c".toList) ∧
    (own1 ↔ unset 0 = 1) ∧ (own2 ↔ unset 1 = 2) ∧ (unset 0 = unset 1 → ¬own1 ∨ ¬own2) ∧
    (st.configureContextForTest configure 5 (fun _ => 0) "s".toList "t1_c".toList 0).map
      Prod.fst = some (.failed " test s.t1_c does not have a context".toList) := by
  intro q st c1 c2 own1 own2
  have hst : st = (parseInventory q.hlist q.num q.list .empty).2 := by
    simp only [st, @parseQuery_of_compatible latest q (isCompatible_self latest)]
  have hreach : Reachable st := by
    obtain ⟨ms, hms⟩ := parseQuery_mutations latest q .empty
    simp only [st, hms]
    exact Reachable.empty.runMutations ms
  have hctx : st.findContexts "c".toList = [c1, c2] := by simp only [hst, q]; decide
  have h1 : (st.findTest 5 "s".toList "t1_c".toList []).map (fun r => (r.1, r.2.1)) =
      some (some 0, "c".toList) := by simp only [hst, q]; decide
  have h2 : (st.findTest 5 "s".toList "t2_c".toList []).map (fun r => (r.1, r.2.1)) =
      some (some 1, "c".toList) := by simp only [hst, q]; decide
  -- each call checks the value its own object's unset member holds
  have hcall : ∀ (u : Ptr → Nat) (n : List Char) (p : Ptr),
      (st.findTest 5 "s".toList n []).map (fun r => (r.1, r.2.1)) = some (some p, "c".toList) →
      (st.configureContextForTest configure 5 u "s".toList n 0).map Prod.fst =
        some (configureFound configure "s".toList n 0 (u p) [c1, c2]) := by
    intro u n p hn
    obtain ⟨⟨o, ctx, st'⟩, hr, he⟩ := Option.map_eq_some'.1 hn
    obtain ⟨rfl, rfl⟩ := Prod.mk.inj he
    rw [configureContextForTest_of_reachable configure hreach 5 u _ _ 0 hr, hctx]
    rfl
  have hown1 : own1 ↔ unset 0 = 1 := by
    simp only [own1, hcall unset _ 0 h1, Option.some.injEq]
    exact configureFound_eq_configured_iff configure (by decide) (by decide) rfl
  have hown2 : own2 ↔ unset 1 = 2 := by
    simp only [own2, hcall unset _ 1 h2, Option.some.injEq]
    exact configureFound_eq_configured_iff configure (by decide) (by decide) rfl
  refine ⟨by simp only [hst, q]; decide, hctx, h1, h2, hown1, hown2, fun he => ?_, ?_⟩
  · -- both would need the one value to be `1` and `2`
    refine not_and_or.mp fun ⟨e1, e2⟩ => ?_
    have := hown1.1 e1
    have := hown2.1 e2
    omega
  · rw [hcall _ _ 0 h1]
    rfl

end KernelTestMgr

end KtfInt
