import KtfInt.Registry.Basic

/-!
Name resolution, `KernelTestMgr::find_test`: a direct lookup, then, once some handle has a
context list, a scan that splits the name at its underscores from the right.

The scan is `while (pos >= 0)` over a `size_t`, a guard that always holds: when no
underscore is left, `find_last_of` yields `npos`, `substr(0, npos)` is the whole name, and
`find_last_of` on it starts the scan over. The model runs the loop on fuel.

* `findTestLoop_scan`: the scan returns the first test it meets, right to left, with the
  rest of the name after that underscore as the context;
* `findTestLoop_none`: when no split names a test, the scan never returns;
* `findTest_sound`: a test `find_test` returns is bound to the name, or to the name cut at
  an underscore with the rest as the context;
* every lookup goes through `probe`, which binds nothing (`findTest_probes`).
-/

namespace KtfInt

namespace KernelTestMgr

/-- The scan of `find_test` from position `pos`, on at most `fuel` iterations; `pctx` is the
context written so far. A result is the test found (`none` for NULL), the context, and the
manager after the `operator[]` reads. -/
def findTestLoop (setname testname : List Char) :
    Nat → Nat → List Char → KernelTestMgr → Option (Option Ptr × List Char × KernelTestMgr)
  | 0, _, _, _ => none
  | fuel + 1, pos, pctx, st =>
    if 0 ≤ pos then
      let tname := substr testname 0 pos
      let ctx := substr testname ((pos + 1) % 2 ^ 64) npos
      match st.probe setname tname with
      | (some kt, st') => some (some kt, ctx, st')
      | (none, st') => findTestLoop setname testname fuel (findLastOf tname '_') ctx st'
    else some (none, pctx, st)

/-- `find_test(setname, testname, pctx)` on at most `fuel` iterations of its scan. -/
def findTest (fuel : Nat) (st : KernelTestMgr) (setname testname pctx : List Char) :
    Option (Option Ptr × List Char × KernelTestMgr) :=
  match st.probe setname testname with
  | (some kt, st') => some (some kt, [], st')
  | (none, st') =>
    if st'.handleToCtxvec.size = 0 then some (none, pctx, st')
    else findTestLoop setname testname fuel (findLastOf testname '_') pctx st'

/-- One iteration of the scan: the guard `pos >= 0` holds for every `size_t`. -/
lemma findTestLoop_succ (s n : List Char) (fuel pos : Nat) (pctx : List Char)
    (st : KernelTestMgr) :
    findTestLoop s n (fuel + 1) pos pctx st =
      match st.lookup s (substr n 0 pos) with
      | some kt => some (some kt, substr n ((pos + 1) % 2 ^ 64) npos,
          (st.probe s (substr n 0 pos)).2)
      | none => findTestLoop s n fuel (findLastOf (substr n 0 pos) '_')
          (substr n ((pos + 1) % 2 ^ 64) npos) (st.probe s (substr n 0 pos)).2 := by
  simp only [findTestLoop, Nat.zero_le, if_true, probe]
  cases st.lookup s (substr n 0 pos) <;> rfl

@[simp] lemma substr_zero (n : List Char) (pos : Nat) : substr n 0 pos = n.take pos := by
  simp [substr]

/-- The context `find_test` reports for a split at an underscore `pos` of a string. -/
lemma substr_succ (n : List Char) (pos : Nat) (h : n.length < npos) (hpos : pos < n.length) :
    substr n ((pos + 1) % 2 ^ 64) npos = n.drop (pos + 1) := by
  have h1 : (pos + 1) % 2 ^ 64 = pos + 1 := Nat.mod_eq_of_lt (by unfold npos at h; omega)
  rw [substr, h1, List.take_of_length_le (by simp; omega)]

/-! ### The scan -/

/-- The rightmost-first scan on a name `t_c`: if no `t_c'` with `c'` a prefix of `c` ending
before one of `c`'s underscores names a test, the split after `t` is reached and returns
`t`'s test with context `c`. The induction is on the prefix `c.take m` still to scan. -/
lemma findTestLoop_scan (s t cx : List Char) (p : Ptr) (hlen : (t ++ '_' :: cx).length < npos) :
    ∀ m, m ≤ cx.length → ∀ fuel, m < fuel → ∀ (pctx : List Char) (st : KernelTestMgr),
      st.lookup s t = some p →
      (∀ j < m, cx[j]? = some '_' → st.lookup s (t ++ '_' :: cx.take j) = none) →
      ∃ st', findTestLoop s (t ++ '_' :: cx) fuel (findLastOf (t ++ '_' :: cx.take m) '_')
        pctx st = some (some p, cx, st') := by
  intro m
  induction m using Nat.strong_induction_on with
  | _ m ih =>
    intro hm fuel hfuel pctx st ht hc
    obtain ⟨f, rfl⟩ : ∃ f, fuel = f + 1 := ⟨fuel - 1, by omega⟩
    rw [findLastOf, lastIndexOf_append_cons]
    cases hj : lastIndexOf '_' (cx.take m) with
    | none =>
      have hsplit : (t ++ '_' :: cx).take t.length = t := by simp
      have hctx := substr_succ (t ++ '_' :: cx) t.length hlen (by simp)
      simp only [Option.elim_none, Option.getD_some, findTestLoop_succ, substr_zero, hsplit,
        ht, hctx]
      exact ⟨(st.probe s t).2, by simp⟩
    | some j =>
      obtain ⟨hjlt, hjc⟩ := lastIndexOf_spec '_' _ j hj
      have hjm : j < m := by simp at hjlt; omega
      have hcj : cx[j]? = some '_' := by
        rw [List.getElem?_eq_getElem (by simp at hjlt; omega)]
        simpa using hjc
      have hsplit : (t ++ '_' :: cx).take (t.length + 1 + j) = t ++ '_' :: cx.take j := by
        rw [show t.length + 1 + j = t.length + (j + 1) by omega, List.take_append_eq_append_take]
        simp
      simp only [Option.elim_some, Option.getD_some, findTestLoop_succ, substr_zero, hsplit,
        hc j hjm hcj]
      exact ih j hjm (by omega) f (by omega) _ _ (by simpa using ht)
        fun j' hj' => by simpa using hc j' (hj'.trans hjm)

/-- The positions the scan can stand at in `n`: an underscore of `n`, or `npos`. -/
def IsSplit (n : List Char) (i : Nat) : Prop := i = npos ∨ n[i]? = some '_'

/-- `find_last_of` in a prefix of `n` cut at a split lands on a split of `n`. -/
lemma isSplit_findLastOf (n : List Char) (pos : Nat) : IsSplit n (findLastOf (n.take pos) '_') := by
  rw [findLastOf]
  cases h : lastIndexOf '_' (n.take pos) with
  | none => exact .inl rfl
  | some j =>
    obtain ⟨hj, hc⟩ := lastIndexOf_spec '_' _ j h
    simp only [Option.getD_some]
    refine .inr ?_
    rw [List.getElem?_eq_getElem (by simp at hj; omega)]
    simpa using hc

/-- **The scan never ends** when no split of `n` names a test: every iteration falls through
to the next split, and after the leftmost one `npos` restarts the scan on the whole name. -/
lemma findTestLoop_none (s n : List Char) :
    ∀ fuel pos pctx (st : KernelTestMgr), IsSplit n pos →
      (∀ i, IsSplit n i → st.lookup s (n.take i) = none) →
      findTestLoop s n fuel pos pctx st = none := by
  intro fuel
  induction fuel with
  | zero => intros; rfl
  | succ f ih =>
    intro pos pctx st hpos hall
    rw [findTestLoop_succ, substr_zero, hall pos hpos]
    exact ih _ _ _ (isSplit_findLastOf n pos) fun i hi => by simpa using hall i hi

/-- The scan returns only a test bound to the name cut at one of its underscores, with the
rest of the name after that underscore as the context. -/
lemma findTestLoop_sound (s n : List Char) (hlen : n.length < npos) :
    ∀ fuel pos pctx (st : KernelTestMgr) r, IsSplit n pos → st.lookup s n = none →
      findTestLoop s n fuel pos pctx st = some r →
      ∃ t p, r.1 = some p ∧ st.lookup s t = some p ∧ n = t ++ '_' :: r.2.1 := by
  intro fuel
  induction fuel with
  | zero => intros; contradiction
  | succ f ih =>
    intro pos pctx st r hpos hn h
    rw [findTestLoop_succ, substr_zero] at h
    cases hl : st.lookup s (n.take pos) with
    | none =>
      rw [hl] at h
      obtain ⟨t, p, h1, h2, h3⟩ := ih _ _ _ r (isSplit_findLastOf n pos) (by simpa using hn) h
      exact ⟨t, p, h1, by simpa using h2, h3⟩
    | some p =>
      rw [hl] at h
      cases h
      rcases hpos with rfl | hpos
      · rw [List.take_of_length_le (by omega), hn] at hl; cases hl
      · obtain ⟨hlt, hc⟩ := List.getElem?_eq_some_iff.mp hpos
        refine ⟨n.take pos, p, rfl, hl, ?_⟩
        rw [substr_succ n pos hlen hlt]
        conv_lhs => rw [← List.take_append_drop pos n, List.drop_eq_getElem_cons hlt, hc]

/-- **The scan finds a test** once the name cut at one of its underscores, `i`, names one:
from an underscore at or after `i`, each iteration returns a test, bound to the name cut at
that underscore, or moves to the previous underscore, which is still at or after `i`. -/
lemma findTestLoop_some (s n : List Char) {i : Nat} (hi : n[i]? = some '_') :
    ∀ pos, i ≤ pos → n[pos]? = some '_' → ∀ fuel, pos < fuel → ∀ pctx (st : KernelTestMgr),
      (st.lookup s (n.take i)).isSome → ∃ j q r,
        findTestLoop s n fuel pos pctx st = some (some q, r) ∧ st.lookup s (n.take j) = some q ∧
          n[j]? = some '_' := by
  intro pos
  induction pos using Nat.strong_induction_on with
  | _ pos ih =>
    intro hip hpos fuel hfuel pctx st hb
    obtain ⟨f, rfl⟩ : ∃ f, fuel = f + 1 := ⟨fuel - 1, by omega⟩
    rw [findTestLoop_succ, substr_zero]
    cases hl : st.lookup s (n.take pos) with
    | some q => exact ⟨pos, q, _, rfl, hl, hpos⟩
    | none =>
      have hlt : i < pos := lt_of_le_of_ne hip fun h => by subst h; simp [hl] at hb
      obtain ⟨j, hj, hij⟩ :=
        le_lastIndexOf '_' (n.take pos) i (by rw [List.getElem?_take_of_lt hlt]; exact hi)
      obtain ⟨hjlt, hjc⟩ := lastIndexOf_spec '_' _ j hj
      have hjpos : j < pos := by simp at hjlt; omega
      have hnj : n[j]? = some '_' := by
        rw [← List.getElem?_take_of_lt hjpos, List.getElem?_eq_getElem hjlt, hjc]
      obtain ⟨j', q, r, h1, h2, h3⟩ := ih j hjpos hij hnj f (by omega) _
        (st.probe s (n.take pos)).2 (by simpa using hb)
      exact ⟨j', q, r, by simpa [findLastOf, hj] using h1, by simpa using h2, h3⟩

/-- The manager after a sequence of `find_test` reads `sets[s].tests[t]`. -/
def probeAll (st : KernelTestMgr) (reads : List (List Char × List Char)) : KernelTestMgr :=
  reads.foldl (fun st r => (st.probe r.1 r.2).2) st

@[simp] lemma lookup_probeAll (st : KernelTestMgr) (reads : List (List Char × List Char))
    (s t : List Char) : (st.probeAll reads).lookup s t = st.lookup s t := by
  induction reads generalizing st with
  | nil => rfl
  | cons r rs ih => exact (ih _).trans (lookup_probe st _ _ s t)

@[simp] lemma kts_probeAll (st : KernelTestMgr) (reads : List (List Char × List Char)) :
    (st.probeAll reads).kts = st.kts := by
  induction reads generalizing st with
  | nil => rfl
  | cons r rs ih => exact ih _

@[simp] lemma cfgContexts_probeAll (st : KernelTestMgr) (reads : List (List Char × List Char)) :
    (st.probeAll reads).cfgContexts = st.cfgContexts := by
  induction reads generalizing st with
  | nil => rfl
  | cons r rs ih => exact ih _

/-- The scan changes the manager only by its reads. -/
lemma findTestLoop_probes (s n : List Char) :
    ∀ fuel pos pctx (st : KernelTestMgr) r, findTestLoop s n fuel pos pctx st = some r →
      ∃ reads, r.2.2 = st.probeAll reads := by
  intro fuel
  induction fuel with
  | zero => intros; contradiction
  | succ f ih =>
    intro pos pctx st r h
    rw [findTestLoop_succ] at h
    split at h
    · cases h; exact ⟨[(s, n.take pos)], by simp [probeAll]⟩
    · obtain ⟨reads, hr⟩ := ih _ _ _ r h
      exact ⟨(s, n.take pos) :: reads, by simpa [probeAll] using hr⟩

/-- **`find_test` only reads**, as far as bindings go: the manager it leaves is the one it
got after `operator[]` reads, so no test is bound, unbound or rebound by it. -/
lemma findTest_probes (fuel : Nat) (st : KernelTestMgr) (s n pctx : List Char) (r)
    (h : findTest fuel st s n pctx = some r) : ∃ reads, r.2.2 = st.probeAll reads := by
  unfold findTest at h
  split at h
  · rename_i heq
    cases h; exact ⟨[(s, n)], by simp [probeAll, heq]⟩
  · rename_i heq
    split at h
    · cases h; exact ⟨[(s, n)], by simp [probeAll, heq]⟩
    · obtain ⟨reads, hr⟩ := findTestLoop_probes s n _ _ _ _ r h
      exact ⟨(s, n) :: reads, by simpa [probeAll, heq] using hr⟩

/-- A name bound to a test resolves to it directly, with the empty context. -/
lemma findTest_of_lookup (fuel : Nat) (st : KernelTestMgr) (s n pctx : List Char) (p : Ptr)
    (h : st.lookup s n = some p) :
    findTest fuel st s n pctx = some (some p, [], (st.probe s n).2) := by
  simp [findTest, probe, h]

/-- With no handle context list registered, an unbound name resolves to NULL at once. -/
lemma findTest_of_empty_map (fuel : Nat) (st : KernelTestMgr) (s n pctx : List Char)
    (h : st.lookup s n = none) (hmap : st.handleToCtxvec.size = 0) :
    findTest fuel st s n pctx = some (none, pctx, (st.probe s n).2) := by
  simp [findTest, probe, h, hmap]

/-- With a handle context list registered, an unbound name is scanned. -/
lemma findTest_of_map (fuel : Nat) (st : KernelTestMgr) (s n pctx : List Char)
    (h : st.lookup s n = none) (hmap : st.handleToCtxvec.size ≠ 0) :
    findTest fuel st s n pctx =
      findTestLoop s n fuel (findLastOf n '_') pctx (st.probe s n).2 := by
  simp [findTest, probe, h, hmap]

/-- `find_test` on a name made of a bound test's name, `_` and a context finds a test, bound
to the name itself or to the name cut at one of its underscores, within `n + 1` iterations,
`n` the name's length, once some handle has a context list. -/
lemma findTest_of_split {st : KernelTestMgr} {s t c : List Char} (ht : (st.lookup s t).isSome)
    (hmap : st.handleToCtxvec.size ≠ 0) (pctx : List Char) : ∃ j q r,
      findTest ((t ++ '_' :: c).length + 1) st s (t ++ '_' :: c) pctx = some (some q, r) ∧
        st.lookup s ((t ++ '_' :: c).take j) = some q ∧
        (j = (t ++ '_' :: c).length ∨ (t ++ '_' :: c)[j]? = some '_') := by
  cases hn : st.lookup s (t ++ '_' :: c) with
  | some q =>
    exact ⟨(t ++ '_' :: c).length, q, _, findTest_of_lookup _ st s _ pctx q hn,
      by rw [List.take_of_length_le le_rfl]; exact hn, .inl rfl⟩
  | none =>
    rw [findTest_of_map _ _ _ _ _ hn hmap]
    have hi : (t ++ '_' :: c)[t.length]? = some '_' := by
      rw [List.getElem?_append_right le_rfl]; simp
    obtain ⟨pos, hpos, hip⟩ := le_lastIndexOf '_' _ _ hi
    obtain ⟨hposlt, hposc⟩ := lastIndexOf_spec '_' _ pos hpos
    obtain ⟨j, q, r, h1, h2, h3⟩ := findTestLoop_some s _ hi pos hip
      (by rw [List.getElem?_eq_getElem hposlt, hposc]) ((t ++ '_' :: c).length + 1) (by omega)
      pctx (st.probe s (t ++ '_' :: c)).2 (by simpa using ht)
    exact ⟨j, q, r, by simpa [findLastOf, hpos] using h1, by simpa using h2, .inr h3⟩

/-- **`find_test` is sound**: a test it returns is bound to the name itself, with the empty
context, or to the name cut at an underscore, with the rest of the name as the context. -/
lemma findTest_sound (fuel : Nat) (st : KernelTestMgr) (s n pctx : List Char) (r)
    (hlen : n.length < npos) (h : findTest fuel st s n pctx = some r) {p : Ptr}
    (hp : r.1 = some p) :
    ∃ t, st.lookup s t = some p ∧ (n = t ∧ r.2.1 = [] ∨ n = t ++ '_' :: r.2.1) := by
  cases hn : st.lookup s n with
  | some q =>
    rw [findTest_of_lookup fuel st s n pctx q hn] at h
    cases h
    cases hp
    exact ⟨n, hn, .inl ⟨rfl, rfl⟩⟩
  | none =>
    by_cases hmap : st.handleToCtxvec.size = 0
    · rw [findTest_of_empty_map fuel st s n pctx hn hmap] at h
      cases h
      cases hp
    · rw [findTest_of_map fuel st s n pctx hn hmap] at h
      obtain ⟨t, q, h1, h2, h3⟩ :=
        findTestLoop_sound s n hlen _ _ _ _ r (by simpa using isSplit_findLastOf n n.length)
          (by simpa using hn) h
      rw [hp, Option.some.injEq] at h1
      subst h1
      exact ⟨t, by simpa using h2, .inr h3⟩

/-- **Resolution of generated names**, rightmost first. A bare name resolves to its test
with the empty context. A name `t_c` resolves to `t`'s test with context `c` when neither
`t_c` itself nor any `t_c'`, for `c'` a prefix of `c` ending just before an underscore of
`c`, names a test of the set, and some handle has a context list. -/
theorem findTest_generated_name (st : KernelTestMgr) (s t cx pctx : List Char) (p : Ptr) :
    (st.lookup s t = some p → ∀ fuel, ∃ st', findTest fuel st s t pctx = some (some p, [], st')) ∧
    (st.lookup s t = some p → st.handleToCtxvec.size ≠ 0 → (t ++ '_' :: cx).length < npos →
      st.lookup s (t ++ '_' :: cx) = none →
      (∀ j < cx.length, cx[j]? = some '_' → st.lookup s (t ++ '_' :: cx.take j) = none) →
      ∃ st', findTest (cx.length + 1) st s (t ++ '_' :: cx) pctx = some (some p, cx, st')) := by
  refine ⟨fun ht fuel => ⟨_, findTest_of_lookup fuel st s t pctx p ht⟩,
    fun ht hmap hlen hn hc => ?_⟩
  rw [findTest_of_map _ _ _ _ _ hn hmap]
  have := findTestLoop_scan s t cx p hlen cx.length le_rfl (cx.length + 1) (Nat.lt_succ_self _)
    pctx (st.probe s (t ++ '_' :: cx)).2 (by simpa using ht) (fun j hj hcj => by
      simpa using hc j hj hcj)
  simpa using this

/-- The specification's example: handle `5` owns `ctxA` and `ctxB`, test `ping` is added under
it, and `ping_ctxA` resolves to `ping` with context `ctxA`. -/
theorem findTest_ping_ctxA :
    let st := runMutations .empty
      [.addCset 5 ["ctxA".toList, "ctxB".toList], .addTest "s".toList "ping".toList 5]
    (st.testset "s".toList).testNames = ["ping_ctxA".toList, "ping_ctxB".toList] ∧
    ∃ st', st.findTest 5 "s".toList "ping_ctxA".toList [] = some (some 0, "ctxA".toList, st') :=
  ⟨by decide, (findTest_generated_name _ "s".toList "ping".toList "ctxA".toList [] 0).2
    (by decide) (by decide) (by decide) (by decide) (by decide)⟩

/-- Test `a` under a handle whose context is `x_y`, and test `a_x` without a handle: the
entry `a_x_y` generated for `a` resolves to `a_x` with context `y`. -/
theorem findTest_takes_longer_test :
    let st := runMutations .empty
      [.addCset 1 ["x_y".toList], .addTest "s".toList "a".toList 1,
        .addTest "s".toList "a_x".toList 0]
    (st.testset "s".toList).testNames = ["a_x_y".toList, "a_x".toList] ∧
    st.lookup "s".toList "a".toList = some 0 ∧ st.lookup "s".toList "a_x".toList = some 1 ∧
    (∀ fuel, st.findTest fuel "s".toList "a_x_y".toList [] ≠ none →
      (st.findTest fuel "s".toList "a_x_y".toList []).map (fun r => (r.1, r.2.1)) =
        some (some 1, "y".toList)) := by
  refine ⟨by decide, by decide, by decide, fun fuel h => ?_⟩
  cases fuel with
  | zero => exact absurd rfl h
  | succ f => rfl

/-- **`find_test` never returns** on a name that no split names a test of, once some handle
has a context list (strings are shorter than `npos`). -/
lemma findTest_eq_none (fuel : Nat) (st : KernelTestMgr) (s n pctx : List Char)
    (hmap : st.handleToCtxvec.size ≠ 0) (hlen : n.length ≤ npos)
    (hfail : ∀ i, IsSplit n i → st.lookup s (n.take i) = none) :
    findTest fuel st s n pctx = none := by
  have hn : st.lookup s n = none := by
    simpa [List.take_of_length_le hlen] using hfail npos (.inl rfl)
  rw [findTest_of_map _ _ _ _ _ hn hmap]
  exact findTestLoop_none s n fuel _ pctx _ (by simpa using isSplit_findLastOf n n.length)
    fun i hi => by simpa using hfail i hi

/-- Once handle `1` has a context list, `find_test` on a name no test has never returns. -/
theorem findTest_unknown_name_loops (fuel : Nat) :
    (runMutations .empty [.addCset 1 ["c".toList]]).findTest fuel "s".toList "x".toList [] =
      none :=
  findTest_eq_none fuel _ _ _ _ (by decide) (by decide) fun _ _ => rfl

/-- On the empty registry, `find_test` of an unknown name returns NULL and leaves the set
`s`, with a null entry for `t`, in the sets map. -/
theorem findTest_adds_set (fuel : Nat) :
    KernelTestMgr.empty.findTest fuel "s".toList "t".toList [] =
      some (none, [], (KernelTestMgr.empty.probe "s".toList "t".toList).2) ∧
    KernelTestMgr.empty.sets.keys = [] ∧
    (KernelTestMgr.empty.probe "s".toList "t".toList).2.sets.keys = ["s".toList] ∧
    ((KernelTestMgr.empty.probe "s".toList "t".toList).2.testset "s".toList).tests.entries =
      [("t".toList, none)] :=
  ⟨rfl, rfl, by decide, by decide⟩

end KernelTestMgr

end KtfInt
