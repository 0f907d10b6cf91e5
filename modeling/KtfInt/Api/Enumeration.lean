import Mathlib.Data.List.Chain
import Mathlib.Data.List.Sort
import KtfInt.Api.Session
import KtfInt.Netlink.Inventory

/-!
The enumeration as a test program sees it over a run of the library: what the
`get_test_names` calls of a run return, and what `get_current_setname` names after each,
while other calls and the kernel's answers come between them. `enumerated` reads the calls of
a run back: the set named after each call, `none` where a call ends an enumeration.

* `getTestNames_moves_forward`: **the enumeration cursor only moves forward**: whatever the
  program and the kernel do between two `get_test_names` calls, the second returns a set
  after the first in key order, unless it ends the enumeration, so no enumeration returns a
  set twice;
* `getTestNames_visits_every_set`: **no enumeration passes over a set it could return**:
  a set present when an enumeration starts, never pending a wrapper, is returned before the
  enumeration ends, whatever happens between the calls;
* `getTestNames_skips_wrapped_set`: **a wrapper the kernel never answers hides its whole
  set** from every enumeration;
* `queryTestsets_enumerates_inventory`: **what the kernel lists is what the enumeration
  returns**: after a well-formed inventory, each listed set once, in key order, with the
  names generated for its tests, whether the wrappers of listed tests are registered before
  the query or after it.
-/

namespace KtfInt

/-- The set `get_current_setname` names after each `get_test_names` call of a run, `none`
after a call that ends an enumeration. -/
def enumerated (run : List (Op × KernelTestMgr)) : List (Option (List Char)) :=
  (run.filter (·.1.isCall)).map (·.2.getCurrentSetname)

namespace KernelTestMgr

variable {latest : Version}

lemma enumerated_cons (op : Op) (st : KernelTestMgr) (run : List (Op × KernelTestMgr)) :
    enumerated ((op, st) :: run) =
      if op.isCall then st.getCurrentSetname :: enumerated run else enumerated run := by
  unfold enumerated; rw [List.filter_cons]; split <;> rfl

/-! ### The enumeration cursor -/

/-- From a state whose cursor names `o` and stands past it, the sets the calls of a run name
follow `o` and each other in key order, up to each end of an enumeration. -/
lemma enumerated_chain (ops : List Op) :
    ∀ (st : KernelTestMgr) (o : Option (List Char)),
      (∀ x ∈ o, st.getCurrentSetname = some x ∧ st.CursorAhead) →
      (enumerated (runOps latest st ops)).Chain (fun a b => ∀ x ∈ a, ∀ y ∈ b, x < y) o := by
  induction ops with
  | nil => intros; exact .nil
  | cons op ops ih =>
    intro st o ho
    rw [runOps_cons]
    cases h : op.apply latest st with
    | none => exact .nil
    | some st' =>
      rw [enumerated_cons]
      cases hc : op.isCall
      · have hcur : st'.cur = st.cur := cur_respects.apply h hc
        refine ih st' o fun x hx => ?_
        simpa only [getCurrentSetname, CursorAhead, hcur] using ho x hx
      · obtain rfl := Op.apply_call h hc
        rw [if_pos rfl]
        refine .cons (fun x hx y hy => ?_) (ih _ _ fun y hy => ⟨hy, getTestNames_ahead st⟩)
        obtain ⟨hx', ha⟩ := ho x hx
        obtain ⟨c, hc, rfl⟩ := Option.map_eq_some'.1 hx'
        obtain ⟨c', hc', rfl⟩ := Option.map_eq_some'.1 hy
        exact getTestNames_lt ha hc c' hc'

/-- **The enumeration cursor only moves forward.** In every run, from any state, whatever
the program calls and the kernel answers between two `get_test_names` calls, the set the
second one returns comes after the set the first one returned in key order, unless one of
them ends the enumeration. So the sets one enumeration returns come in strictly increasing
key order and none twice, even when queries, wrappers and lookups add sets meanwhile. -/
theorem getTestNames_moves_forward (st : KernelTestMgr) (ops : List Op) :
    (enumerated (runOps latest st ops)).Chain' (fun a b => ∀ x ∈ a, ∀ y ∈ b, x < y) ∧
    ∀ pre (sets : List (List Char)) post,
      enumerated (runOps latest st ops) = pre ++ sets.map some ++ post → sets.Sorted (· < ·) := by
  have hchain : (enumerated (runOps latest st ops)).Chain' fun a b => ∀ x ∈ a, ∀ y ∈ b, x < y :=
    match h : enumerated (runOps latest st ops) with
    | [] => List.chain'_nil
    | _ :: _ => (List.chain_cons.1 (h ▸ enumerated_chain ops st none (by simp))).2
  refine ⟨hchain, fun pre sets post h => ?_⟩
  have hs := hchain.infix ⟨pre, post, h.symm⟩
  rw [List.chain'_map] at hs
  exact List.chain'_iff_pairwise.1 (hs.imp fun a b h => h a rfl b rfl)

/-- Sets `a` and `c`, then a call that returns `a`, then a query that adds `b` behind the
cursor: the next call returns `c`, and `b` waits for the next enumeration. -/
theorem getTestNames_skips_set_added_behind :
    let run := runOps defaultKernelVersion .empty
      [.query 0 ⟨none, none, some 2, some [.str "a".toList, .str "c".toList]⟩, .getTestNames,
        .query 0 ⟨none, none, some 1, some [.str "b".toList]⟩, .getTestNames, .getTestNames]
    enumerated run = [some "a".toList, some "c".toList, none] ∧
      ["a".toList, "c".toList].Sorted (· < ·) := by
  intro run
  have e : enumerated run = [some "a".toList, some "c".toList, none] := by decide
  exact ⟨e, (getTestNames_moves_forward _ _).2 [] ["a".toList, "c".toList] [none] e⟩

/-- From a state whose cursor still has to visit set `x`, with `x` never pending a wrapper,
every end of an enumeration in the run comes after a call that returned `x`. -/
lemma enumerated_visits (x : List Char) (ops : List Op) :
    ∀ st : KernelTestMgr, x ∈ st.remaining.map Prod.fst →
      (∀ s ∈ st :: (runOps latest st ops).map Prod.snd, (s.testset x).wrapper.size = 0) →
      ∀ pre post, enumerated (runOps latest st ops) = pre ++ none :: post → some x ∈ pre := by
  induction ops with
  | nil => intro _ _ _ pre post h; cases pre <;> cases h
  | cons op ops ih =>
    intro st hx hw pre post h
    rw [runOps_cons] at h hw
    cases hop : op.apply latest st with
    | none => simp only [hop] at h; cases pre <;> cases h
    | some st' =>
      simp only [hop, List.map_cons] at h hw
      have hw' := fun s hs => hw s (List.mem_cons_of_mem st hs)
      rw [enumerated_cons] at h
      cases hc : op.isCall
      · simp only [hc, Bool.false_eq_true, if_false] at h
        exact ih st' (mem_remaining_of_keys (cur_respects.apply hop hc)
          (extends_respects.apply hop hc).sets hx) hw' pre post h
      · simp only [hc, if_true] at h
        obtain rfl := Op.apply_call hop hc
        have hstep := getTestNames_visits hx (hw st (List.mem_cons_self _ _))
        cases pre with
        | nil =>
          simp only [List.nil_append, List.cons.injEq] at h
          rcases hstep with hs | ⟨hne, -⟩
          · exact absurd (hs.symm.trans h.1) (Option.some_ne_none x)
          · exact absurd h.1 hne
        | cons y pre =>
          simp only [List.cons_append, List.cons.injEq] at h
          rcases hstep with hs | ⟨-, hx'⟩
          · exact h.1 ▸ hs ▸ List.mem_cons_self _ _
          · exact List.mem_cons_of_mem y (ih _ hx' hw' pre post h.2)

/-- **No enumeration passes over a set it could return.** From a fresh cursor, whatever the
program calls and the kernel answers between the `get_test_names` calls, a set in the sets
map at the start that never has a pending wrapper is returned by a call of the enumeration
before the call that ends it. -/
theorem getTestNames_visits_every_set (st : KernelTestMgr) (ops : List Op)
    (hcur : st.cur = none) (x : List Char) (hx : x ∈ st.sets.keys)
    (hw : ∀ s ∈ st :: (runOps latest st ops).map Prod.snd, (s.testset x).wrapper.size = 0)
    (pre post : List (Option (List Char)))
    (h : enumerated (runOps latest st ops) = pre ++ none :: post) : some x ∈ pre :=
  enumerated_visits x ops st (by simpa only [remaining, hcur] using hx) hw pre post h

/-- Sets `a` and `c`; after the call that returns `a`, an answer adds `b`: the enumeration
still returns `c` before it ends. -/
theorem getTestNames_visits_set_ahead :
    let st := (queryTestsets defaultKernelVersion 0 ⟨none, none, some 2,
      some [.str "a".toList, .test [.str "t".toList], .str "c".toList, .test [.str "u".toList]]⟩
      .empty).2
    let ops := [Op.getTestNames, .query 0 ⟨none, none, some 1, some [.str "b".toList]⟩,
      .getTestNames, .getTestNames]
    enumerated (runOps defaultKernelVersion st ops) = [some "a".toList, some "c".toList, none] ∧
      some "c".toList ∈ [some "a".toList, some "c".toList] := by
  intro st ops
  have e : enumerated (runOps defaultKernelVersion st ops) =
      [some "a".toList, some "c".toList, none] := by decide
  exact ⟨e, getTestNames_visits_every_set st ops (by decide) "c".toList (by decide) (by decide)
    [some "a".toList, some "c".toList] [] e⟩

/-! ### A wrapper the kernel never answers -/

/-- A pending wrapper stays pending through every mutation but the `add_test` of its own
test. -/
lemma mem_wrapper_apply {st : KernelTestMgr} {m : Mutation} {s t : List Char}
    (hm : m.addsTest s t = false) (hp : t ∈ (st.testset s).wrapper.keys) :
    t ∈ ((m.apply st).testset s).wrapper.keys := by
  cases m with
  | addTest s' t' hid =>
    rw [Mutation.apply, testset_addTest]
    split
    · next hs =>
      subst hs
      rw [register_wrapper, testset_findAddTest, wrapper_findAddSet, StdMap.mem_keys_erase]
      exact ⟨fun h => by simp [Mutation.addsTest, h] at hm, hp⟩
    · rwa [testset_findAddTest, wrapper_findAddSet]
  | addWrapper s' t' cb =>
    rw [Mutation.apply, testset_addWrapper]
    split
    · next hs =>
      subst hs
      dsimp only
      split
      · exact StdMap.keys_subset_alter _ _ _ hp
      · exact hp
    · exact hp
  | findAddSet => rwa [Mutation.apply, wrapper_findAddSet]
  | addCset | addConfigurableContext => exact hp

/-- The primitive changes keep a wrapper of `t` in set `s` pending while `t` stays unbound. -/
lemma pending_respects (s t : List Char) : Respects fun a b => Extends a b ∧
    (t ∈ (a.testset s).wrapper.keys → b.lookup s t = none → t ∈ (b.testset s).wrapper.keys) where
  refl st := ⟨extends_respects.refl st, fun h _ => h⟩
  trans h₁ h₂ := ⟨extends_respects.trans h₁.1 h₂.1, fun hp hl =>
    h₂.2 (h₁.2 hp (Option.not_isSome_iff_eq_none.1 fun hb => by
      simpa [hl] using h₂.1.bound s t hb)) hl⟩
  mutate st m := ⟨extends_respects.mutate st m, fun hp hl => by
    refine mem_wrapper_apply ?_ hp
    cases hm : m.addsTest s t
    · rfl
    · rw [lookup_apply, hm, if_pos rfl] at hl; cases hl⟩
  probe st s' t' := ⟨extends_respects.probe st s' t', fun hp _ => by rwa [wrapper_probe]⟩
  getPriv st p sz := ⟨extends_respects.getPriv st p sz, fun hp _ => hp⟩

/-- **A wrapper the kernel never answers hides its whole set.** From any state in which a
wrapper for test `t` of set `s` is pending and `t` is not bound, in every run in which no
query answer the library reads lists `t` in `s`, no `get_test_names` call returns `s`: the
wrapper stays pending, and the enumeration skips every set with a pending wrapper, so none of
the tests the kernel lists in `s` is ever enumerated. -/
theorem getTestNames_skips_wrapped_set (st : KernelTestMgr) (ops : List Op) (s t : List Char)
    (hp : t ∈ (st.testset s).wrapper.keys) (hl : st.lookup s t = none)
    (hna : ∀ op ∈ ops, (s, t) ∉ op.announced) : some s ∉ enumerated (runOps latest st ops) := by
  induction ops generalizing st with
  | nil => exact List.not_mem_nil _
  | cons op ops ih =>
    rw [runOps_cons]
    cases hop : op.apply latest st with
    | none => exact List.not_mem_nil _
    | some st' =>
      have hl' : st'.lookup s t = none :=
        (Op.lookup_apply hop (hna op (List.mem_cons_self _ _))).trans hl
      have ih' := ih st' ?_ hl' fun op' h => hna op' (List.mem_cons_of_mem op h)
      · rw [enumerated_cons]
        cases hc : op.isCall
        · simpa only [hc, Bool.false_eq_true, if_false] using ih'
        · simp only [hc, if_true, List.mem_cons, not_or]
          refine ⟨fun h => ?_, ih'⟩
          obtain rfl := Op.apply_call hop hc
          exact getTestNames_ne_of_pending (StdMap.size_ne_zero_of_mem hp) h.symm
      · cases hc : op.isCall
        · exact ((pending_respects s t).apply hop hc).2 hp hl'
        · obtain rfl := Op.apply_call hop hc
          rwa [testset, getTestNames_sets]

/-- Sets `r` and `s` each with a test `t`, and a wrapper for a test `x` of `s` that the kernel
does not have: the calls return `r`, end, and return `r` again; `s` never. -/
theorem getTestNames_skips_set_of_mistyped_wrapper :
    let q : QueryAttrs := ⟨none, none, some 2, some [.str "r".toList, .test [.str "t".toList],
      .str "s".toList, .test [.str "t".toList]]⟩
    let st := KernelTestMgr.empty.addWrapper "s".toList "x".toList 7
    let ops := [Op.query 0 q, .getTestNames, .getTestNames, .getTestNames]
    enumerated (runOps defaultKernelVersion st ops) = [some "r".toList, none, some "r".toList] ∧
      some "s".toList ∉ enumerated (runOps defaultKernelVersion st ops) := by
  intro q st ops
  exact ⟨by decide, getTestNames_skips_wrapped_set st ops "s".toList "x".toList (by decide)
    (by decide) (by decide)⟩

/-! ### Query, then enumerate -/

/-- No set has a pending wrapper. -/
def NoWrappers (st : KernelTestMgr) : Prop := ∀ s, (st.testset s).wrapper.size = 0

/-- A full enumeration of a registry without pending wrappers, from a fresh cursor: each set
of the map in key order with its names, then the reset. -/
lemma enumerate_of_noWrappers {st : KernelTestMgr} (hcur : st.cur = none) (hwr : NoWrappers st) :
    enumerate (st.sets.keys.length + 1) st =
      st.sets.keys.map (fun s => ((st.testset s).testNames, some s)) ++ [([], none)] := by
  have hts : ∀ e ∈ st.sets.entries, st.testset e.1 = e.2 := fun e he => by
    rw [testset_eq, StdMap.find?_of_mem _ he]; rfl
  have hrun : runnable st.remaining = st.sets.entries := by
    rw [remaining, hcur]
    exact List.filter_eq_self.2 fun e he => by simpa [hts e he] using hwr e.1
  obtain ⟨h1, -⟩ := enumerate_remaining st.sets.keys.length st (remaining_suffix st)
    (by rw [hrun, StdMap.keys, List.length_map])
  rw [h1, hrun, StdMap.keys, List.map_map]
  exact congrArg (· ++ _) (List.map_congr_left fun e he => by simp [hts e he])

/-- The keys a set entry's mutations leave in the sets map: its name added. -/
lemma mem_keys_entry (e : SetEntry) (st : KernelTestMgr) (x : List Char) :
    x ∈ (runMutations st e.mutations).sets.keys ↔ x = e.name ∨ x ∈ st.sets.keys := by
  obtain ⟨rest, hrest⟩ : ∃ rest, e.mutations = .findAddSet e.name :: rest := ⟨_, rfl⟩
  rw [hrest, runMutations_cons]
  refine runMutations_induction (fun s => ∀ x, x ∈ s.sets.keys ↔ x = e.name ∨ x ∈ st.sets.keys)
    (fun m hm s hs y => ?_) (mem_keys_findAddSet st e.name) x
  rcases mem_mutations_entry (show m ∈ e.mutations from hrest ▸ .tail _ hm) with
    rfl | ⟨t, hid, rfl⟩
  · rw [Mutation.apply, mem_keys_findAddSet, hs]; tauto
  · rw [Mutation.apply, mem_keys_addTest, hs]; tauto

lemma mem_keys_sets (x : List Char) : ∀ (es : List SetEntry) (st : KernelTestMgr),
    x ∈ (runMutations st (es.flatMap SetEntry.mutations)).sets.keys ↔
      x ∈ st.sets.keys ∨ x ∈ es.map (·.name)
  | [], _ => by simp
  | e :: es, st => by
    rw [List.flatMap_cons, runMutations_append, mem_keys_sets x es, mem_keys_entry,
      List.map_cons, List.mem_cons]
    tauto

/-- An inventory leaves no wrapper pending that was not pending before. -/
lemma mem_wrapper_inventory {st : KernelTestMgr} {groups : List HandleGroup}
    {sets : List SetEntry} {s t : List Char}
    (h : t ∈ ((runMutations st (inventoryMutations groups sets)).testset s).wrapper.keys) :
    t ∈ (st.testset s).wrapper.keys := by
  obtain ⟨hc, cc, hg⟩ := runMutations_groups st groups
  rw [inventoryMutations, runMutations_append, hg] at h
  refine @runMutations_induction
    (fun x => ∀ s t, t ∈ (x.testset s).wrapper.keys → t ∈ (st.testset s).wrapper.keys)
    { st with handleToCtxvec := hc, cfgContexts := cc } _ (fun m hm x hx s t h => ?_)
    (fun _ _ h => h) s t h
  obtain ⟨e, -, hm⟩ := List.mem_flatMap.mp hm
  rcases mem_mutations_entry hm with rfl | ⟨t', hid, rfl⟩
  · rw [Mutation.apply, wrapper_findAddSet] at h; exact hx s t h
  · exact hx s t (mem_wrapper_addTest h)

/-- The wrappers a program registers, `(setname, testname, callback)`, as mutations. -/
def wrapperMutations (ws : List (List Char × List Char × Nat)) : List Mutation :=
  ws.map fun w => .addWrapper w.1 w.2.1 w.2.2

/-- What wrappers registered from the initial state leave: the sets of the wrappers, with
their names pending and no generated names, and nothing registered. -/
lemma wrappers_empty (ws : List (List Char × List Char × Nat)) :
    let st := runMutations .empty (wrapperMutations ws)
    (∃ sets kts, st = { KernelTestMgr.empty with sets, kts }) ∧
    (∀ x ∈ st.sets.keys, x ∈ ws.map (·.1)) ∧ (∀ s, (st.testset s).testNames = []) ∧
    ∀ s t, t ∈ (st.testset s).wrapper.keys → ∃ w ∈ ws, w.1 = s ∧ w.2.1 = t := by
  refine @runMutations_induction
    (fun st => (∃ sets kts, st = { KernelTestMgr.empty with sets, kts }) ∧
      (∀ x ∈ st.sets.keys, x ∈ ws.map (·.1)) ∧ (∀ s, (st.testset s).testNames = []) ∧
      ∀ s t, t ∈ (st.testset s).wrapper.keys → ∃ w ∈ ws, w.1 = s ∧ w.2.1 = t) .empty _
    (fun m hm x ⟨⟨sets, kts, hx⟩, hk, hn, hw⟩ => ?_)
    ⟨⟨_, _, rfl⟩, fun _ h => absurd h (List.not_mem_nil _), fun _ => rfl,
      fun _ _ h => absurd h (List.not_mem_nil _)⟩
  obtain ⟨w, hw', rfl⟩ := List.mem_map.mp hm
  obtain ⟨sets', kts', e⟩ := addWrapper_eq x w.1 w.2.1 w.2.2
  refine ⟨⟨sets', kts', by rw [Mutation.apply, e, hx]⟩, fun y hy => ?_, fun s => ?_,
    fun s t ht => ?_⟩
  · rcases (mem_keys_addWrapper _ _ _ _ _).1 hy with rfl | hy
    · exact List.mem_map_of_mem _ hw'
    · exact hk y hy
  · rw [Mutation.apply, testNames_addWrapper]; exact hn s
  · rcases mem_wrapper_addWrapper ht with ⟨rfl, rfl⟩ | ht
    · exact ⟨w, hw', rfl, rfl⟩
    · exact hw s t ht

/-- Wrappers for bound tests change nothing the enumeration reads: the keys, names and
pending wrappers of the sets map, the handles' context lists, and the cursor. -/
lemma boundWrappers (st : KernelTestMgr) (ws : List (List Char × List Char × Nat))
    (hb : ∀ w ∈ ws, st.Holds w.1 w.2.1) :
    let st' := runMutations st (wrapperMutations ws)
    st'.handleToCtxvec = st.handleToCtxvec ∧ st'.cur = st.cur ∧
    (∀ x, x ∈ st'.sets.keys ↔ x ∈ st.sets.keys) ∧
    ∀ s, (st'.testset s).testNames = (st.testset s).testNames ∧
      (st'.testset s).wrapper = (st.testset s).wrapper := by
  refine (runMutations_induction (fun x => (x.handleToCtxvec = st.handleToCtxvec ∧
      x.cur = st.cur ∧ (∀ y, y ∈ x.sets.keys ↔ y ∈ st.sets.keys) ∧
      ∀ s, (x.testset s).testNames = (st.testset s).testNames ∧
        (x.testset s).wrapper = (st.testset s).wrapper) ∧ ∀ w ∈ ws, x.Holds w.1 w.2.1)
    (fun m hm x ⟨⟨h1, h2, h3, h4⟩, hx⟩ => ?_)
    ⟨⟨rfl, rfl, fun _ => .rfl, fun _ => ⟨rfl, rfl⟩⟩, hb⟩).1
  obtain ⟨w, hw, rfl⟩ := List.mem_map.mp hm
  obtain ⟨p, hp, -⟩ := hx w hw
  have hbound : (x.lookup w.1 w.2.1).isSome := by rw [hp]; rfl
  have hkey : w.1 ∈ x.sets.keys := by
    rw [lookup, Option.join_eq_some, Option.bind_eq_some] at hp
    obtain ⟨ts, hts, -⟩ := hp
    rw [StdMap.mem_keys_iff, hts]; rfl
  obtain ⟨sets', kts', e⟩ := addWrapper_eq x w.1 w.2.1 w.2.2
  refine ⟨⟨by rw [Mutation.apply, e]; exact h1, by rw [Mutation.apply, e]; exact h2,
    fun y => ?_, fun s => ?_⟩, fun w' hw' => (hx w' hw').apply _⟩
  · rw [Mutation.apply, mem_keys_addWrapper, ← h3]
    exact ⟨fun h => h.elim (· ▸ hkey) id, .inr⟩
  · rw [Mutation.apply, testNames_addWrapper, wrapper_addWrapper_of_bound _ hbound]
    exact h4 s

/-- After wrappers and then an inventory from the initial state, the sets are those the
inventory lists, when each wrapper names a listed set. -/
lemma mem_keys_inventory (before : List (List Char × List Char × Nat))
    (groups : List HandleGroup) (sets : List SetEntry)
    (hlisted : ∀ w ∈ before, w.1 ∈ sets.map (·.name)) (x : List Char) :
    x ∈ (runMutations (runMutations .empty (wrapperMutations before))
      (inventoryMutations groups sets)).sets.keys ↔ x ∈ sets.map (·.name) := by
  obtain ⟨-, hk0, -, -⟩ := wrappers_empty before
  obtain ⟨hc, cc, hg⟩ := runMutations_groups (runMutations .empty (wrapperMutations before)) groups
  rw [inventoryMutations, runMutations_append, hg, mem_keys_sets]
  refine ⟨fun h => h.elim (fun h => ?_) id, .inr⟩
  obtain ⟨w, hw, rfl⟩ := List.mem_map.mp (hk0 x h)
  exact hlisted w hw

/-- Wrappers registered before an inventory that binds their tests are all consumed by it. -/
lemma noWrappers_inventory (before : List (List Char × List Char × Nat))
    (groups : List HandleGroup) (sets : List SetEntry)
    (hb : ∀ w ∈ before, (runMutations (runMutations .empty (wrapperMutations before))
      (inventoryMutations groups sets)).Holds w.1 w.2.1) :
    NoWrappers (runMutations (runMutations .empty (wrapperMutations before))
      (inventoryMutations groups sets)) := fun s => by
  obtain ⟨-, -, -, hp0⟩ := wrappers_empty before
  have hinv := (Inv.empty.runMutations (wrapperMutations before)).runMutations
    (inventoryMutations groups sets)
  refine StdMap.size_eq_zero _ fun t ht => ?_
  obtain ⟨w, hw, rfl, rfl⟩ := hp0 _ _ (mem_wrapper_inventory ht)
  obtain ⟨p, hp, -⟩ := hb w hw
  rw [lookup_eq, Option.join_eq_some] at hp
  rw [StdMap.mem_keys_iff, hinv.noPending _ _ _ _ (find?_testset hp) hp] at ht
  exact Bool.false_ne_true ht

/-- The names a well-formed inventory generates for set `s`, given the handles' context
lists `ctxvec`: for each listed test of `s`, in order, its bare name without a handle, one
name per context of its handle's list otherwise. -/
def inventoryNames (sets : List SetEntry) (ctxvec : StdMap Nat (List (List Char)))
    (s : List Char) : List (List Char) :=
  (sets.filter (·.name = s)).flatMap fun e => (e.tests.getD []).flatMap fun t =>
    genNames t.name (t.hid.getD 0) (ctxvec.get (t.hid.getD 0) [])

/-- **What the kernel lists is what the enumeration returns, whenever the wrappers are
registered.** From the library's initial state, with wrappers for listed tests registered
before `query_testsets` (as static initializers may) or after it, once `query_testsets` has
read a well-formed inventory of a compatible version, a full enumeration returns each listed
set once, in key order, with the names generated for its listed tests (the bare name, or one
name per context of the test's handle), then one empty list that resets the cursor. -/
theorem queryTestsets_enumerates_inventory (latest : Version) (ack : Int) (q : QueryAttrs)
    (groups : List HandleGroup) (sets : List SetEntry)
    (before after : List (List Char × List Char × Nat)) (hack : 0 ≤ ack)
    (hv : isCompatible latest (q.version.getD defaultKernelVersion) = true)
    (hh : q.hlist.getD [] = groups.flatMap HandleGroup.attrs) (hn : q.num.isSome)
    (hl : q.list.getD [] = sets.flatMap SetEntry.attrs)
    (hlisted : ∀ w ∈ before ++ after, ∃ e ∈ sets, e.name = w.1 ∧
      ∃ t ∈ e.tests.getD [], t.name = w.2.1) :
    let st := runMutations (queryTestsets latest ack q
      (runMutations .empty (wrapperMutations before))).2 (wrapperMutations after)
    ∃ L : List (List Char), L.Sorted (· < ·) ∧ (∀ s, s ∈ L ↔ s ∈ sets.map (·.name)) ∧
      enumerate (L.length + 1) st =
        L.map (fun s => (inventoryNames sets st.handleToCtxvec s, some s)) ++ [([], none)] := by
  intro st
  obtain ⟨⟨ws, kts, hw0⟩, -, hn0, -⟩ := wrappers_empty before
  set st0 := runMutations .empty (wrapperMutations before)
  set st1 := runMutations st0 (inventoryMutations groups sets)
  have hq : (queryTestsets latest ack q st0).2 = st1 := by
    simp only [queryTestsets, if_neg (not_lt.2 hack),
      parseQuery_inventory latest q _ groups sets hv hh hn hl, st1]
  have happ := appliesInventory_runMutations st0 groups sets fun _ _ => by rw [hw0]; rfl
  -- every listed test is bound after the query
  have hholds : ∀ w ∈ before ++ after, st1.Holds w.1 w.2.1 := fun w hw => by
    obtain ⟨e, he, hs, t, ht, htn⟩ := hlisted w hw
    exact hs ▸ htn ▸ happ.holds e he t ht
  obtain ⟨hctx, hcur, hkeys, hsets⟩ := boundWrappers st1 after fun w hw =>
    hholds w (List.mem_append_right _ hw)
  have hst : st = runMutations st1 (wrapperMutations after) := by simp only [st, hq]
  rw [hst]
  set st := runMutations st1 (wrapperMutations after)
  -- the sets map holds the listed sets, without a pending wrapper, with their names
  have hmem : ∀ x, x ∈ st.sets.keys ↔ x ∈ sets.map (·.name) := fun x => by
    rw [hkeys]
    refine mem_keys_inventory before groups sets (fun w hw => ?_) x
    obtain ⟨e, he, hs, -⟩ := hlisted w (List.mem_append_left _ hw)
    exact hs ▸ List.mem_map_of_mem _ he
  have hwr : NoWrappers st := fun s => by
    rw [(hsets s).2]
    exact noWrappers_inventory before groups sets (fun w hw =>
      hholds w (List.mem_append_left _ hw)) s
  refine ⟨st.sets.keys, st.sets.sorted, hmem, ?_⟩
  rw [enumerate_of_noWrappers (hcur.trans ?_) hwr]
  · refine congrArg (· ++ _) (List.map_congr_left fun s _ => ?_)
    rw [(hsets s).1, happ.testNames, hn0, List.nil_append, hctx]
    rfl
  · exact (cur_respects.runMutations st0 _).trans (hw0 ▸ rfl)

/-- Handle `1` with context `c`, set `s` with test `t` on that handle, set `e` without a test
list, and a wrapper for `s.t` registered before the query. -/
theorem queryTestsets_enumerates_wrapped_test :
    let groups : List HandleGroup := [⟨1, [⟨"c".toList, none⟩]⟩]
    let sets : List SetEntry := [⟨"s".toList, some [⟨some 1, "t".toList⟩]⟩, ⟨"e".toList, none⟩]
    let st := runMutations (queryTestsets defaultKernelVersion 0
      ⟨none, some (groups.flatMap HandleGroup.attrs), some 2, some (sets.flatMap SetEntry.attrs)⟩
      (runMutations .empty (wrapperMutations [("s".toList, "t".toList, 7)]))).2
      (wrapperMutations [])
    ∃ L : List (List Char), L.Sorted (· < ·) ∧ (∀ s, s ∈ L ↔ s ∈ sets.map (·.name)) ∧
      enumerate (L.length + 1) st =
        L.map (fun s => (inventoryNames sets st.handleToCtxvec s, some s)) ++ [([], none)] :=
  queryTestsets_enumerates_inventory defaultKernelVersion 0 _ _ _ _ _ le_rfl rfl rfl rfl rfl
    (by decide)

/-- There the empty set `e` comes first in key order, and its empty name list is returned
before the name of `s`'s test. -/
example :
    enumerate 3 (queryTestsets defaultKernelVersion 0
      ⟨none, some [.hid 1, .list [.str "c".toList]], some 2,
        some [.str "s".toList, .test [.hid 1, .str "t".toList], .str "e".toList]⟩
      (runMutations .empty (wrapperMutations [("s".toList, "t".toList, 7)]))).2 =
      [([], some "e".toList), (["t_c".toList], some "s".toList), ([], none)] := by
  decide

end KernelTestMgr

end KtfInt
