import Mathlib.Algebra.Group.Int
import KtfInt.Registry.Basic

/-!
The query response of the KTF netlink protocol and its interpreter `parse_query` (with
`parse_one_set`), which registers the kernel's handles, contexts, sets and tests in the
`KernelTestMgr`.

A response is read as the attributes `genlmsg_parse` leaves in `attrs[]`; nested attributes
are a tree whose nodes carry the payload the parser reads from them. The parser calls into
`kmgr()` as it goes, so the model threads the manager through every loop, and an early
`return` leaves every update made before it in place.

* `parseQuery_of_incompatible`: a response whose major or minor version differs from the
  library's is skipped before anything is registered;
* `parseHlist_unexpected`, `parseSetList_unexpected`, `parseOneSet_unexpected`: an attribute
  a loop does not expect stops it with `NL_SKIP`, keeping what the loop registered before it;
* `parseQuery_rejections`: what a rejected response leaves registered, at each place a
  rejection can happen;
* `parseQuery_mutations`: a response acts on the registry only through the registry's own
  mutations;
* `lookup_parseQuery`: a response rebinds only the tests it announces.
-/

namespace KtfInt

/-! ### Attributes -/

/-- A nested netlink attribute, by its tag `KTF_A_*`, with the payload the parsers read from
it (`nla_get_u32` or `nla_get_string`; `LIST` and `TEST` nest). `other` is any tag the
parsers do not name. -/
inductive Attr where
  | hid (v : Nat)
  | str (s : List Char)
  | num (v : Nat)
  | stat (v : Nat)
  | file (s : List Char)
  | list (as : List Attr)
  | test (as : List Attr)
  | other (tag : Nat)
  deriving Repr

/-- The tags the handle-table loop of `parse_query` names: `HID` and `LIST`. -/
def Attr.isHandleEntry : Attr → Bool
  | .hid _ | .list _ => true
  | _ => false

/-- The tags the set-list loop of `parse_query` names: `STR` and `TEST`. -/
def Attr.isSetEntry : Attr → Bool
  | .str _ | .test _ => true
  | _ => false

/-- The tags `parse_one_set` names: `HID` and `STR`. -/
def Attr.isTestEntry : Attr → Bool
  | .hid _ | .str _ => true
  | _ => false

/-- A KTF protocol version: the fields `KTF_VERSION(MAJOR|MINOR|MICRO|BUILD, v)` of the
64-bit word. -/
structure Version where
  major : Nat
  minor : Nat
  micro : Nat
  build : Nat
  deriving DecidableEq, Repr

/-- The version a kernel that reports none has: `KTF_VERSION_SET(MAJOR, 0ULL) |
KTF_VERSION_SET(MINOR, 1ULL)`. -/
def defaultKernelVersion : Version := ⟨0, 1, 0, 0⟩

/-- `is_compatible`: the same major and the same minor version. -/
def isCompatible (latest kernelVersion : Version) : Bool :=
  latest.major == kernelVersion.major && latest.minor == kernelVersion.minor

/-- The attributes of a query response `parse_query` reads, `attrs[KTF_A_*]` (`none` for a
NULL slot). -/
structure QueryAttrs where
  version : Option Version
  hlist : Option (List Attr)
  num : Option Nat
  list : Option (List Attr)

/-- `NL_OK` of libnl's `enum nl_cb_action`. -/
def nlOk : Int := 0

/-- `NL_SKIP` of libnl's `enum nl_cb_action`. -/
def nlSkip : Int := 1

/-- A `u32` payload stored in an `int`: values from `2 ^ 31` on wrap to negative ones. -/
def int32OfU32 (v : Nat) : Int := if v < 2 ^ 31 then v else (v : Int) - 2 ^ 32

/-! ### The interpreter -/

/-- `parse_one_set`: the entries of one set's `TEST` attribute. `HID` sets the handle of the
next test, `STR` adds the test with it and resets it to `0`; any other tag returns
`NL_SKIP`. -/
def parseOneSet (setname : List Char) : List Attr → Nat → KernelTestMgr → Int × KernelTestMgr
  | [], _, st => (nlOk, st)
  | .hid h :: rest, _, st => parseOneSet setname rest h st
  | .str msg :: rest, handleId, st => parseOneSet setname rest 0 (st.addTest setname msg handleId)
  | _ :: _, _, st => (nlSkip, st)

/-- The inner loop over a `LIST` group of the handle table: `STR` names a context and
appends it to `contexts`, `NUM` sets `type_id`, `STAT` adds a configurable context for the
context named last; the switch has no default, so other tags are passed over. The result is
`ctx`, `type_id` and `contexts` as the loop leaves them, and the manager. -/
def parseCtxList (handleId : Nat) :
    List Attr → List Char → Nat → List (List Char) → KernelTestMgr →
      List Char × Nat × List (List Char) × KernelTestMgr
  | [], ctx, typeId, contexts, st => (ctx, typeId, contexts, st)
  | .str s :: rest, _, typeId, contexts, st =>
    parseCtxList handleId rest s typeId (contexts ++ [s]) st
  | .num n :: rest, ctx, _, contexts, st => parseCtxList handleId rest ctx n contexts st
  | .stat v :: rest, ctx, typeId, contexts, st =>
    parseCtxList handleId rest ctx typeId contexts
      (st.addConfigurableContext ctx typeId handleId (int32OfU32 v))
  | _ :: rest, ctx, typeId, contexts, st => parseCtxList handleId rest ctx typeId contexts st

/-- The handle-table loop of `parse_query`, from `ctx`, `handle_id` and `type_id`: `HID`
sets the handle, a `LIST` group is read and its contexts become the handle's list
(`add_cset`), with the handle reset to `0` and `contexts` cleared; any other tag returns
`NL_SKIP` (`some` of the code returned, `none` when the loop ends). -/
def parseHlist : List Attr → List Char → Nat → Nat → KernelTestMgr → Option Int × KernelTestMgr
  | [], _, _, _, st => (none, st)
  | .hid h :: rest, ctx, _, typeId, st => parseHlist rest ctx h typeId st
  | .list l :: rest, ctx, handleId, typeId, st =>
    let g := parseCtxList handleId l ctx typeId [] st
    parseHlist rest g.1 0 g.2.1 (g.2.2.2.addCset handleId g.2.2.1)
  | _ :: _, _, _, _, st => (some nlSkip, st)

/-- The set-list loop of `parse_query`, from `setname`: `STR` names the set, `TEST` is read by
`parse_one_set`, whose code other than `NL_OK` is returned; after either, `find_add_set` so
that a set with no tests is registered too. Any other tag returns `NL_SKIP`. -/
def parseSetList : List Attr → List Char → KernelTestMgr → Option Int × KernelTestMgr
  | [], _, st => (none, st)
  | .str s :: rest, _, st => parseSetList rest s (st.findAddSet s)
  | .test l :: rest, setname, st =>
    let stat := parseOneSet setname l 0 st
    if stat.1 ≠ nlOk then (some stat.1, stat.2)
    else parseSetList rest setname (stat.2.findAddSet setname)
  | _ :: _, _, st => (some nlSkip, st)

/-- The handle table of `parse_query`, read when `attrs[KTF_A_HLIST]` is present, from an
empty `ctx` and handle and type `0`. -/
def parseHandleTable (hlist : Option (List Attr)) (st : KernelTestMgr) :
    Option Int × KernelTestMgr :=
  match hlist with
  | some l => parseHlist l [] 0 0 st
  | none => (none, st)

/-- The part of `parse_query` after the version check: the handle table, then `-1` without a
set count, then the set list if present. -/
def parseInventory (hlist : Option (List Attr)) (num : Option Nat) (list : Option (List Attr))
    (st : KernelTestMgr) : Int × KernelTestMgr :=
  let h := parseHandleTable hlist st
  match h.1 with
  | some stat => (stat, h.2)
  | none => match num with
    | none => (-1, h.2)
    | some _ => match list with
      | none => (nlOk, h.2)
      | some l =>
        let s := parseSetList l [] h.2
        (s.1.getD nlOk, s.2)

/-- `parse_query(msg, attrs)` against the library's `KTF_VERSION_LATEST`: a version other
than the library's is logged, and skipped unless compatible. -/
def parseQuery (latest : Version) (attrs : QueryAttrs) (st : KernelTestMgr) :
    Int × KernelTestMgr :=
  let kernelVersion := attrs.version.getD defaultKernelVersion
  if kernelVersion ≠ latest ∧ !isCompatible latest kernelVersion then (nlSkip, st)
  else parseInventory attrs.hlist attrs.num attrs.list st

/-- The set name the set-list loop holds after the entries `l`: that of their last `STR`. -/
def setnameAfter : List Attr → List Char → List Char
  | [], setname => setname
  | .str s :: rest, _ => setnameAfter rest s
  | _ :: rest, setname => setnameAfter rest setname

/-! ### The version check -/

lemma isCompatible_self (v : Version) : isCompatible v v = true := by
  simp [isCompatible]

lemma parseQuery_of_compatible {latest : Version} {attrs : QueryAttrs}
    (h : isCompatible latest (attrs.version.getD defaultKernelVersion) = true)
    (st : KernelTestMgr) :
    parseQuery latest attrs st = parseInventory attrs.hlist attrs.num attrs.list st := by
  simp [parseQuery, h]

/-- **A response of another major or minor version is skipped with `NL_SKIP`, the registry
untouched.** -/
theorem parseQuery_of_incompatible {latest : Version} {attrs : QueryAttrs}
    (h : isCompatible latest (attrs.version.getD defaultKernelVersion) = false)
    (st : KernelTestMgr) : parseQuery latest attrs st = (nlSkip, st) := by
  have hne : attrs.version.getD defaultKernelVersion ≠ latest := by
    rintro heq
    rw [heq, isCompatible_self] at h
    exact Bool.noConfusion h
  simp [parseQuery, h, hne]

/-! ### Return codes -/

/-- `parse_one_set` returns `NL_OK` or `NL_SKIP`. -/
lemma parseOneSet_code (setname : List Char) :
    ∀ (l : List Attr) (h : Nat) (st : KernelTestMgr),
      (parseOneSet setname l h st).1 = nlOk ∨ (parseOneSet setname l h st).1 = nlSkip
  | [], _, _ => .inl rfl
  | .hid _ :: rest, _, _ => parseOneSet_code setname rest _ _
  | .str _ :: rest, _, _ => parseOneSet_code setname rest _ _
  | .num _ :: _, _, _ | .stat _ :: _, _, _ | .file _ :: _, _, _ | .list _ :: _, _, _
  | .test _ :: _, _, _ | .other _ :: _, _, _ => .inr rfl

/-- The handle-table loop returns early only with `NL_SKIP`. -/
lemma parseHlist_code : ∀ (l : List Attr) (ctx : List Char) (h ty : Nat) (st : KernelTestMgr),
    (parseHlist l ctx h ty st).1 = none ∨ (parseHlist l ctx h ty st).1 = some nlSkip
  | [], _, _, _, _ => .inl rfl
  | .hid _ :: rest, _, _, _, _ => parseHlist_code rest _ _ _ _
  | .list _ :: rest, _, _, _, _ => parseHlist_code rest _ _ _ _
  | .str _ :: _, _, _, _, _ | .num _ :: _, _, _, _, _ | .stat _ :: _, _, _, _, _
  | .file _ :: _, _, _, _, _ | .test _ :: _, _, _, _, _ | .other _ :: _, _, _, _, _ => .inr rfl

lemma parseHandleTable_code (hlist : Option (List Attr)) (st : KernelTestMgr) :
    (parseHandleTable hlist st).1 = none ∨ (parseHandleTable hlist st).1 = some nlSkip := by
  cases hlist with
  | none => exact .inl rfl
  | some l => exact parseHlist_code l [] 0 0 st

/-- The set-list loop returns early only with `NL_SKIP`. -/
lemma parseSetList_code : ∀ (l : List Attr) (setname : List Char) (st : KernelTestMgr),
    (parseSetList l setname st).1 = none ∨ (parseSetList l setname st).1 = some nlSkip
  | [], _, _ => .inl rfl
  | .str _ :: rest, _, _ => parseSetList_code rest _ _
  | .test l :: rest, setname, st => by
    simp only [parseSetList]
    split
    · rename_i hne
      exact .inr (congrArg some ((parseOneSet_code setname l 0 st).resolve_left hne))
    · exact parseSetList_code rest _ _
  | .hid _ :: _, _, _ | .num _ :: _, _, _ | .stat _ :: _, _, _ | .file _ :: _, _, _
  | .list _ :: _, _, _ | .other _ :: _, _, _ => .inr rfl

/-! ### Stopping at an unexpected attribute -/

section Unexpected

variable {a : Attr} (rest : List Attr)

/-- An unexpected tag in a test list returns `NL_SKIP` with the tests before it added. -/
lemma parseOneSet_unexpected (ha : a.isTestEntry = false) (setname : List Char) :
    ∀ (l : List Attr) (h : Nat) (st : KernelTestMgr),
      parseOneSet setname (l ++ a :: rest) h st = (nlSkip, (parseOneSet setname l h st).2)
  | [], _, _ => by cases a <;> first | rfl | cases ha
  | .hid _ :: l, _, _ => parseOneSet_unexpected ha setname l _ _
  | .str _ :: l, _, _ => parseOneSet_unexpected ha setname l _ _
  | .num _ :: _, _, _ | .stat _ :: _, _, _ | .file _ :: _, _, _ | .list _ :: _, _, _
  | .test _ :: _, _, _ | .other _ :: _, _, _ => rfl

/-- An unexpected tag in the handle table returns `NL_SKIP` with the groups before it
registered. -/
lemma parseHlist_unexpected (ha : a.isHandleEntry = false) :
    ∀ (l : List Attr) (ctx : List Char) (h ty : Nat) (st : KernelTestMgr),
      parseHlist (l ++ a :: rest) ctx h ty st = (some nlSkip, (parseHlist l ctx h ty st).2)
  | [], _, _, _, _ => by cases a <;> first | rfl | cases ha
  | .hid _ :: l, _, _, _, _ => parseHlist_unexpected ha l _ _ _ _
  | .list _ :: l, _, _, _, _ => parseHlist_unexpected ha l _ _ _ _
  | .str _ :: _, _, _, _, _ | .num _ :: _, _, _, _, _ | .stat _ :: _, _, _, _, _
  | .file _ :: _, _, _, _, _ | .test _ :: _, _, _, _, _ | .other _ :: _, _, _, _, _ => rfl

/-- The set-list loop over `l ++ l'` runs `l`, then, unless it returned, `l'` from the set
name and the manager `l` left. -/
lemma parseSetList_append (l' : List Attr) :
    ∀ (l : List Attr) (setname : List Char) (st : KernelTestMgr),
      parseSetList (l ++ l') setname st =
        match parseSetList l setname st with
        | (some stat, st') => (some stat, st')
        | (none, st') => parseSetList l' (setnameAfter l setname) st'
  | [], _, _ => rfl
  | .str _ :: l, _, _ => parseSetList_append l' l _ _
  | .test tl :: l, setname, st => by
    by_cases h : (parseOneSet setname tl 0 st).1 = nlOk <;>
      simp [parseSetList, setnameAfter, h, parseSetList_append l' l]
  | .hid _ :: _, _, _ | .num _ :: _, _, _ | .stat _ :: _, _, _ | .file _ :: _, _, _
  | .list _ :: _, _, _ | .other _ :: _, _, _ => rfl

/-- An unexpected tag in the set list returns `NL_SKIP` with the entries before it
registered. -/
lemma parseSetList_unexpected (ha : a.isSetEntry = false) (l : List Attr)
    (setname : List Char) (st : KernelTestMgr) :
    parseSetList (l ++ a :: rest) setname st = (some nlSkip, (parseSetList l setname st).2) := by
  rw [parseSetList_append]
  have hc := parseSetList_code l setname st
  generalize parseSetList l setname st = r at hc ⊢
  obtain ⟨c, st'⟩ := r
  simp only at hc
  rcases hc with rfl | rfl
  · cases a <;> first | rfl | cases ha
  · rfl

/-- An unexpected tag in the test list of a set-list entry returns `NL_SKIP`: the entries
before it are registered, and the tests of the list before the tag are added, but not the
closing `find_add_set` of the entry. -/
lemma parseSetList_test_unexpected (ha : a.isTestEntry = false) (l tl trest : List Attr)
    (setname : List Char) (st : KernelTestMgr) (hl : (parseSetList l setname st).1 = none) :
    parseSetList (l ++ .test (tl ++ a :: trest) :: rest) setname st =
      (some nlSkip, (parseOneSet (setnameAfter l setname) tl 0 (parseSetList l setname st).2).2) := by
  rw [parseSetList_append]
  generalize parseSetList l setname st = r at hl ⊢
  obtain ⟨c, st'⟩ := r
  simp only at hl
  subst hl
  simp [parseSetList, parseOneSet_unexpected _ ha, nlOk, nlSkip]

end Unexpected

/-! ### Rejected responses -/

section Rejection

variable {a : Attr} (rest : List Attr)

/-- A response whose handle table stops at an unexpected tag leaves the groups before it
registered, as the response made of those groups alone would. -/
lemma parseInventory_hlist_unexpected (ha : a.isHandleEntry = false) (l : List Attr)
    (num : Option Nat) (list : Option (List Attr)) (st : KernelTestMgr) :
    parseInventory (some (l ++ a :: rest)) num list st =
      (nlSkip, (parseInventory (some l) (some 0) none st).2) := by
  rcases parseHlist_code l [] 0 0 st with h | h <;>
    simp [parseInventory, parseHandleTable, parseHlist_unexpected rest ha, h]

/-- Without a set count the response returns `-1` (or the handle table's `NL_SKIP`) with the
handle table registered and the set list not read. -/
lemma parseInventory_no_num (hlist list : Option (List Attr)) (st : KernelTestMgr) :
    (parseInventory hlist none list st).1 ≠ nlOk ∧
      (parseInventory hlist none list st).2 = (parseInventory hlist (some 0) none st).2 := by
  rcases parseHandleTable_code hlist st with h | h <;> simp [parseInventory, h, nlOk, nlSkip]

/-- A response whose set list stops at an unexpected tag leaves the entries before it
registered, as the response cut before the tag would. -/
lemma parseInventory_list_unexpected (ha : a.isSetEntry = false) (hlist : Option (List Attr))
    (num : Option Nat) (l : List Attr) (st : KernelTestMgr) :
    (parseInventory hlist num (some (l ++ a :: rest)) st).1 ≠ nlOk ∧
      (parseInventory hlist num (some (l ++ a :: rest)) st).2 =
        (parseInventory hlist num (some l) st).2 := by
  rcases parseHandleTable_code hlist st with h | h <;> cases num <;>
    simp [parseInventory, h, parseSetList_unexpected rest ha, nlOk, nlSkip]

/-- A response whose test list stops at an unexpected tag, after a set list that would have
been accepted, adds the tests of the list before the tag and returns `NL_SKIP`. -/
lemma parseInventory_test_unexpected (ha : a.isTestEntry = false) (hlist : Option (List Attr))
    (num : Option Nat) (l tl trest : List Attr) (st : KernelTestMgr)
    (hl : (parseInventory hlist num (some l) st).1 = nlOk) :
    parseInventory hlist num (some (l ++ .test (tl ++ a :: trest) :: rest)) st =
      (nlSkip, (parseOneSet (setnameAfter l []) tl 0 (parseInventory hlist num (some l) st).2).2) := by
  rcases parseHandleTable_code hlist st with h | h
  · cases num with
    | none => simp [parseInventory, h, nlOk] at hl
    | some n =>
      rcases parseSetList_code l [] (parseHandleTable hlist st).2 with hs | hs
      · simp [parseInventory, h, parseSetList_test_unexpected rest ha _ _ _ _ _ hs]
      · simp [parseInventory, h, hs, nlOk, nlSkip] at hl
  · simp [parseInventory, h, nlOk, nlSkip] at hl

/-- **A rejected query response is not rolled back.** Only a version mismatch leaves the
registry untouched. An unexpected tag in the handle table returns `NL_SKIP` with the groups
before it registered; a missing set count returns a code other than `NL_OK` with the handle
table registered; an unexpected tag in the set list returns a code other than `NL_OK` with the
entries before it registered; an unexpected tag in a test list returns `NL_SKIP` with, on top
of those, the tests of the list before it added. -/
theorem parseQuery_rejections (latest : Version) (q : QueryAttrs) (st : KernelTestMgr) :
    (isCompatible latest (q.version.getD defaultKernelVersion) = false →
      parseQuery latest q st = (nlSkip, st)) ∧
    (∀ l a rest, a.isHandleEntry = false →
      parseQuery latest { q with hlist := some (l ++ a :: rest) } st =
        (nlSkip, (parseQuery latest { q with hlist := some l, num := some 0, list := none } st).2)) ∧
    (q.num = none → (parseQuery latest q st).1 ≠ nlOk ∧
      (parseQuery latest q st).2 = (parseQuery latest { q with num := some 0, list := none } st).2) ∧
    (∀ l a rest, a.isSetEntry = false →
      (parseQuery latest { q with list := some (l ++ a :: rest) } st).1 ≠ nlOk ∧
      (parseQuery latest { q with list := some (l ++ a :: rest) } st).2 =
        (parseQuery latest { q with list := some l } st).2) ∧
    (∀ l tl a trest rest, a.isTestEntry = false →
      (parseQuery latest { q with list := some l } st).1 = nlOk →
      parseQuery latest { q with list := some (l ++ .test (tl ++ a :: trest) :: rest) } st =
        (nlSkip, (parseOneSet (setnameAfter l []) tl 0
          (parseQuery latest { q with list := some l } st).2).2)) := by
  cases hc : isCompatible latest (q.version.getD defaultKernelVersion)
  · simp [parseQuery_of_incompatible, hc, nlOk, nlSkip]
  · simp only [parseQuery_of_compatible, hc]
    refine ⟨nofun, fun l a rest ha => parseInventory_hlist_unexpected rest ha l _ _ _,
      fun hn => hn ▸ parseInventory_no_num _ _ _,
      fun l a rest ha => parseInventory_list_unexpected rest ha _ _ l _,
      fun l tl a trest rest ha hl => parseInventory_test_unexpected rest ha _ _ l tl trest _ hl⟩

/-- A set `s` whose test list is `[STR t, NUM 0]`: the response is skipped, with `t` added. -/
theorem parseQuery_rejects_num_in_test_list :
    (parseQuery defaultKernelVersion ⟨none, none, some 1, some [.str "s".toList]⟩ .empty).1 =
        nlOk ∧
      parseQuery defaultKernelVersion
        ⟨none, none, some 1, some ([.str "s".toList] ++ [.test ([.str "t".toList] ++ [.num 0])])⟩
        .empty =
      (nlSkip, (parseOneSet (setnameAfter [.str "s".toList] []) [.str "t".toList] 0
        (parseQuery defaultKernelVersion ⟨none, none, some 1, some [.str "s".toList]⟩
          .empty).2).2) :=
  ⟨by decide, (parseQuery_rejections defaultKernelVersion ⟨none, none, some 1, none⟩ .empty
    ).2.2.2.2 _ _ _ _ _ rfl (by decide)⟩

/-- A response of the library's own version with a handle table and no set count returns
`-1`, and the handle's context list is registered all the same. -/
theorem parseQuery_no_num_keeps_handles :
    let q : QueryAttrs := ⟨some ⟨1, 0, 0, 0⟩, some [.hid 1, .list [.str "c".toList]], none, none⟩
    (parseQuery ⟨1, 0, 0, 0⟩ q .empty).1 = -1 ∧
      (parseQuery ⟨1, 0, 0, 0⟩ q .empty).2.handleToCtxvec.entries = [(1, ["c".toList])] ∧
      KernelTestMgr.empty.handleToCtxvec.entries = [] := by
  decide

end Rejection

/-! ### The interpreter changes the registry only through its mutations -/

lemma parseOneSet_mutations (setname : List Char) :
    ∀ (l : List Attr) (hid : Nat) (st : KernelTestMgr),
      ∃ ms, (parseOneSet setname l hid st).2 = runMutations st ms
  | [], _, _ => ⟨[], rfl⟩
  | .hid _ :: rest, _, st => parseOneSet_mutations setname rest _ st
  | .str t :: rest, hid, st =>
    let ⟨ms, h⟩ := parseOneSet_mutations setname rest 0 (st.addTest setname t hid)
    ⟨.addTest setname t hid :: ms, h⟩
  | .num _ :: _, _, _ | .stat _ :: _, _, _ | .file _ :: _, _, _ | .list _ :: _, _, _
  | .test _ :: _, _, _ | .other _ :: _, _, _ => ⟨[], rfl⟩

lemma parseCtxList_mutations (hid : Nat) :
    ∀ (l : List Attr) (ctx : List Char) (ty : Nat) (cs : List (List Char)) (st : KernelTestMgr),
      ∃ ms, (parseCtxList hid l ctx ty cs st).2.2.2 = runMutations st ms
  | [], _, _, _, _ => ⟨[], rfl⟩
  | .stat v :: rest, ctx, ty, cs, st =>
    let m := Mutation.addConfigurableContext ctx ty hid (int32OfU32 v)
    let ⟨ms, h⟩ := parseCtxList_mutations hid rest ctx ty cs (Mutation.apply st m)
    ⟨m :: ms, h⟩
  | .str _ :: rest, _, _, _, st | .num _ :: rest, _, _, _, st | .hid _ :: rest, _, _, _, st
  | .file _ :: rest, _, _, _, st | .list _ :: rest, _, _, _, st | .test _ :: rest, _, _, _, st
  | .other _ :: rest, _, _, _, st => parseCtxList_mutations hid rest _ _ _ st

lemma parseHlist_mutations :
    ∀ (l : List Attr) (ctx : List Char) (hid ty : Nat) (st : KernelTestMgr),
      ∃ ms, (parseHlist l ctx hid ty st).2 = runMutations st ms
  | [], _, _, _, _ => ⟨[], rfl⟩
  | .hid _ :: rest, _, _, _, st => parseHlist_mutations rest _ _ _ st
  | .list l :: rest, ctx, hid, ty, st =>
    let g := parseCtxList hid l ctx ty [] st
    let ⟨ms, h⟩ := parseCtxList_mutations hid l ctx ty [] st
    let ⟨ms', h'⟩ := parseHlist_mutations rest g.1 0 g.2.1 (g.2.2.2.addCset hid g.2.2.1)
    ⟨ms ++ .addCset hid g.2.2.1 :: ms', by rw [runMutations_append, ← h]; exact h'⟩
  | .str _ :: _, _, _, _, _ | .num _ :: _, _, _, _, _ | .stat _ :: _, _, _, _, _
  | .file _ :: _, _, _, _, _ | .test _ :: _, _, _, _, _ | .other _ :: _, _, _, _, _ => ⟨[], rfl⟩

lemma parseSetList_mutations :
    ∀ (l : List Attr) (setname : List Char) (st : KernelTestMgr),
      ∃ ms, (parseSetList l setname st).2 = runMutations st ms
  | [], _, _ => ⟨[], rfl⟩
  | .str s :: rest, _, st =>
    let ⟨ms, h⟩ := parseSetList_mutations rest s (st.findAddSet s)
    ⟨.findAddSet s :: ms, h⟩
  | .test l :: rest, setname, st => by
    obtain ⟨ms, h⟩ := parseOneSet_mutations setname l 0 st
    simp only [parseSetList]
    split
    · exact ⟨ms, h⟩
    · obtain ⟨ms', h'⟩ :=
        parseSetList_mutations rest setname ((parseOneSet setname l 0 st).2.findAddSet setname)
      exact ⟨ms ++ .findAddSet setname :: ms', by rw [runMutations_append, ← h]; exact h'⟩
  | .hid _ :: _, _, _ | .num _ :: _, _, _ | .stat _ :: _, _, _ | .file _ :: _, _, _
  | .list _ :: _, _, _ | .other _ :: _, _, _ => ⟨[], rfl⟩

lemma parseInventory_mutations (hlist : Option (List Attr)) (num : Option Nat)
    (list : Option (List Attr)) (st : KernelTestMgr) :
    ∃ ms, (parseInventory hlist num list st).2 = runMutations st ms := by
  obtain ⟨ms, h⟩ : ∃ ms, (parseHandleTable hlist st).2 = runMutations st ms := by
    cases hlist with
    | none => exact ⟨[], rfl⟩
    | some l => exact parseHlist_mutations l [] 0 0 st
  dsimp only [parseInventory]
  split
  · exact ⟨ms, h⟩
  · split
    · exact ⟨ms, h⟩
    · split
      · exact ⟨ms, h⟩
      · obtain ⟨ms', h'⟩ := parseSetList_mutations _ [] (parseHandleTable hlist st).2
        exact ⟨ms ++ ms', by rw [runMutations_append, ← h]; exact h'⟩

/-- **A query response acts on the registry only through the registry's own mutations**,
whatever it holds and wherever it is rejected: the manager it leaves is the one a sequence
of `add_cset`, `add_configurable_context`, `find_add_set` and `add_test` calls leaves. -/
lemma parseQuery_mutations (latest : Version) (q : QueryAttrs) (st : KernelTestMgr) :
    ∃ ms, (parseQuery latest q st).2 = runMutations st ms := by
  cases hc : isCompatible latest (q.version.getD defaultKernelVersion)
  · rw [parseQuery_of_incompatible hc]; exact ⟨[], rfl⟩
  · rw [parseQuery_of_compatible hc]; exact parseInventory_mutations _ _ _ _

/-! ### An answer binds only the tests it announces -/

/-- The name an `STR` attribute carries. -/
def Attr.strArg : Attr → Option (List Char)
  | .str s => some s
  | _ => none

/-- The (set, test) pairs a set list names: each `STR` name inside a `TEST` attribute, with the
set the last `STR` before that attribute named. -/
def listedTests : List Attr → List Char → List (List Char × List Char)
  | [], _ => []
  | .str s :: rest, _ => listedTests rest s
  | .test l :: rest, setname =>
    (l.filterMap Attr.strArg).map (setname, ·) ++ listedTests rest setname
  | _ :: rest, setname => listedTests rest setname

/-- The (set, test) pairs an answer to a query announces. -/
def QueryAttrs.announced (q : QueryAttrs) : List (List Char × List Char) :=
  listedTests (q.list.getD []) []

lemma sets_parseCtxList (hid : Nat) :
    ∀ (l : List Attr) (ctx : List Char) (ty : Nat) (cs : List (List Char)) (st : KernelTestMgr),
      (parseCtxList hid l ctx ty cs st).2.2.2.sets = st.sets
  | [], _, _, _, _ => rfl
  | a :: rest, _, _, _, _ => by cases a <;> exact sets_parseCtxList hid rest _ _ _ _

lemma sets_parseHlist :
    ∀ (l : List Attr) (ctx : List Char) (hid ty : Nat) (st : KernelTestMgr),
      (parseHlist l ctx hid ty st).2.sets = st.sets
  | [], _, _, _, _ => rfl
  | .hid _ :: rest, _, _, _, _ => sets_parseHlist rest _ _ _ _
  | .list l :: rest, ctx, hid, ty, st =>
    (sets_parseHlist rest _ _ _ _).trans (sets_parseCtxList hid l ctx ty [] st)
  | .str _ :: _, _, _, _, _ | .num _ :: _, _, _, _, _ | .stat _ :: _, _, _, _, _
  | .file _ :: _, _, _, _, _ | .test _ :: _, _, _, _, _ | .other _ :: _, _, _, _, _ => rfl

/-- The handle table binds no test. -/
lemma lookup_parseHandleTable (hlist : Option (List Attr)) (st : KernelTestMgr)
    (s t : List Char) : (parseHandleTable hlist st).2.lookup s t = st.lookup s t := by
  have hs : (parseHandleTable hlist st).2.sets = st.sets := by
    cases hlist with
    | none => rfl
    | some l => exact sets_parseHlist l [] 0 0 st
  simp only [KernelTestMgr.lookup, hs]

/-- `parse_one_set` rebinds only the tests its `STR` entries name, in its own set. -/
lemma lookup_parseOneSet (setname : List Char) :
    ∀ (l : List Attr) (hid : Nat) (st : KernelTestMgr) (s t : List Char),
      ¬(s = setname ∧ t ∈ l.filterMap Attr.strArg) →
        (parseOneSet setname l hid st).2.lookup s t = st.lookup s t
  | [], _, _, _, _, _ => rfl
  | .hid _ :: rest, _, st, s, t, h =>
    lookup_parseOneSet setname rest _ st s t (by simpa [Attr.strArg] using h)
  | .str t' :: rest, hid, st, s, t, h => by
    have hrest : ¬(s = setname ∧ t ∈ rest.filterMap Attr.strArg) :=
      fun ⟨hs, ht⟩ => h ⟨hs, by simp [Attr.strArg, ht]⟩
    refine (lookup_parseOneSet setname rest 0 _ s t hrest).trans ?_
    rw [KernelTestMgr.lookup_addTest, if_neg]
    rintro ⟨rfl, rfl⟩
    exact h ⟨rfl, by simp [Attr.strArg]⟩
  | .num _ :: _, _, _, _, _, _ | .stat _ :: _, _, _, _, _, _ | .file _ :: _, _, _, _, _, _
  | .list _ :: _, _, _, _, _, _ | .test _ :: _, _, _, _, _, _
  | .other _ :: _, _, _, _, _, _ => rfl

/-- The set-list loop rebinds only the tests the list names. -/
lemma lookup_parseSetList :
    ∀ (l : List Attr) (setname : List Char) (st : KernelTestMgr) (s t : List Char),
      (s, t) ∉ listedTests l setname → (parseSetList l setname st).2.lookup s t = st.lookup s t
  | [], _, _, _, _, _ => rfl
  | .str s' :: rest, _, st, s, t, h =>
    (lookup_parseSetList rest s' (st.findAddSet s') s t h).trans
      (KernelTestMgr.lookup_findAddSet st s' s t)
  | .test l :: rest, setname, st, s, t, h => by
    rw [listedTests, List.mem_append, not_or] at h
    have hone := lookup_parseOneSet setname l 0 st s t fun ⟨hs, ht⟩ =>
      h.1 (hs ▸ List.mem_map_of_mem _ ht)
    simp only [parseSetList]
    split
    · exact hone
    · rw [lookup_parseSetList rest setname _ s t h.2, KernelTestMgr.lookup_findAddSet, hone]
  | .hid _ :: _, _, _, _, _, _ | .num _ :: _, _, _, _, _, _ | .stat _ :: _, _, _, _, _, _
  | .file _ :: _, _, _, _, _, _ | .list _ :: _, _, _, _, _, _
  | .other _ :: _, _, _, _, _, _ => rfl

/-- **A query answer rebinds only the tests it announces**, whatever it holds and wherever it
is rejected. -/
lemma lookup_parseQuery (latest : Version) (q : QueryAttrs) (st : KernelTestMgr)
    (s t : List Char) (h : (s, t) ∉ q.announced) :
    (parseQuery latest q st).2.lookup s t = st.lookup s t := by
  have hl := lookup_parseHandleTable q.hlist st s t
  cases hc : isCompatible latest (q.version.getD defaultKernelVersion)
  · rw [parseQuery_of_incompatible hc]
  rw [parseQuery_of_compatible hc]
  dsimp only [parseInventory]
  split
  · exact hl
  · split
    · exact hl
    · split
      · exact hl
      · next l hlist =>
        rw [QueryAttrs.announced, hlist, Option.getD_some] at h
        exact (lookup_parseSetList l [] _ s t h).trans hl

end KtfInt
