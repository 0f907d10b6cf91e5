import KtfInt.Netlink.Query

/-!
The run-result response of the KTF netlink protocol and its interpreter `parse_result`, which
reports each check of a kernel test to the installed `handle_test`.

The result list is read with the data of the check in progress, `result`, `file`, `line` and
`report`: `STAT` starts a check, after reporting the one in progress, and the other tags set
its fields; the check in progress is reported once more after the loop. The first `STAT`
therefore reports the defaults, with result `-1`. The counters `assert_cnt` and `fail_cnt` are
never read, and the top-level `STAT` is only logged.

* `parseResultList_append`: the loop over `l ++ l'` runs `l`, then `l'` from the check `l`
  left in progress;
* `parseResult_unexpected`: **an unexpected tag drops the check in progress**: the response
  is skipped, and the check read last before the tag is never reported;
* `parseResultList_check`: a check, `STAT` then `FILE`, `NUM` and `STR` in any order, reports
  the check in progress before it and leaves itself in progress;
* `parseResult_reports_each_check`: **each check is reported with its own data**, after the
  defaults, in order, its status and line read as signed 32-bit values;
* `parseCb`: the dispatch of a received message to `parse_query` or `parse_result` by its
  `TYPE`; `parseCb_mutations`: a message changes the registry only through its mutations.
-/

namespace KtfInt

/-- The tags the loop of `parse_result` names: `STAT`, `FILE`, `NUM` and `STR`. -/
def Attr.isResultEntry : Attr → Bool
  | .stat _ | .file _ | .num _ | .str _ => true
  | _ => false

/-- A call `handle_test(result, file, line, report)`. -/
structure TestReport where
  result : Int
  file : List Char
  line : Int
  report : List Char
  deriving DecidableEq, Repr

/-- The check in progress before the first `STAT`: `result = -1`, `file = "no_file"`,
`line = 0`, `report = "no_report"`. -/
def TestReport.initial : TestReport := ⟨-1, "no_file".toList, 0, "no_report".toList⟩

/-- The loop of `parse_result` from the check in progress `cur`: the reports made, the check
in progress at the end, and `some` of the code of an early return. `nla_get_string` of a
present attribute is never NULL, so the `no_file` and `no_report` fallbacks do not fire. -/
def parseResultList : List Attr → TestReport → List TestReport × TestReport × Option Int
  | [], cur => ([], cur, none)
  | .stat v :: rest, cur =>
    let r := parseResultList rest { cur with result := int32OfU32 v }
    (cur :: r.1, r.2)
  | .file f :: rest, cur => parseResultList rest { cur with file := f }
  | .num n :: rest, cur => parseResultList rest { cur with line := int32OfU32 n }
  | .str s :: rest, cur => parseResultList rest { cur with report := s }
  | _ :: _, cur => ([], cur, some nlSkip)

/-- `parse_result(msg, attrs)` on `attrs[KTF_A_LIST]`: the calls of `handle_test`, in order,
and the code returned. After the loop the check in progress is reported. -/
def parseResult (list : Option (List Attr)) : List TestReport × Int :=
  match list with
  | none => ([], nlOk)
  | some l =>
    let r := parseResultList l .initial
    match r.2.2 with
    | some code => (r.1, code)
    | none => (r.1 ++ [r.2.1], nlOk)

/-! ### The loop -/

/-- The loop over `l ++ l'` runs `l`, then, unless it returned, `l'` from the check `l` left in
progress. -/
lemma parseResultList_append (l' l : List Attr) (cur : TestReport) :
    parseResultList (l ++ l') cur =
      match (parseResultList l cur).2.2 with
      | some _ => parseResultList l cur
      | none =>
        let r := parseResultList l' (parseResultList l cur).2.1
        ((parseResultList l cur).1 ++ r.1, r.2) := by
  induction l generalizing cur with
  | nil => rfl
  | cons x l ih =>
    cases x with
    | stat v =>
      simp only [List.cons_append, parseResultList, List.append_eq, ih]
      cases (parseResultList l { cur with result := int32OfU32 v }).2.2 <;> rfl
    | file _ | num _ | str _ => exact ih _
    | hid _ | list _ | test _ | other _ => rfl

/-- A list of expected tags runs to its end. -/
lemma parseResultList_code_none :
    ∀ (l : List Attr) (cur : TestReport), (∀ a ∈ l, a.isResultEntry = true) →
      (parseResultList l cur).2.2 = none
  | [], _, _ => rfl
  | .stat _ :: l, _, h | .file _ :: l, _, h | .num _ :: l, _, h | .str _ :: l, _, h =>
    parseResultList_code_none l _ fun a ha => h a (.tail _ ha)
  | .hid _ :: _, _, h | .list _ :: _, _, h | .test _ :: _, _, h | .other _ :: _, _, h =>
    nomatch h _ (.head _)

/-- **An unexpected tag drops the check in progress.** After a run of expected tags, an
unexpected one makes `parse_result` return `NL_SKIP` with the reports the accepted prefix
makes, less its last: the check read last is never reported. -/
theorem parseResult_unexpected {a : Attr} (ha : a.isResultEntry = false) (l rest : List Attr)
    (hl : ∀ x ∈ l, x.isResultEntry = true) :
    parseResult (some (l ++ a :: rest)) = ((parseResult (some l)).1.dropLast, nlSkip) := by
  have hc := parseResultList_code_none l .initial hl
  have ha' : parseResultList (a :: rest) (parseResultList l .initial).2.1 =
      ([], (parseResultList l .initial).2.1, some nlSkip) := by
    cases a <;> first | rfl | cases ha
  simp [parseResult, parseResultList_append, hc, ha']

/-- A check of result `1` at `f.c`, line `7`, then an unknown tag: only the defaults are
reported. -/
theorem parseResult_unexpected_after_check :
    (∀ x ∈ [Attr.stat 1, .file "f.c".toList, .num 7], x.isResultEntry = true) ∧
      parseResult (some ([.stat 1, .file "f.c".toList, .num 7] ++ .other 99 :: [])) =
        ((parseResult (some [.stat 1, .file "f.c".toList, .num 7])).1.dropLast, nlSkip) ∧
      (parseResult (some [.stat 1, .file "f.c".toList, .num 7])).1 =
        [.initial, ⟨1, "f.c".toList, 7, "no_report".toList⟩] :=
  ⟨by decide, parseResult_unexpected (show (Attr.other 99).isResultEntry = false from rfl) _ _
    (by decide), by decide⟩


/-! ### Well-formed result lists -/

/-- One check of a result list: its `STAT`, `FILE`, `NUM` and `STR` payloads. -/
structure ResultCheck where
  stat : Nat
  file : List Char
  line : Nat
  report : List Char

/-- The `handle_test` call that reports a check: the `u32` payloads of `STAT` and `NUM` are
stored in `int`s. -/
def ResultCheck.toReport (c : ResultCheck) : TestReport :=
  ⟨int32OfU32 c.stat, c.file, int32OfU32 c.line, c.report⟩

/-- The entries `g` of a result list encode check `c`: `STAT`, then `FILE`, `NUM` and `STR` in
some order. -/
def ResultCheck.Encodes (c : ResultCheck) (g : List Attr) : Prop :=
  ∃ rest, g = .stat c.stat :: rest ∧ rest.Perm [.file c.file, .num c.line, .str c.report]

/-- The tags that set a field of the check in progress: `FILE`, `NUM` and `STR`. -/
def Attr.isField : Attr → Bool
  | .file _ | .num _ | .str _ => true
  | _ => false

/-- The check in progress after a `FILE`, `NUM` or `STR` entry. -/
def TestReport.update (cur : TestReport) : Attr → TestReport
  | .file f => { cur with file := f }
  | .num n => { cur with line := int32OfU32 n }
  | .str s => { cur with report := s }
  | _ => cur

/-- A run of `FILE`, `NUM` and `STR` entries updates the check in progress and reports
nothing. -/
lemma parseResultList_fields :
    ∀ (l : List Attr) (cur : TestReport), (∀ a ∈ l, a.isField = true) →
      parseResultList l cur = ([], l.foldl TestReport.update cur, none)
  | [], _, _ => rfl
  | .file _ :: l, _, h | .num _ :: l, _, h | .str _ :: l, _, h =>
    parseResultList_fields l _ fun a ha => h a (.tail _ ha)
  | .stat _ :: _, _, h | .hid _ :: _, _, h | .list _ :: _, _, h | .test _ :: _, _, h
  | .other _ :: _, _, h => nomatch h _ (.head _)

/-- Updates of different fields commute, so the order of `FILE`, `NUM` and `STR` in a check
does not matter. -/
lemma update_right_comm (c : ResultCheck) :
    ∀ x ∈ [Attr.file c.file, .num c.line, .str c.report],
      ∀ y ∈ [Attr.file c.file, .num c.line, .str c.report],
        ∀ cur : TestReport, (cur.update x).update y = (cur.update y).update x := by
  simp only [List.mem_cons, List.mem_singleton, List.not_mem_nil, or_false]
  rintro x (rfl | rfl | rfl) y (rfl | rfl | rfl) cur <;> rfl

/-- A check reports the one in progress before it and leaves itself in progress. -/
lemma parseResultList_check {c : ResultCheck} {g : List Attr} (hg : c.Encodes g)
    (tail : List Attr) (cur : TestReport) :
    parseResultList (g ++ tail) cur =
      (cur :: (parseResultList tail c.toReport).1, (parseResultList tail c.toReport).2) := by
  obtain ⟨rest, rfl, hp⟩ := hg
  have hf : ∀ a ∈ rest, a.isField = true := fun a ha => by
    obtain rfl | rfl | rfl : a = _ ∨ a = _ ∨ a = _ := by simpa using hp.subset ha
    all_goals rfl
  have hfold : rest.foldl TestReport.update { cur with result := int32OfU32 c.stat } =
      c.toReport := (hp.foldl_eq' (fun x hx y hy z => update_right_comm c x (hp.subset hx) y
        (hp.subset hy) z) _).trans rfl
  have key : parseResultList (rest ++ tail) { cur with result := int32OfU32 c.stat } =
      parseResultList tail c.toReport := by
    rw [parseResultList_append, parseResultList_fields rest _ hf, hfold]; rfl
  rw [List.cons_append]
  exact congrArg (fun r => (cur :: r.1, r.2)) key

/-- Checks in a row report the check in progress, then each check but the last, which they
leave in progress. -/
lemma parseResultList_checks {cs : List ResultCheck} {gs : List (List Attr)}
    (h : List.Forall₂ ResultCheck.Encodes cs gs) (cur : TestReport) :
    (parseResultList gs.flatten cur).2.2 = none ∧
      (parseResultList gs.flatten cur).1 ++ [(parseResultList gs.flatten cur).2.1] =
        cur :: cs.map ResultCheck.toReport := by
  induction h generalizing cur with
  | nil => exact ⟨rfl, rfl⟩
  | cons hcg _ ih =>
    rw [List.flatten_cons, parseResultList_check hcg]
    exact ⟨(ih _).1, congrArg (cur :: ·) (ih _).2⟩

/-- **Each check is reported with its own data.** On a result list made of checks, each a
`STAT` followed by `FILE`, `NUM` and `STR` in any order, `parse_result` calls `handle_test`
once with result `-1` and the defaults, then once per check, in order, with its status and
line as signed 32-bit values, its file and its report, and returns `NL_OK`. -/
theorem parseResult_reports_each_check (cs : List ResultCheck) (gs : List (List Attr))
    (h : List.Forall₂ ResultCheck.Encodes cs gs) :
    parseResult (some gs.flatten) = (.initial :: cs.map ResultCheck.toReport, nlOk) := by
  obtain ⟨hc, hr⟩ := parseResultList_checks h .initial
  simp only [parseResult, hc, hr]

/-- Two checks, the second with `STR`, `NUM` and `FILE` in reverse order. -/
theorem parseResult_reports_two_checks :
    List.Forall₂ ResultCheck.Encodes
      [⟨1, "a.c".toList, 10, "ok".toList⟩, ⟨0, "b.c".toList, 20, "no".toList⟩]
      [[.stat 1, .file "a.c".toList, .num 10, .str "ok".toList],
        [.stat 0, .str "no".toList, .num 20, .file "b.c".toList]] ∧
    parseResult (some [[.stat 1, .file "a.c".toList, .num 10, .str "ok".toList],
        [.stat 0, .str "no".toList, .num 20, .file "b.c".toList]].flatten) =
      (.initial :: [⟨1, "a.c".toList, 10, "ok".toList⟩,
        ⟨0, "b.c".toList, 20, "no".toList⟩].map ResultCheck.toReport, nlOk) :=
  have h : List.Forall₂ ResultCheck.Encodes
      [⟨1, "a.c".toList, 10, "ok".toList⟩, ⟨0, "b.c".toList, 20, "no".toList⟩]
      [[.stat 1, .file "a.c".toList, .num 10, .str "ok".toList],
        [.stat 0, .str "no".toList, .num 20, .file "b.c".toList]] :=
    .cons ⟨_, rfl, .refl _⟩
      (.cons ⟨_, rfl,
        List.reverse_perm [Attr.file "b.c".toList, Attr.num 20, Attr.str "no".toList]⟩ .nil)
  ⟨h, parseResult_reports_each_check _ _ h⟩

/-- A check with line `2 ^ 31`: `handle_test` gets line `-2 ^ 31`, not the `NUM` payload. -/
theorem parseResult_line_wraps :
    parseResult (some [.stat 0, .file "f".toList, .num (2 ^ 31), .str "r".toList]) =
        ([.initial, ⟨0, "f".toList, -2 ^ 31, "r".toList⟩], nlOk) ∧
      parseResult (some [.stat 0, .file "f".toList, .num (2 ^ 31), .str "r".toList]) ≠
        ([.initial, ⟨0, "f".toList, ((2 ^ 31 : Nat) : Int), "r".toList⟩], nlOk) := by
  decide

/-! ### Dispatch -/

/-- The command type `KTF_CT_*` in the `TYPE` of a received message, as `parse_cb` tells
them apart. -/
inductive CmdType where
  | query
  | run
  | other (n : Nat)
  deriving DecidableEq, Repr

/-- A message from the kernel as `genlmsg_parse` leaves it in `attrs[]`: its `TYPE`, if any,
and the attributes `parse_query` and `parse_result` read (`parse_result` reads `LIST`; its
top-level `STAT` is only logged). -/
structure Message where
  type : Option CmdType
  attrs : QueryAttrs

section Dispatch

variable (latest : Version)

/-- `parse_cb(msg, arg)` on a message `genlmsg_parse` accepts: the code returned, the
manager, and the `handle_test` calls made. A message without `TYPE`, or of a type other
than `QUERY` and `RUN`, is skipped. -/
def parseCb (msg : Message) (st : KernelTestMgr) : Int × KernelTestMgr × List TestReport :=
  match msg.type with
  | some .query => let r := parseQuery latest msg.attrs st; (r.1, r.2, [])
  | some .run => let r := parseResult msg.attrs.list; (r.2, st, r.1)
  | _ => (nlSkip, st, [])

/-- Whatever the kernel sends, a message changes the registry only through the registry's
mutations, and only a `QUERY` message changes it at all. -/
lemma parseCb_mutations (msg : Message) (st : KernelTestMgr) :
    ∃ ms, (parseCb latest msg st).2.1 = runMutations st ms := by
  unfold parseCb
  split
  · exact parseQuery_mutations latest msg.attrs st
  · exact ⟨[], rfl⟩
  · exact ⟨[], rfl⟩

end Dispatch

end KtfInt
