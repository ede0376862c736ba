import ByteMachine.Proofs.Variables
import Mathlib.Data.List.Duplicate
import Mathlib.Data.List.Perm.Subperm
/- The structure checks decide their conditions. Read on any list of lines,
   each check passes exactly when a condition stated over the whole list
   holds, and otherwise refuses the program with an assembly fault:

   1. no label, and no variable, is defined on two lines: the two checks are
      one scan (`RepeatScan`), with one lemma for both (`RepeatScan.decides`);
   2. no label is defined while an earlier one still waits for a line of
      machine code (`checkLabelQueue_eq_ok`, through `Waiting`);
   3. every label that a byte uses is defined (`checkLabelRefs_eq_ok`);
   4. the distinct variables, declared or used, fit in data memory from the
      offset on (`checkDataSpace_of_fits`, `checkDataSpace_of_declared`). The
      scan stops once memory is full, but up to then it has counted every
      variable in order (`Tally`), so it stops exactly when the whole count
      overflows. A program that overflows without declaring a variable has no
      variable to name, and the check fails unassigned
      (`checkDataSpace_of_undeclared`);
   5. the machine code has at most 255 bytes (`checkProgramSize_decides`).

   `structureChecks_decide` gathers the five. -/
namespace ByteMachine.Assembly

/-- The check `x` refuses the program with an assembly fault when `bad` holds, and passes
otherwise. -/
def Decides (x : Except Fault Unit) (bad : Prop) : Prop :=
  (bad → ∃ n raw p, x = .error (.assembly n raw p)) ∧ (¬ bad → x = .ok ())

/-- A check that passes exactly when `bad` fails and otherwise refuses decides `bad`. -/
theorem Decides.of_iff {x : Except Fault Unit} {bad : Prop} (h : x = .ok () ↔ ¬ bad)
    (hr : x = .ok () ∨ ∃ n raw p, x = .error (.assembly n raw p)) : Decides x bad := by
  refine ⟨fun hb => ?_, h.mpr⟩
  rcases hr with hok | hr
  · exact absurd hb (h.mp hok)
  · exact hr

theorem Decides.eq_ok_iff {x : Except Fault Unit} {bad : Prop} (h : Decides x bad) :
    x = .ok () ↔ ¬ bad := by
  refine ⟨fun hok hb => ?_, h.2⟩
  obtain ⟨n, raw, p, he⟩ := h.1 hb
  rw [hok] at he
  cases he

/-- A check that decides its condition fails only by refusing the program. -/
theorem Decides.error {x : Except Fault Unit} {bad : Prop} {f : Fault} (h : Decides x bad)
    (he : x = .error f) : ∃ n raw p, f = .assembly n raw p := by
  by_cases hb : bad
  · obtain ⟨n, raw, p, he'⟩ := h.1 hb
    rw [he] at he'
    cases he'
    exact ⟨n, raw, p, rfl⟩
  · rw [h.2 hb] at he
    cases he

/-! ## Names defined twice -/

/-- The scan that refuses the first line whose name, read by `key`, it has `seen`: the label
check and the variable check. -/
def RepeatScan (key : Line → Option String) (problem : String → Int → Problem)
    (check : List (String × Int) → List Line → Except Fault Unit) : Prop :=
  (∀ seen, check seen [] = .ok ()) ∧
    ∀ seen l rest, check seen (l :: rest) =
      match key l with
      | some n =>
        match seen.lookup n with
        | some first => .error (refuse l (problem n first))
        | none => check ((n, l.number) :: seen) rest
      | none => check seen rest

theorem checkLabelDefs_repeatScan : RepeatScan Line.label .labelRedefined checkLabelDefs :=
  ⟨fun _ => rfl, fun _ _ _ => rfl⟩

theorem checkVariableDefs_repeatScan :
    RepeatScan Line.declared .variableRedefined checkVariableDefs :=
  ⟨fun _ => rfl, fun _ _ _ => rfl⟩

theorem lookup_cons_eq_none {n m : String} {v : Int} {seen : List (String × Int)} :
    ((n, v) :: seen).lookup m = none ↔ m ≠ n ∧ seen.lookup m = none := by
  rw [List.lookup_cons]
  cases hmn : m == n with
  | true => simp [beq_iff_eq.mp hmn]
  | false => exact ⟨fun h => ⟨ne_of_beq_false hmn, h⟩, And.right⟩

section RepeatScan

variable {key : Line → Option String} {problem : String → Int → Problem}
  {check : List (String × Int) → List Line → Except Fault Unit}

/-- The scan passes exactly when no name comes twice, nor one already `seen`. -/
theorem RepeatScan.eq_ok (hc : RepeatScan key problem check) :
    ∀ {seen : List (String × Int)} {ls : List Line}, check seen ls = .ok () ↔
      (ls.filterMap key).Nodup ∧ ∀ n ∈ ls.filterMap key, seen.lookup n = none
  | seen, [] => by simp [hc.1]
  | seen, l :: rest => by
    rw [hc.2]
    cases hk : key l with
    | none => simpa [hk] using hc.eq_ok
    | some n =>
      cases hs : seen.lookup n with
      | some first =>
        refine iff_of_false (by simp [hs]) fun ⟨_, hfresh⟩ => ?_
        have := hfresh n (by simp [hk])
        rw [hs] at this
        cases this
      | none =>
        -- `n` joins the names seen; the rest must repeat neither it nor an older one
        simp only [hc.eq_ok, List.filterMap_cons, hk, List.nodup_cons, List.forall_mem_cons,
          lookup_cons_eq_none, hs, true_and]
        constructor
        · rintro ⟨hnd, hfresh⟩
          exact ⟨⟨fun hm => (hfresh n hm).1 rfl, hnd⟩, fun m hm => (hfresh m hm).2⟩
        · rintro ⟨⟨hn, hnd⟩, hfresh⟩
          exact ⟨hnd, fun m hm => ⟨fun h => hn (h ▸ hm), hfresh m hm⟩⟩

/-- The scan passes or refuses a line. -/
theorem RepeatScan.refuses (hc : RepeatScan key problem check) :
    ∀ (seen : List (String × Int)) (ls : List Line),
      check seen ls = .ok () ∨ ∃ l n first, check seen ls = .error (refuse l (problem n first))
  | seen, [] => .inl (hc.1 seen)
  | seen, l :: rest => by
    rw [hc.2]
    split
    · split
      · exact .inr ⟨l, _, _, rfl⟩
      · exact hc.refuses _ rest
    · exact hc.refuses _ rest

/-- From no names seen, the scan refuses exactly a list in which
some name comes twice. -/
theorem RepeatScan.decides (hc : RepeatScan key problem check) (ls : List Line) :
    Decides (check [] ls) (∃ n, List.Duplicate n (ls.filterMap key)) := by
  apply Decides.of_iff
  · rw [hc.eq_ok, List.nodup_iff_forall_not_duplicate]
    simp
  · rcases hc.refuses [] ls with h | ⟨l, n, first, h⟩
    · exact .inl h
    · exact .inr ⟨_, _, _, h⟩

end RepeatScan

/-! ## A label waiting for its instruction -/

/-- After the lines `pre`, read from the state `q`, a label waits for a line of machine code:
`q` waits and no line of `pre` has code, or a line of `pre` defines a label and neither it
nor any line after it has code. -/
def Waiting (q : Option String) (pre : List Line) : Prop :=
  (q.isSome ∧ ∀ l ∈ pre, l.code = none) ∨
    ∃ pre₁ a pre₂, pre = pre₁ ++ a :: pre₂ ∧ a.label.isSome ∧ a.code = none ∧
      ∀ l ∈ pre₂, l.code = none

/-- A cut of a list starting with `x`: before `x`, or inside the rest. -/
theorem exists_cons_eq_append {α : Type} {x : α} {rest : List α} {P : List α → α → List α → Prop} :
    (∃ pre a post, x :: rest = pre ++ a :: post ∧ P pre a post) ↔
      P [] x rest ∨ ∃ pre a post, rest = pre ++ a :: post ∧ P (x :: pre) a post := by
  constructor
  · rintro ⟨pre, a, post, h, hp⟩
    rcases List.cons_eq_append_iff.mp h with ⟨rfl, h'⟩ | ⟨pre', rfl, h'⟩
    · obtain ⟨rfl, rfl⟩ := List.cons.inj h'
      exact .inl hp
    · exact .inr ⟨pre', a, post, h', hp⟩
  · rintro (hp | ⟨pre, a, post, rfl, hp⟩)
    · exact ⟨[], x, rest, rfl, hp⟩
    · exact ⟨x :: pre, a, post, rfl, hp⟩

@[simp] theorem waiting_nil {q : Option String} : Waiting q [] ↔ q.isSome := by
  simp [Waiting]

/-- Reading one more line: a line with code ends the wait, a label line starts one. -/
theorem waiting_cons {q : Option String} {l : Line} {pre : List Line} :
    Waiting q (l :: pre) ↔
      Waiting (if l.code.isSome then none else if l.label.isSome then l.label else q) pre := by
  unfold Waiting
  rw [exists_cons_eq_append (α := Line) (P := fun _ a pre₂ =>
    a.label.isSome ∧ a.code = none ∧ ∀ l ∈ pre₂, l.code = none)]
  by_cases hc : l.code.isSome <;> by_cases hl : l.label.isSome <;>
    simp_all [Option.isSome_iff_ne_none]

theorem checkLabelQueue_cons (q : Option String) (l : Line) (rest : List Line) :
    checkLabelQueue q (l :: rest) =
      if q.isSome ∧ l.label.isSome then .error (refuse l (.labelQueued (q.getD "")))
      else checkLabelQueue (if l.code.isSome then none else if l.label.isSome then l.label else q)
        rest := by
  cases q <;> cases hl : l.label <;> simp [checkLabelQueue, hl]

/-- The queue check passes exactly when no label line comes while a label waits. -/
theorem checkLabelQueue_eq_ok :
    ∀ {q : Option String} {ls : List Line}, checkLabelQueue q ls = .ok () ↔
      ¬ ∃ pre b post, ls = pre ++ b :: post ∧ b.label.isSome ∧ Waiting q pre
  | q, [] => by simp [checkLabelQueue]
  | q, l :: rest => by
    rw [checkLabelQueue_cons, exists_cons_eq_append (α := Line) (P := fun pre b _ =>
      b.label.isSome ∧ Waiting q pre)]
    by_cases hclash : q.isSome ∧ l.label.isSome
    · rw [if_pos hclash]
      simp [hclash]
    · -- no clash at `l`: what waits after it decides the rest
      rw [if_neg hclash, checkLabelQueue_eq_ok]
      simp only [waiting_nil, waiting_cons]
      constructor
      · rintro h (⟨hl, hq⟩ | hrest)
        · exact hclash ⟨hq, hl⟩
        · exact h hrest
      · exact fun h hrest => h (.inr hrest)

theorem checkLabelQueue_refuses :
    ∀ (q : Option String) (ls : List Line),
      checkLabelQueue q ls = .ok () ∨ ∃ l p, checkLabelQueue q ls = .error (refuse l p)
  | q, [] => .inl rfl
  | q, l :: rest => by
    rw [checkLabelQueue_cons]
    by_cases hclash : q.isSome ∧ l.label.isSome
    · rw [if_pos hclash]
      exact .inr ⟨l, _, rfl⟩
    · rw [if_neg hclash]
      exact checkLabelQueue_refuses _ rest

/-- A label waits before `b` exactly when an earlier label line starts a run of lines
without code that reaches `b`. -/
theorem clash_none_iff {ls : List Line} :
    (∃ pre b post, ls = pre ++ b :: post ∧ b.label.isSome ∧ Waiting none pre) ↔
      ∃ pre a mid b post, ls = pre ++ a :: (mid ++ b :: post) ∧ a.label.isSome ∧
        b.label.isSome ∧ ∀ l ∈ a :: mid, l.code = none := by
  simp only [Waiting, Option.isSome_none, Bool.false_eq_true, false_and, false_or]
  constructor
  · rintro ⟨_, b, post, rfl, hb, pre, a, mid, rfl, ha, hac, hmid⟩
    exact ⟨pre, a, mid, b, post, by simp, ha, hb, List.forall_mem_cons.mpr ⟨hac, hmid⟩⟩
  · rintro ⟨pre, a, mid, b, post, rfl, ha, hb, hcode⟩
    obtain ⟨hac, hmid⟩ := List.forall_mem_cons.mp hcode
    exact ⟨pre ++ a :: mid, b, post, by simp, hb, pre, a, mid, rfl, ha, hac, hmid⟩

/-- The queue check refuses exactly a program where a line
defines a label, and another label line follows with no machine code from the first up
to the second. -/
theorem checkLabelQueue_decides (ls : List Line) :
    Decides (checkLabelQueue none ls)
      (∃ pre a mid b post, ls = pre ++ a :: (mid ++ b :: post) ∧ a.label.isSome ∧
        b.label.isSome ∧ ∀ l ∈ a :: mid, l.code = none) := by
  apply Decides.of_iff
  · rw [checkLabelQueue_eq_ok, clash_none_iff]
  · rcases checkLabelQueue_refuses none ls with h | ⟨l, p, h⟩
    · exact .inl h
    · exact .inr ⟨_, _, _, h⟩

/-! ## Labels used but not defined -/

theorem checkLabelRefs_eq_ok {ls : List Line} :
    checkLabelRefs ls = .ok () ↔
      ∀ l ∈ ls, ∀ b ∈ l.bytes, b.holds .label → b.constant ∈ ls.filterMap Line.label := by
  unfold checkLabelRefs
  rw [forM_eq_ok]
  refine forall₂_congr fun l _ => ?_
  rw [forM_eq_ok]
  refine forall₂_congr fun b _ => ?_
  by_cases hb : b.holds .label <;> simp [hb]

theorem checkLabelRefs_refuses (ls : List Line) :
    checkLabelRefs ls = .ok () ∨ ∃ l p, checkLabelRefs ls = .error (refuse l p) := by
  cases h : checkLabelRefs ls with
  | ok u => exact .inl rfl
  | error e =>
    -- the fault comes from one byte of one line
    unfold checkLabelRefs at h
    obtain ⟨l, -, hl⟩ := forM_eq_error h
    obtain ⟨b, -, hb⟩ := forM_eq_error hl
    split at hb
    · cases hb
      exact .inr ⟨l, _, rfl⟩
    · cases hb

/-- The reference check refuses exactly a program where
a byte holds a label that no line defines. -/
theorem checkLabelRefs_decides (ls : List Line) :
    Decides (checkLabelRefs ls)
      (∃ l ∈ ls, ∃ b ∈ l.bytes, b.holds .label ∧ b.constant ∉ ls.filterMap Line.label) := by
  apply Decides.of_iff
  · rw [checkLabelRefs_eq_ok]
    simp
  · rcases checkLabelRefs_refuses ls with h | ⟨l, p, h⟩
    · exact .inl h
    · exact .inr ⟨_, _, _, h⟩

/-! ## Variables in data memory -/

/-- The variables a line names: the one it declares, then those its bytes use. -/
def Line.names (l : Line) : List String := l.declared.toList ++ byteVariables l.bytes

/-- The distinct variables of a program, declared or used, in order of first naming. -/
def namedVariables (ls : List Line) : List String := (ls.flatMap Line.names).eraseDups

/-- What the scan has counted after the names `P`: distinct names of `P`, and all of them in
order unless memory is full. -/
structure Tally (offset : Int) (P vars : List String) : Prop where
  nodup : vars.Nodup
  subset : vars ⊆ P
  counted : Counted offset P vars

namespace Tally

variable {offset : Int} {P vars : List String}

theorem nil : Tally offset [] [] := ⟨List.nodup_nil, fun _ h => h, .inl rfl⟩

/-- Counting one variable named: it is added unless already counted. -/
theorem add {v : String} (h : Tally offset P vars) :
    Tally offset (P ++ [v]) (if vars.contains v then vars else vars ++ [v]) where
  nodup := by
    split_ifs with hv
    · exact h.nodup
    · exact h.nodup.append (List.nodup_singleton v) (by simpa using hv)
  subset := by
    split_ifs
    · exact List.Subset.trans h.subset (List.subset_append_left P [v])
    · exact List.append_subset.mpr ⟨List.Subset.trans h.subset (List.subset_append_left P [v]),
        List.subset_append_right P [v]⟩
  counted := h.counted.add

/-- Once memory is full, naming more leaves the count overflowing. -/
theorem extend (h : Tally offset P vars) (hfull : overflows offset vars.length = true)
    (Q : List String) : Tally offset (P ++ Q) vars :=
  ⟨h.nodup, List.Subset.trans h.subset (List.subset_append_left P Q), .of_overflows hfull⟩

/-- The count overflows exactly when all the distinct names would. -/
theorem overflows_eq (h : Tally offset P vars) :
    overflows offset vars.length = overflows offset P.eraseDups.length := by
  rcases h.counted with heq | hfull
  · rw [heq]
  · -- the counted variables are distinct names of `P`, so no more than all of them
    have hle : vars.length ≤ P.eraseDups.length :=
      (List.Nodup.subperm h.nodup fun v hv => List.mem_eraseDups.mpr (h.subset hv)).length_le
    rw [hfull, overflows_mono hfull hle]

end Tally

theorem usedVariables_tally {offset : Int} :
    ∀ {bs : List CodeByte} {P vars : List String}, Tally offset P vars →
      Tally offset (P ++ byteVariables bs) (usedVariables offset vars bs)
  | [], P, vars, h => by simpa [usedVariables] using h
  | b :: bs, P, vars, h => by
    -- the byte first, then the rest unless memory is full
    have hb : Tally offset (P ++ if b.holds .variable then [b.constant] else [])
        (if (b.holds .variable && !vars.contains b.constant) = true then
          vars ++ [b.constant] else vars) := by
      by_cases hv : b.holds .variable = true
      · have := h.add (v := b.constant)
        by_cases hc : vars.contains b.constant = true <;> simp_all
      · simpa [hv] using h
    simp only [usedVariables]
    generalize (if (b.holds .variable && !vars.contains b.constant) = true then
      vars ++ [b.constant] else vars) = vars' at hb ⊢
    split_ifs with hfull
    · simpa [byteVariables_cons] using hb.extend hfull (byteVariables bs)
    · simpa [byteVariables_cons] using usedVariables_tally hb

theorem usesOf_tally {offset : Int} {P : List String} {s : VarScan} (l : Line)
    (h : Tally offset P s.vars) :
    Tally offset (P ++ byteVariables l.bytes) (scanVariables.usesOf offset s l).vars := by
  unfold scanVariables.usesOf
  split
  · next bs hbs => simpa [Line.bytes, hbs] using usedVariables_tally h
  · next hbs => simpa [Line.bytes, hbs] using h

@[simp] theorem usesOf_declared (offset : Int) (s : VarScan) (l : Line) :
    (scanVariables.usesOf offset s l).declared = s.declared := by
  unfold scanVariables.usesOf
  split <;> rfl

@[simp] theorem usesOf_current (offset : Int) (s : VarScan) (l : Line) :
    (scanVariables.usesOf offset s l).current = s.current := by
  unfold scanVariables.usesOf
  split <;> rfl

/-- The scan keeps its tally through every line,
declaring or using variables. -/
theorem scanVariables_tally {offset : Int} :
    ∀ {ls : List Line} {s : VarScan} {P : List String}, Tally offset P s.vars →
      Tally offset (P ++ ls.flatMap Line.names) (scanVariables offset s ls).vars
  | [], s, P, h => by simpa [scanVariables] using h
  | l :: rest, s, P, h => by
    simp only [scanVariables, List.flatMap_cons]
    split
    · -- a declaration: the declared variable, then the bytes of the line
      next v hd =>
      have hnames : l.names = v :: byteVariables l.bytes := by simp [Line.names, hd]
      have hadd := h.add (v := v)
      rw [hnames, ← List.singleton_append, ← List.append_assoc, ← List.append_assoc]
      split_ifs with hc hfull
      · rw [if_pos hc] at hadd
        exact scanVariables_tally (usesOf_tally (s := ⟨s.vars, some v, some l⟩) l hadd)
      · rw [if_neg hc] at hadd
        rw [List.append_assoc]
        exact hadd.extend hfull _
      · rw [if_neg hc] at hadd
        exact scanVariables_tally (usesOf_tally (s := ⟨s.vars ++ [v], some v, some l⟩) l hadd)
    · next hd =>
      have hnames : l.names = byteVariables l.bytes := by simp [Line.names, hd]
      rw [hnames, ← List.append_assoc]
      exact scanVariables_tally (usesOf_tally (s := ⟨s.vars, s.declared, some l⟩) l h)

/-- The scan ends having met a declaration exactly when a line declares a variable, and then
it names the line where it ended. -/
theorem scanVariables_declared (offset : Int) :
    ∀ (s : VarScan) (ls : List Line), (s.declared.isSome → s.current.isSome) →
      ((scanVariables offset s ls).declared.isSome ↔
        s.declared.isSome ∨ ∃ l ∈ ls, l.declared.isSome) ∧
      ((scanVariables offset s ls).declared.isSome → (scanVariables offset s ls).current.isSome)
  | s, [], hs => by simpa [scanVariables] using hs
  | s, l :: rest, hs => by
    simp only [scanVariables]
    split
    · next v hd =>
      split_ifs
      · have ih := scanVariables_declared offset
          (scanVariables.usesOf offset { s with declared := some v, current := some l } l) rest
          (by simp)
        simp only [usesOf_declared, Option.isSome_some, true_or, iff_true] at ih
        exact ⟨by simpa [hd] using ih.1, ih.2⟩
      · simp [hd]
      · have ih := scanVariables_declared offset
          (scanVariables.usesOf offset
            { s with vars := s.vars ++ [v], declared := some v, current := some l } l) rest
          (by simp)
        simp only [usesOf_declared, Option.isSome_some, true_or, iff_true] at ih
        exact ⟨by simpa [hd] using ih.1, ih.2⟩
    · next hd =>
      have ih := scanVariables_declared offset
        (scanVariables.usesOf offset { s with current := some l } l) rest (by simp)
      simp only [usesOf_declared] at ih
      refine ⟨ih.1.trans ?_, ih.2⟩
      simp [hd]

/-- The scan from the start overflows exactly when all the distinct variables would. -/
theorem overflows_scanVariables (offset : Int) (ls : List Line) :
    overflows offset (scanVariables offset {} ls).vars.length =
      overflows offset (namedVariables ls).length := by
  have h : Tally offset ([] ++ ls.flatMap Line.names) (scanVariables offset {} ls).vars :=
    scanVariables_tally Tally.nil
  rw [h.overflows_eq, List.nil_append, namedVariables]

theorem checkDataSpace_of_fits {offset : Int} {ls : List Line}
    (h : ((namedVariables ls).length : Int) + offset ≤ 255) :
    checkDataSpace offset ls = .ok () := by
  have hfit : overflows offset (scanVariables offset {} ls).vars.length = false := by
    rw [overflows_scanVariables]
    simpa [overflows] using h
  simp [checkDataSpace, hfit]

/-- With memory full and a variable declared, the check refuses the line where it stopped,
naming the last variable declared. -/
theorem checkDataSpace_of_declared {offset : Int} {ls : List Line}
    (h : 255 < ((namedVariables ls).length : Int) + offset) (hd : ∃ l ∈ ls, l.declared.isSome) :
    ∃ l v, checkDataSpace offset ls = .error (refuse l (.dataFull v offset)) := by
  have hfull : overflows offset (scanVariables offset {} ls).vars.length = true := by
    rw [overflows_scanVariables]
    simpa [overflows] using h
  obtain ⟨hdecl, hcur⟩ := scanVariables_declared offset {} ls (by simp)
  have hsome : (scanVariables offset {} ls).declared.isSome := hdecl.mpr (.inr hd)
  obtain ⟨v, hv⟩ := Option.isSome_iff_exists.mp hsome
  obtain ⟨l, hl⟩ := Option.isSome_iff_exists.mp (hcur hsome)
  exact ⟨l, v, by simp [checkDataSpace, hfull, hv, hl]⟩

/-- With memory full and no variable declared, the check has no variable to name. -/
theorem checkDataSpace_of_undeclared {offset : Int} {ls : List Line}
    (h : 255 < ((namedVariables ls).length : Int) + offset) (hd : ∀ l ∈ ls, l.declared = none) :
    checkDataSpace offset ls = .error (.unassigned "variable") := by
  have hfull : overflows offset (scanVariables offset {} ls).vars.length = true := by
    rw [overflows_scanVariables]
    simpa [overflows] using h
  have hnone : (scanVariables offset {} ls).declared = none := by
    rw [← Option.not_isSome_iff_eq_none, (scanVariables_declared offset {} ls (by simp)).1]
    rintro (h | ⟨l, hl, hsome⟩)
    · cases h
    · simp [hd l hl] at hsome
  simp [checkDataSpace, hfull, hnone]

/-! ## Size of the machine code -/

/-- The size check refuses exactly a program of more than
255 bytes. -/
theorem checkProgramSize_decides (ls : List Line) :
    Decides (checkProgramSize ls) (255 < (programBytes ls).length) := by
  have hc := countBytes_fst 0 (-1) ls
  unfold checkProgramSize
  split
  next count bad hcb =>
    rw [hcb, Nat.zero_add] at hc
    subst hc
    constructor
    · intro h
      rw [if_pos h]
      exact ⟨_, _, _, rfl⟩
    · intro h
      rw [if_neg h]

/-! ## The structure checks -/

/-- On any list of lines and from any
offset: a label defined on two lines, a label line that comes while an earlier label
still waits for machine code, a label used but defined nowhere, a variable declared on two
lines, and more than 255 bytes of machine code are each refused by their check, which
passes otherwise. The data space check passes exactly when the distinct variables, declared
or used, fit in data memory from the offset on; otherwise it refuses the program if a line
declares a variable, and fails unassigned if none does. -/
theorem structureChecks_decide (ls : List Line) (offset : Int) :
    Decides (checkLabelDefs [] ls) (∃ L, List.Duplicate L (ls.filterMap Line.label)) ∧
    Decides (checkLabelQueue none ls)
      (∃ pre a mid b post, ls = pre ++ a :: (mid ++ b :: post) ∧ a.label.isSome ∧
        b.label.isSome ∧ ∀ l ∈ a :: mid, l.code = none) ∧
    Decides (checkLabelRefs ls)
      (∃ l ∈ ls, ∃ b ∈ l.bytes, b.holds .label ∧ b.constant ∉ ls.filterMap Line.label) ∧
    Decides (checkVariableDefs [] ls) (∃ v, List.Duplicate v (ls.filterMap Line.declared)) ∧
    (255 < ((namedVariables ls).length : Int) + offset → (∃ l ∈ ls, l.declared.isSome) →
      ∃ n raw p, checkDataSpace offset ls = .error (.assembly n raw p)) ∧
    (255 < ((namedVariables ls).length : Int) + offset → (∀ l ∈ ls, l.declared = none) →
      checkDataSpace offset ls = .error (.unassigned "variable")) ∧
    (((namedVariables ls).length : Int) + offset ≤ 255 → checkDataSpace offset ls = .ok ()) ∧
    Decides (checkProgramSize ls) (255 < (programBytes ls).length) := by
  refine ⟨checkLabelDefs_repeatScan.decides ls, checkLabelQueue_decides ls,
    checkLabelRefs_decides ls, checkVariableDefs_repeatScan.decides ls, fun h hd => ?_,
    checkDataSpace_of_undeclared, checkDataSpace_of_fits, checkProgramSize_decides ls⟩
  obtain ⟨l, v, hl⟩ := checkDataSpace_of_declared h hd
  exact ⟨_, _, _, hl⟩

end ByteMachine.Assembly
