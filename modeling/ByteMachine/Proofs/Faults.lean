import ByteMachine.Proofs.Checks
import ByteMachine.Proofs.Grammar
import ByteMachine.Proofs.Labels
/- How an assembly fails. Reading a line fails only with a line fault, which
   refuses the program naming the line; the structure checks refuse it naming a
   line; and the passes after them cannot fail on a program that passed them,
   with two exceptions:

   1. the data space check fails unassigned, not refusing a line, when the
      variables overflow data memory and no line declares one, since it has no
      variable to name (`checkStructure_error`);
   2. label resolution fails with a missing key when a byte uses a label that
      no line of machine code follows: the reference check accepts any label
      defined on a line, but the label map holds only the labels given to a
      line of code (`resolveAll_cases`, through `assignLabels_lands`).

   Otherwise numbers fit in a byte once read (`readLines_numbers`), labels fit
   as byte numbers, and variables fit in data memory once checked
   (`variableMap_ok`), so no conversion to bits fails. `assembleLines_faults`
   gathers these for every program. -/
namespace ByteMachine.Assembly

open Instruction

/-! ## Reading -/

theorem numberValue_of_isNumber {c : String} (h : isNumber c = true) :
    ∃ v, numberValue c = .ok v := by
  unfold isNumber at h
  split at h
  · next rest hc =>
    have hlit : Numeral.isLiteral .prefixed (String.ofList rest) = true := by
      simp only [Bool.and_eq_true] at h
      exact h.2
    unfold Numeral.isLiteral at hlit
    unfold numberValue Numeral.parse
    rw [hc, List.drop_one, List.tail_cons]
    split at hlit
    · next n hr => exact ⟨n, by rw [hr]⟩
    · cases hlit
  · cases h

/-- A byte holding a number holds one that fits in a byte. -/
def CodeByte.NumberFits (b : CodeByte) : Prop :=
  b.holds .number → -128 ≤ b.value ∧ b.value ≤ 255

@[simp] theorem CodeByte.numberFits_skeleton (b : CodeByte) :
    b.skeleton.NumberFits ↔ b.NumberFits := Iff.rfl

/-- Classifying a constant fails only with a line fault, and a number it accepts fits
in a byte. -/
theorem classify_spec (b : CodeByte) :
    (∀ f, classify b = .error f → ∃ g, f = .line g) ∧
      ∀ b', classify b = .ok b' → b'.NumberFits := by
  simp only [classify, bind, Except.bind, pure, Except.pure, throw, throwThe, MonadExceptOf.throw,
    not_many_kinds, if_false]
  by_cases hr : b.role = .constant
  · by_cases hc : isConstant b.constant = true
    · by_cases hl : isLabel b.constant = true
      · simp [hr, hc, hl, CodeByte.NumberFits, CodeByte.holds]
      · by_cases hv : isVariable b.constant = true
        · simp [hr, hc, hl, hv, CodeByte.NumberFits, CodeByte.holds]
        · -- a number: its value is read, and must fit in a byte
          have hn : isNumber b.constant = true := by simpa [isConstant, hl, hv] using hc
          obtain ⟨v, hnv⟩ := numberValue_of_isNumber hn
          simp only [hr, hc, hl, hv, hnv, Word.fits_byte_iff]
          by_cases hfit : -128 ≤ v ∧ v ≤ 255
          · simp [hfit, CodeByte.NumberFits]
          · simp [hfit]
    · simp [hr, hc]
  · simp [hr, CodeByte.NumberFits, CodeByte.holds]

theorem machineBytes_error {line : String} {f : Fault} (h : machineBytes line = .error f) :
    ∃ g, f = .line g := by
  rcases takes_cases line with hother | ⟨i, sig, args, ht⟩ | ⟨i, args, htok, hunfit⟩
  · rw [machineBytes_of_other hother] at h
    cases h
    exact ⟨_, rfl⟩
  · obtain ⟨ib, -, hok⟩ := machineBytes_of_takes ht
    rw [hok] at h
    cases h
  · rw [machineBytes_of_unfit htok hunfit] at h
    cases h
    exact ⟨_, rfl⟩

/-- Reading a line fails only with a line fault, and every number it reads fits in a
byte. -/
theorem processLine_spec (raw : String) :
    (∀ f, processLine raw = .error f → ∃ g, f = .line g) ∧
      ∀ l, processLine raw = .ok l → ∀ b ∈ l.bytes, b.NumberFits := by
  unfold processLine
  dsimp only
  generalize (if isLabel (cleanLine raw) then some (cleanLine raw) else none) = label
  generalize (if isVariable (cleanLine raw) then some (cleanLine raw) else none) = declared
  split
  · simp [pure, Except.pure, Line.bytes]
  · split
    · -- an instruction line: its bytes are found, then classified one by one
      constructor
      · intro f h
        rcases bind_eq_error.mp h with hmb | ⟨mb, -, h⟩
        · exact machineBytes_error hmb
        · rcases bind_eq_error.mp h with hbs | ⟨bs, -, h⟩
          · obtain ⟨b, -, hb⟩ := mapM_eq_error hbs
            exact (classify_spec b).1 f hb
          · cases h
      · intro l h b hb
        obtain ⟨mb, -, h⟩ := bind_eq_ok.mp h
        obtain ⟨bs, hbs, h⟩ := bind_eq_ok.mp h
        rw [← pure_eq_ok.mp h] at hb
        obtain ⟨b₀, -, hb₀⟩ := exists_of_mem_mapM_eq_ok hbs b hb
        exact (classify_spec b₀).2 b hb₀
    · simp [pure, Except.pure, Line.bytes]

/-- Every line read is a line that reading one line made, numbered. -/
theorem readLines_mem {n : Nat} {lines : List String} {ls : List Line}
    (h : readLines n lines = .ok ls) :
    ∀ l ∈ ls, ∃ raw l₀, ∃ m : Nat, processLine raw = .ok l₀ ∧ l = { l₀ with number := m } := by
  induction lines generalizing n ls with
  | nil =>
    rw [readLines, Except.ok.injEq] at h
    simp [← h]
  | cons raw rest ih =>
    rw [readLines] at h
    split at h
    · next l₀ hl₀ =>
      obtain ⟨l', hl', h⟩ := bind_eq_ok.mp h
      obtain ⟨more, hmore, h⟩ := bind_eq_ok.mp h
      rw [← pure_eq_ok.mp h, ← pure_eq_ok.mp hl']
      intro x hx
      rcases List.mem_cons.mp hx with rfl | hx
      · exact ⟨raw, l₀, n, hl₀, rfl⟩
      · exact ih hmore x hx
    · obtain ⟨_, he, -⟩ := bind_eq_ok.mp h
      exact absurd he throw_ne_ok
    · obtain ⟨_, he, -⟩ := bind_eq_ok.mp h
      exact absurd he throw_ne_ok

/-- Reading fails only by refusing the program, naming a line. -/
theorem readLines_error {n : Nat} {lines : List String} {f : Fault}
    (h : readLines n lines = .error f) : ∃ m raw p, f = .assembly m raw p := by
  induction lines generalizing n with
  | nil => cases h
  | cons raw rest ih =>
    rw [readLines] at h
    split at h
    · rcases bind_eq_error.mp h with he | ⟨_, -, h⟩
      · cases he
      · rcases bind_eq_error.mp h with hmore | ⟨_, -, h⟩
        · exact ih hmore
        · cases h
    · cases h
      exact ⟨_, _, _, rfl⟩
    · -- a fault other than a line fault cannot come from reading a line
      next f' hnot hf' =>
      obtain ⟨g, rfl⟩ := (processLine_spec raw).1 f' hf'
      exact absurd rfl (hnot g)

theorem readLines_numbers {n : Nat} {lines : List String} {ls : List Line}
    (h : readLines n lines = .ok ls) : ∀ b ∈ programBytes ls, b.NumberFits := by
  intro b hb
  obtain ⟨l, hl, hbl⟩ := List.mem_flatMap.mp hb
  obtain ⟨raw, l₀, m, hl₀, rfl⟩ := readLines_mem h l hl
  exact (processLine_spec raw).2 l₀ hl₀ b hbl

/-! ## The structure checks together -/

/-- What the first four structure checks ask of the names in a program: labels and variables
defined once, no label defined while another waits for machine code, and every label used
defined on some line. -/
structure WellNamed (ls : List Line) : Prop where
  labels_once : (ls.filterMap Line.label).Nodup
  no_queue : ¬ ∃ pre a mid b post, ls = pre ++ a :: (mid ++ b :: post) ∧ a.label.isSome ∧
    b.label.isSome ∧ ∀ l ∈ a :: mid, l.code = none
  labels_defined : ∀ l ∈ ls, ∀ b ∈ l.bytes, b.holds .label → b.constant ∈ ls.filterMap Line.label
  variables_once : (ls.filterMap Line.declared).Nodup

/-- What all the structure checks ask: a well-named program whose distinct variables fit in
data memory from the offset on, with at most 255 bytes of machine code. -/
structure Admissible (ls : List Line) (offset : Int) : Prop extends WellNamed ls where
  data_fits : ((namedVariables ls).length : Int) + offset ≤ 255
  code_fits : (programBytes ls).length ≤ 255

theorem nameChecks_eq_ok {ls : List Line} :
    (checkLabelDefs [] ls = .ok () ∧ checkLabelQueue none ls = .ok () ∧ checkLabelRefs ls = .ok () ∧
      checkVariableDefs [] ls = .ok ()) ↔ WellNamed ls := by
  rw [checkLabelDefs_repeatScan.eq_ok, checkLabelQueue_eq_ok, clash_none_iff, checkLabelRefs_eq_ok,
    checkVariableDefs_repeatScan.eq_ok]
  simp only [List.lookup_nil, implies_true, and_true]
  exact ⟨fun ⟨h1, h2, h3, h4⟩ => ⟨h1, h2, h3, h4⟩, fun ⟨h1, h2, h3, h4⟩ => ⟨h1, h2, h3, h4⟩⟩

/-- The data space check passes exactly when the variables fit. Otherwise it refuses a line,
or, with no variable declared, fails unassigned. -/
theorem checkDataSpace_cases (offset : Int) (ls : List Line) :
    (checkDataSpace offset ls = .ok () ↔ ((namedVariables ls).length : Int) + offset ≤ 255) ∧
      ∀ f, checkDataSpace offset ls = .error f → (∃ n raw p, f = .assembly n raw p) ∨
        (f = .unassigned "variable" ∧ (∀ l ∈ ls, l.declared = none) ∧
          255 < ((namedVariables ls).length : Int) + offset) := by
  by_cases hfit : ((namedVariables ls).length : Int) + offset ≤ 255
  · rw [checkDataSpace_of_fits hfit]
    exact ⟨iff_of_true rfl hfit, fun f hf => by cases hf⟩
  · have hover : 255 < ((namedVariables ls).length : Int) + offset := by omega
    by_cases hd : ∃ l ∈ ls, l.declared.isSome
    · obtain ⟨l, v, hl⟩ := checkDataSpace_of_declared hover hd
      rw [hl]
      refine ⟨iff_of_false (by simp) hfit, fun f hf => ?_⟩
      cases hf
      exact .inl ⟨_, _, _, rfl⟩
    · have hnone : ∀ l ∈ ls, l.declared = none := fun l hl =>
        Option.not_isSome_iff_eq_none.mp fun hs => hd ⟨l, hl, hs⟩
      rw [checkDataSpace_of_undeclared hover hnone]
      refine ⟨iff_of_false (by simp) hfit, fun f hf => ?_⟩
      cases hf
      exact .inr ⟨rfl, hnone, hover⟩

theorem checkStructure_eq_ok_iff {ls : List Line} {offset : Int} :
    checkStructure ls offset = .ok () ↔ Admissible ls offset := by
  have hsize := (checkProgramSize_decides ls).eq_ok_iff
  constructor
  · intro h
    obtain ⟨h1, h2, h3, h4, h5, h6⟩ := checkStructure_eq_ok h
    exact ⟨nameChecks_eq_ok.mp ⟨h1, h2, h3, h4⟩, (checkDataSpace_cases offset ls).1.mp h5,
      Nat.le_of_not_lt (hsize.mp h6)⟩
  · intro h
    obtain ⟨h1, h2, h3, h4⟩ := nameChecks_eq_ok.mpr h.toWellNamed
    simp only [checkStructure, h1, h2, h3, h4, (checkDataSpace_cases offset ls).1.mpr h.data_fits,
      hsize.mpr (Nat.not_lt.mpr h.code_fits)]
    rfl

/-- The structure checks fail by refusing a line, except when the variables overflow data
memory in a well-named program that declares none. -/
theorem checkStructure_error {ls : List Line} {offset : Int} {f : Fault}
    (h : checkStructure ls offset = .error f) :
    (∃ n raw p, f = .assembly n raw p) ∨
      (f = .unassigned "variable" ∧ WellNamed ls ∧ (∀ l ∈ ls, l.declared = none) ∧
        255 < ((namedVariables ls).length : Int) + offset) := by
  simp only [checkStructure, bind_eq_error] at h
  rcases h with h1 | ⟨⟨⟩, h1, h2 | ⟨⟨⟩, h2, h3 | ⟨⟨⟩, h3, h4 | ⟨⟨⟩, h4, h5 | ⟨⟨⟩, h5, h6⟩⟩⟩⟩⟩
  · exact .inl ((checkLabelDefs_repeatScan.decides ls).error h1)
  · exact .inl ((checkLabelQueue_decides ls).error h2)
  · exact .inl ((checkLabelRefs_decides ls).error h3)
  · exact .inl ((checkVariableDefs_repeatScan.decides ls).error h4)
  · rcases (checkDataSpace_cases offset ls).2 f h5 with ha | ⟨rfl, hd, hover⟩
    · exact .inl ha
    · exact .inr ⟨rfl, nameChecks_eq_ok.mp ⟨h1, h2, h3, h4⟩, hd, hover⟩
  · exact .inl ((checkProgramSize_decides ls).error h6)

theorem checkStructure_unassigned {ls : List Line} {offset : Int} (hw : WellNamed ls)
    (hd : ∀ l ∈ ls, l.declared = none) (hover : 255 < ((namedVariables ls).length : Int) + offset) :
    checkStructure ls offset = .error (.unassigned "variable") := by
  obtain ⟨h1, h2, h3, h4⟩ := nameChecks_eq_ok.mpr hw
  simp only [checkStructure, h1, h2, h3, h4, checkDataSpace_of_undeclared hover hd]
  rfl

/-! ## Labels -/

/-- The label map numbers every byte of a program of at most 255 bytes. -/
theorem labelMap_ok : ∀ (next : Nat) (acc : List (String × String)) (ls : List Line),
    next + (programBytes ls).length ≤ 255 → ∃ m, labelMap next acc ls = .ok m
  | next, acc, [], _ => ⟨acc, rfl⟩
  | next, acc, l :: rest, h => by
    have hrest : next + l.bytes.length + (programBytes rest).length ≤ 255 := by
      simpa [Nat.add_assoc] using h
    rw [labelMap, Line.length_code_getD]
    split
    · next lab hl =>
      have hbits : Word.toBits (next : Int) 8 = .ok (Word.binary next 8) :=
        Word.toBits_of_byte (by omega) (by omega)
      obtain ⟨m, hm⟩ := labelMap_ok _ ((lab, Word.binary next 8) :: acc) rest hrest
      exact ⟨m, by simp [hbits, bind, Except.bind, pure, Except.pure, hm]⟩
    · obtain ⟨m, hm⟩ := labelMap_ok _ acc rest hrest
      exact ⟨m, by simp [bind, Except.bind, pure, Except.pure, hm]⟩

/-- The label map holds the labels given to lines, besides those it started with. -/
theorem lookup_labelMap {L : String} :
    ∀ {next : Nat} {acc m : List (String × String)} {ls : List Line}, labelMap next acc ls = .ok m →
      ((m.lookup L).isSome ↔ (acc.lookup L).isSome ∨ ∃ t ∈ ls, t.assigned = some L)
  | _, acc, m, [], h => by
    rw [labelMap, Except.ok.injEq] at h
    simp [h]
  | next, acc, m, l :: rest, h => by
    rw [labelMap] at h
    -- the map after `l` holds its label, if it was given one
    split at h
    · next lab hl =>
      obtain ⟨bits, -, h⟩ := bind_eq_ok.mp h
      obtain ⟨acc', hacc', h⟩ := bind_eq_ok.mp h
      rw [lookup_labelMap h, ← pure_eq_ok.mp hacc', List.lookup_cons]
      by_cases hL : L = lab
      · simp [hL, hl]
      · simp [beq_false_of_ne hL, Ne.symm hL, hl]
    · next hl =>
      obtain ⟨acc', hacc', h⟩ := bind_eq_ok.mp h
      rw [lookup_labelMap h, ← pure_eq_ok.mp hacc']
      simp [hl]

/-- Numbering the bytes does not change which labels the lines are given. -/
theorem assigned_assignLabels_numberBytes :
    ∀ (p : Option String) (n : Nat) (ls : List Line),
      (assignLabels p (numberBytes n ls)).map Line.assigned = (assignLabels p ls).map Line.assigned
  | p, n, [] => rfl
  | p, n, l :: rest => by
    cases hc : l.code <;>
      simp only [numberBytes, assignLabels, hc, Option.isSome_some, Option.isSome_none] <;>
      split_ifs <;> simp [assigned_assignLabels_numberBytes]

/-- In lines that pass the queue check from the waiting label `p`, a
label `L` is given to some line exactly when `L` waits in `p` and some line has code, or a line
defines `L` and a line with code comes after it. -/
theorem assignLabels_lands {L : String} :
    ∀ {p : Option String} {ls : List Line}, (∀ l ∈ ls, l.Parsed ∧ l.assigned = none) →
      checkLabelQueue p ls = .ok () →
      ((∃ t ∈ assignLabels p ls, t.assigned = some L) ↔
        (p = some L ∧ ∃ l ∈ ls, l.code.isSome) ∨
          ∃ pre d post, ls = pre ++ d :: post ∧ d.label = some L ∧ ∃ l ∈ post, l.code.isSome)
  | p, [], _, _ => by simp [assignLabels]
  | p, l :: rest, hp, hq => by
    obtain ⟨⟨hlc, -, -⟩, hla⟩ := hp l List.mem_cons_self
    have hrest : ∀ x ∈ rest, x.Parsed ∧ x.assigned = none :=
      fun x hx => hp x (List.mem_cons_of_mem l hx)
    rw [checkLabelQueue_cons] at hq
    by_cases hclash : p.isSome ∧ l.label.isSome
    · rw [if_pos hclash] at hq
      cases hq
    rw [if_neg hclash] at hq
    rw [exists_cons_eq_append (α := Line) (P := fun _ d post =>
      d.label = some L ∧ ∃ l ∈ post, l.code.isSome)]
    cases hc : l.code with
    | some bs =>
      -- a line with code defines no label, and takes the label waiting, if any
      have hl : l.label = none :=
        Option.not_isSome_iff_eq_none.mp fun h => by simp [hlc h] at hc
      simp only [hc, Option.isSome_some, if_true] at hq
      have ih := assignLabels_lands (L := L) hrest hq
      cases p with
      | none => simp [assignLabels, hc, hl, hla, ih]
      | some q => simp [assignLabels, hc, hl, ih]
    | none =>
      -- a line without code passes the wait on, or starts one with its own label
      simp only [hc, Option.isSome_none, Bool.false_eq_true, if_false] at hq
      have ih := assignLabels_lands (L := L) hrest hq
      cases hl : l.label with
      | none => cases p <;> simp_all [assignLabels]
      | some L' =>
        have hpn : p = none := by simpa [hl] using hclash
        subst hpn
        simp_all [assignLabels]

/-! ## Resolving constants -/

/-- Resolving succeeds when `f` finds bits for every byte of kind `k`. -/
theorem resolve_ok {k : ConstKind} {f : CodeByte → Except Fault String} {ls : List Line}
    (h : ∀ b ∈ programBytes ls, b.holds k → ∃ s, f b = .ok s) :
    ∃ ls', resolve k f ls = .ok ls' := by
  unfold resolve
  apply exists_mapM_eq_ok
  intro l hl
  split
  · next bs hbs =>
    -- every byte of the line resolves
    have hbytes : ∃ bs', bs.mapM (fun b => if b.holds k then do pure { b with bits := ← f b }
        else pure b : CodeByte → Except Fault CodeByte) = .ok bs' := by
      apply exists_mapM_eq_ok
      intro b hb
      split
      · next hk =>
        obtain ⟨s, hs⟩ := h b (List.mem_flatMap.mpr ⟨l, hl, by simp [Line.bytes, hbs, hb]⟩) hk
        exact ⟨_, by rw [hs]; rfl⟩
      · exact ⟨b, rfl⟩
    obtain ⟨bs', hbs'⟩ := hbytes
    exact ⟨_, by rw [hbs']; rfl⟩
  · exact ⟨l, rfl⟩

/-- Resolving fails with the fault that `f` gives for one byte of kind `k`. -/
theorem resolve_error {k : ConstKind} {f : CodeByte → Except Fault String} {ls : List Line}
    {e : Fault} (h : resolve k f ls = .error e) :
    ∃ b ∈ programBytes ls, b.holds k ∧ f b = .error e := by
  unfold resolve at h
  obtain ⟨l, hl, hle⟩ := mapM_eq_error h
  split at hle
  · next bs hbs =>
    rcases bind_eq_error.mp hle with hm | ⟨_, -, hp⟩
    · obtain ⟨b, hb, hbe⟩ := mapM_eq_error hm
      split at hbe
      · next hk =>
        rcases bind_eq_error.mp hbe with hfe | ⟨_, -, hp⟩
        · exact ⟨b, List.mem_flatMap.mpr ⟨l, hl, by simp [Line.bytes, hbs, hb]⟩, hk, hfe⟩
        · cases hp
      · cases hbe
    · cases hp
  · cases hle

/-- Resolving keeps the skeleton of every line. -/
theorem map_skeleton_of_resolve {k : ConstKind} {f : CodeByte → Except Fault String}
    {ls ls' : List Line} (h : resolve k f ls = .ok ls') :
    ls'.map Line.skeleton = ls.map Line.skeleton := by
  rw [(resolve_eq_ok h).1, List.map_map]
  exact List.map_congr_left fun l _ => Line.skeleton_mapBytes_settle k f l

/-- A fact of bytes that only their skeletons decide holds of the bytes of lines with the same
skeletons. -/
theorem forall_programBytes_of_skeleton {ls ls' : List Line} {P : CodeByte → Prop}
    (h : ls'.map Line.skeleton = ls.map Line.skeleton) (hP : ∀ b, P b.skeleton ↔ P b)
    (hall : ∀ b ∈ programBytes ls, P b) : ∀ b ∈ programBytes ls', P b := by
  have hbytes : ∀ ls : List Line,
      programBytes (ls.map Line.skeleton) = (programBytes ls).map CodeByte.skeleton := by
    intro ls
    simp [programBytes, List.flatMap_map, List.map_flatMap]
  intro b hb
  have hmem : b.skeleton ∈ (programBytes ls).map CodeByte.skeleton := by
    rw [← hbytes, ← h, hbytes]
    exact List.mem_map_of_mem hb
  obtain ⟨b₀, hb₀, heq⟩ := List.mem_map.mp hmem
  rw [← hP, ← heq, hP]
  exact hall b₀ hb₀

/-! ## Variables -/

theorem length_eraseDups_le_append (P Q : List String) :
    P.eraseDups.length ≤ (P ++ Q).eraseDups.length := by
  rw [List.eraseDups_append, List.length_append]
  exact Nat.le_add_right _ _

section Allocation

variable {offset next : Int} {P : List String} {acc : List (String × String)} {v : String}

/-- A new variable gets an address that fits in a byte, when all the variables named fit
in data memory. -/
theorem Allocation.toBits_next (h : Allocation offset P next acc) (h0 : 0 ≤ offset) (hv : v ∉ P)
    {Q : List String} (hfit : offset + ((P ++ [v] ++ Q).eraseDups.length : Int) ≤ 255) :
    Word.toBits next 8 = .ok (Word.binary next 8) := by
  have hlen : P.eraseDups.length + 1 ≤ (P ++ [v] ++ Q).eraseDups.length := by
    have := length_eraseDups_le_append (P ++ [v]) Q
    rw [eraseDups_append_singleton, if_neg hv, List.length_append, List.length_singleton] at this
    exact this
  rw [h.next_eq]
  exact Word.toBits_of_byte (by omega) (by omega)

end Allocation

/-- The variable map of a line's bytes succeeds when all the variables named fit in data
memory. -/
theorem foldlM_ok {offset : Int} (h0 : 0 ≤ offset) :
    ∀ (bs : List CodeByte) {P : List String} {next : Int} {acc : List (String × String)},
      Allocation offset P next acc →
      offset + ((P ++ byteVariables bs).eraseDups.length : Int) ≤ 255 →
      ∃ r, bs.foldlM (fun (st : Int × List (String × String)) b =>
          if b.holds .variable && (st.2.lookup b.constant).isNone then do
            let bits ← Word.toBits st.1 8
            pure (st.1 + 1, (b.constant, bits) :: st.2)
          else pure st) (next, acc) = .ok r
  | [], _, _, _, _, _ => ⟨_, rfl⟩
  | b :: bs, P, next, acc, h, hfit => by
    rw [List.foldlM_cons]
    by_cases hb : b.holds .variable = true
    · rw [byteVariables_cons, if_pos hb, ← List.append_assoc] at hfit
      by_cases hv : b.constant ∈ P
      · -- a variable already mapped: nothing changes
        have hnone : (acc.lookup b.constant).isNone = false := by
          rw [h.lookup_eq, if_pos hv]
          rfl
        obtain ⟨r, hr⟩ := foldlM_ok h0 bs (h.named hv) hfit
        exact ⟨r, by simpa [hb, hnone, bind, Except.bind, pure, Except.pure] using hr⟩
      · -- a new variable: the next address
        have hnone : (acc.lookup b.constant).isNone = true := by
          rw [h.lookup_eq, if_neg hv]
          rfl
        have hbits := h.toBits_next h0 hv hfit
        obtain ⟨r, hr⟩ := foldlM_ok h0 bs (h.push hv h0 hbits) hfit
        exact ⟨r, by simpa [hb, hnone, hbits, bind, Except.bind, pure, Except.pure] using hr⟩
    · rw [byteVariables_cons, if_neg hb, List.nil_append] at hfit
      obtain ⟨r, hr⟩ := foldlM_ok h0 bs h hfit
      exact ⟨r, by simpa [hb, bind, Except.bind, pure, Except.pure] using hr⟩

/-- The variable map succeeds when all the variables named fit in data memory. -/
theorem variableMap_ok {offset : Int} (h0 : 0 ≤ offset) :
    ∀ (ls : List Line) {P : List String} {next : Int} {acc : List (String × String)},
      Allocation offset P next acc →
      offset + ((P ++ programVariables ls).eraseDups.length : Int) ≤ 255 →
      ∃ m, variableMap next acc ls = .ok m
  | [], _, _, _, _, _ => ⟨_, rfl⟩
  | l :: rest, P, next, acc, h, hfit => by
    rw [variableMap]
    split
    · next v hd =>
      rw [programVariables_cons, show l.variables = [v] by simp [Line.variables, hd],
        ← List.append_assoc] at hfit
      split
      · next hs => exact variableMap_ok h0 rest (h.named (h.mem_iff.mp hs)) hfit
      · next hs =>
        have hv : v ∉ P := mt h.mem_iff.mpr (by simpa using hs)
        have hbits := h.toBits_next h0 hv hfit
        obtain ⟨m, hm⟩ := variableMap_ok h0 rest (h.push hv h0 hbits) hfit
        exact ⟨m, by rw [hbits]; exact hm⟩
    · next hd =>
      rw [programVariables_cons, show l.variables = byteVariables l.bytes by
        simp [Line.variables, hd], ← List.append_assoc] at hfit
      have hbytes : offset + ((P ++ byteVariables l.bytes).eraseDups.length : Int) ≤ 255 := by
        have := length_eraseDups_le_append (P ++ byteVariables l.bytes) (programVariables rest)
        omega
      obtain ⟨r, hr⟩ := foldlM_ok h0 l.bytes h hbytes
      obtain ⟨m, hm⟩ := variableMap_ok h0 rest (foldlM_allocation h0 h hr) hfit
      exact ⟨m, by rw [show l.code.getD [] = l.bytes from rfl, hr]; exact hm⟩

/-- A line that reading made names the variable it declares, or those its bytes use. -/
theorem Line.names_of_parsed {l : Line} (hp : l.Parsed) : l.names = l.variables := by
  cases hd : l.declared with
  | none => simp [Line.names, Line.variables, hd]
  | some v =>
    have hc : l.code = none := hp.declared_code (by simp [hd])
    simp [Line.names, Line.variables, hd, Line.bytes, hc]

theorem namedVariables_of_parsed {ls : List Line} (hp : ∀ l ∈ ls, l.Parsed) :
    namedVariables ls = variableOrder ls := by
  rw [namedVariables, variableOrder, programVariables,
    List.flatMap_congr fun l hl => Line.names_of_parsed (hp l hl)]

/-- In lines that reading made, a byte holding a variable names it. -/
theorem mem_programVariables {ls : List Line} {b : CodeByte} (hp : ∀ l ∈ ls, l.Parsed)
    (hb : b ∈ programBytes ls) (hv : b.holds .variable = true) :
    b.constant ∈ programVariables ls := by
  obtain ⟨l, hl, hbl⟩ := List.mem_flatMap.mp hb
  -- a declaring line has no bytes, so `b` is on a line that declares nothing
  have hd : l.declared = none := Option.not_isSome_iff_eq_none.mp fun hs => by
    simp [Line.bytes, (hp l hl).declared_code hs] at hbl
  refine List.mem_flatMap.mpr ⟨l, hl, ?_⟩
  simp only [Line.variables, hd, byteVariables]
  exact List.mem_filterMap.mpr ⟨b, hbl, by simp [hv]⟩

/-! ## After the checks -/

/-- The passes after the structure checks: numbering, label assignment, and resolving labels,
numbers and variables. -/
def resolveAll (ls : List Line) (offset : Int) : Except Fault (List Line) := do
  let ls := assignLabels none (numberBytes 0 ls)
  let labels ← labelMap 0 [] ls
  let ls ← resolve .label (fun b => find labels b.constant) ls
  let ls ← resolve .number (fun b => Word.toBits b.value 8) ls
  let vars ← variableMap offset [] ls
  resolve .variable (fun b => find vars b.constant) ls

theorem assembleLines_of_readLines {lines : List String} {offset : Int} {ls : List Line}
    (h : readLines 1 lines = .ok ls) :
    assembleLines lines offset = (checkStructure ls offset >>= fun _ => resolveAll ls offset) := by
  rw [assembleLines, h]
  rfl

/-- A byte uses a label that no line of machine code follows: every line that defines the
label is followed by lines without code only. -/
def DanglingLabel (ls : List Line) : Prop :=
  ∃ b ∈ programBytes ls, b.holds .label ∧
    ∀ pre d post, ls = pre ++ d :: post → d.label = some b.constant → ∀ l ∈ post, l.code = none

/-- On a program that reading made and that passed the
checks, they succeed unless a byte uses a label that no line of code follows, and then they
fail with a missing key. -/
theorem resolveAll_cases {ls : List Line} {offset : Int} (h0 : 0 ≤ offset)
    (hp : ∀ l ∈ ls, l.Parsed ∧ l.assigned = none) (hnum : ∀ b ∈ programBytes ls, b.NumberFits)
    (hadm : Admissible ls offset) :
    ((∃ out, resolveAll ls offset = .ok out) ↔ ¬ DanglingLabel ls) ∧
      ∀ f, resolveAll ls offset = .error f → ∃ L, f = .missingKey L := by
  have hskel := skeleton_labelled ls
  obtain ⟨labels, hlabels⟩ := labelMap_ok 0 [] (assignLabels none (numberBytes 0 ls))
    (by rw [Nat.zero_add, length_programBytes_labelled]; exact hadm.code_fits)
  -- the map holds exactly the labels defined before a line of code
  have hkeys : ∀ L, (labels.lookup L).isSome ↔ ∃ pre d post, ls = pre ++ d :: post ∧
      d.label = some L ∧ ∃ l ∈ post, l.code.isSome := by
    intro L
    have hq := (nameChecks_eq_ok.mpr hadm.toWellNamed).2.1
    have hassigned : (∃ t ∈ assignLabels none (numberBytes 0 ls), t.assigned = some L) ↔
        ∃ t ∈ assignLabels none ls, t.assigned = some L := by
      simpa using congrArg (some L ∈ ·) (assigned_assignLabels_numberBytes none 0 ls)
    rw [lookup_labelMap hlabels, hassigned, assignLabels_lands hp hq]
    simp
  -- so label resolution finds every label exactly when none dangles
  have hfound : (∀ b ∈ programBytes (assignLabels none (numberBytes 0 ls)), b.holds .label →
      ∃ s, find labels b.constant = .ok s) ↔ ¬ DanglingLabel ls := by
    have htransfer := forall_programBytes_of_skeleton hskel
      (P := fun b => b.holds .label → ∃ s, find labels b.constant = .ok s) fun b => Iff.rfl
    have htransfer' := forall_programBytes_of_skeleton hskel.symm
      (P := fun b => b.holds .label → ∃ s, find labels b.constant = .ok s) fun b => Iff.rfl
    constructor
    · rintro hall ⟨b, hb, hk, hnone⟩
      obtain ⟨s, hs⟩ := htransfer' hall b hb hk
      obtain ⟨pre, d, post, hsplit, hd, l, hl, hc⟩ :=
        (hkeys b.constant).mp (Option.isSome_iff_exists.mpr ⟨s, find_eq_ok.mp hs⟩)
      simp [hnone pre d post hsplit hd l hl] at hc
    · intro hnd
      refine htransfer fun b hb hk => ?_
      obtain ⟨s, hs⟩ := Option.isSome_iff_exists.mp ((hkeys b.constant).mpr (by
        by_contra hno
        exact hnd ⟨b, hb, hk, fun pre d post hsplit hd l hl =>
          Option.not_isSome_iff_eq_none.mp fun hc => hno ⟨pre, d, post, hsplit, hd, l, hl, hc⟩⟩))
      exact ⟨s, find_eq_ok.mpr hs⟩
  cases h₁ : resolve .label (fun b => find labels b.constant)
      (assignLabels none (numberBytes 0 ls)) with
  | error e =>
    -- a label is missing: the whole resolution fails with its key
    obtain ⟨b, hb, hk, hfe⟩ := resolve_error h₁
    have he : e = .missingKey b.constant := by
      unfold find at hfe
      split at hfe <;> cases hfe
      rfl
    have hd : DanglingLabel ls := by
      by_contra hnd
      obtain ⟨s, hs⟩ := hfound.mpr hnd b hb hk
      rw [hs] at hfe
      cases hfe
    have hall : resolveAll ls offset = .error e :=
      bind_eq_error.mpr (.inr ⟨labels, hlabels, bind_eq_error.mpr (.inl h₁)⟩)
    rw [hall]
    exact ⟨iff_of_false (by simp) (not_not.mpr hd), fun f hf => ⟨b.constant, by cases hf; exact he⟩⟩
  | ok ls₁ =>
    -- every label is found; numbers fit in a byte, and the variables in data memory
    have hskel₁ := (map_skeleton_of_resolve h₁).trans hskel
    obtain ⟨ls₂, h₂⟩ := resolve_ok (k := .number) (f := fun b => Word.toBits b.value 8)
      (forall_programBytes_of_skeleton hskel₁ (P := fun b => b.holds .number → ∃ s,
        Word.toBits b.value 8 = .ok s) (fun b => Iff.rfl) fun b hb hk =>
          ⟨_, Word.toBits_byte_eq_ok.mpr ⟨hnum b hb hk, rfl⟩⟩)
    have hskel₂ := (map_skeleton_of_resolve h₂).trans hskel₁
    have hparsed₂ := parsed_of_map_skeleton hskel₂ fun l hl => (hp l hl).1
    have hvars₂ := programVariables_of_map_skeleton hskel₂
    have hfit : offset + (([] : List String) ++ programVariables ls₂).eraseDups.length ≤
        (255 : Int) := by
      rw [List.nil_append, hvars₂, ← variableOrder,
        ← namedVariables_of_parsed fun l hl => (hp l hl).1]
      have := hadm.data_fits
      omega
    obtain ⟨vars, hvars⟩ := variableMap_ok h0 ls₂ (Allocation.nil offset) hfit
    obtain ⟨n, hA⟩ := variableMap_allocation h0 (Allocation.nil offset) hvars
    obtain ⟨out, hout⟩ := resolve_ok (k := .variable) (f := fun b => find vars b.constant)
      fun b hb hv => by
        have hmem : b.constant ∈ [] ++ programVariables ls₂ := by
          simpa using mem_programVariables hparsed₂ hb hv
        obtain ⟨s, hs⟩ := Option.isSome_iff_exists.mp (hA.mem_iff.mpr hmem)
        exact ⟨s, find_eq_ok.mpr hs⟩
    have hall : resolveAll ls offset = .ok out :=
      bind_eq_ok.mpr ⟨labels, hlabels, bind_eq_ok.mpr ⟨_, h₁, bind_eq_ok.mpr ⟨_, h₂,
        bind_eq_ok.mpr ⟨vars, hvars, hout⟩⟩⟩⟩
    rw [hall]
    exact ⟨iff_of_true ⟨out, rfl⟩ (hfound.mp (resolve_eq_ok h₁).2), fun f hf => by cases hf⟩

/-- From an offset `≥ 0`, an assembly that fails refuses the program
naming a line, or fails in one of two other ways, each under an exact condition on the lines
read:

* unassigned, when the names are well formed, no line declares a variable, and the
  variables overflow data memory from the offset on;
* with a missing key, when the program passes every check but a byte uses a label that no
  line of machine code follows.

No conversion of a number, a label or a variable address to bits ever fails. -/
theorem assembleLines_faults (lines : List String) {offset : Int} (h0 : 0 ≤ offset) :
    (∀ f, assembleLines lines offset = .error f →
      (∃ n raw p, f = .assembly n raw p) ∨ f = .unassigned "variable" ∨ ∃ L, f = .missingKey L) ∧
    (assembleLines lines offset = .error (.unassigned "variable") ↔
      ∃ ls, readLines 1 lines = .ok ls ∧ WellNamed ls ∧ (∀ l ∈ ls, l.declared = none) ∧
        255 < ((namedVariables ls).length : Int) + offset) ∧
    ((∃ L, assembleLines lines offset = .error (.missingKey L)) ↔
      ∃ ls, readLines 1 lines = .ok ls ∧ Admissible ls offset ∧ DanglingLabel ls) := by
  cases hread : readLines 1 lines with
  | error e =>
    -- reading refused a line
    obtain ⟨n, raw, p, rfl⟩ := readLines_error hread
    have hfail : assembleLines lines offset = .error (.assembly n raw p) := by
      rw [assembleLines, hread]
      rfl
    rw [hfail]
    refine ⟨fun f hf => .inl ⟨n, raw, p, by cases hf; rfl⟩, ?_, ?_⟩ <;> simp
  | ok ls =>
    rw [assembleLines_of_readLines hread]
    simp only [Except.ok.injEq, exists_eq_left']
    cases hcheck : checkStructure ls offset with
    | error f =>
      -- a check failed: it refused a line, or the data space check failed unassigned
      have hfail : ((Except.error f : Except Fault Unit) >>= fun _ => resolveAll ls offset) =
          .error f := rfl
      have hadm : ¬ Admissible ls offset := fun h => by
        rw [checkStructure_eq_ok_iff.mpr h] at hcheck
        cases hcheck
      rw [hfail]
      rcases checkStructure_error hcheck with ⟨n, raw, p, rfl⟩ | ⟨rfl, hw, hd, hover⟩
      · refine ⟨fun f hf => .inl ⟨n, raw, p, by cases hf; rfl⟩, ?_, ?_⟩
        · refine iff_of_false (by simp) fun hun => ?_
          rw [checkStructure_unassigned hun.1 hun.2.1 hun.2.2] at hcheck
          cases hcheck
        · exact iff_of_false (by simp) fun hmiss => hadm hmiss.1
      · exact ⟨fun f hf => .inr (.inl (by cases hf; rfl)), iff_of_true rfl ⟨hw, hd, hover⟩,
          iff_of_false (by simp) fun hmiss => hadm hmiss.1⟩
    | ok u =>
      -- every check passed: only label resolution can fail
      have hadm := checkStructure_eq_ok_iff.mp hcheck
      have hrun : (Except.ok u >>= fun _ => resolveAll ls offset) = resolveAll ls offset := rfl
      rw [hrun]
      obtain ⟨hok, herr⟩ := resolveAll_cases h0 (readLines_parsed hread) (readLines_numbers hread)
        hadm
      refine ⟨fun f hf => .inr (.inr (herr f hf)), ?_, ?_⟩
      · refine iff_of_false (fun h => ?_) fun hun => ?_
        · obtain ⟨L, hL⟩ := herr _ h
          cases hL
        · have hover := hun.2.2
          have := hadm.data_fits
          omega
      · constructor
        · rintro ⟨L, hL⟩
          refine ⟨hadm, Classical.not_not.mp fun hnd => ?_⟩
          obtain ⟨out, hout⟩ := hok.mpr hnd
          rw [hout] at hL
          cases hL
        · rintro ⟨-, hd⟩
          cases hres : resolveAll ls offset with
          | error f =>
            obtain ⟨L, rfl⟩ := herr f hres
            exact ⟨L, rfl⟩
          | ok out => exact absurd hd (hok.mp ⟨out, hres⟩)

/-- A label defined after the last instruction is a missing key though every check passes,
and a program that declares no variable fails unassigned from the offset 256. -/
theorem assembleLines_faults_at_limits :
    0 ≤ (0 : Int) ∧ assembleLines ["JUMP @end", "@end"] 0 = .error (.missingKey "@end") ∧
      (∃ ls, readLines 1 ["JUMP @end", "@end"] = .ok ls ∧ Admissible ls 0 ∧ DanglingLabel ls) ∧
    0 ≤ (256 : Int) ∧ assembleLines ["COPY A B"] 256 = .error (.unassigned "variable") ∧
      ∃ ls, readLines 1 ["COPY A B"] = .ok ls ∧ WellNamed ls ∧ (∀ l ∈ ls, l.declared = none) ∧
        255 < ((namedVariables ls).length : Int) + 256 := by
  have hkey : assembleLines ["JUMP @end", "@end"] 0 = .error (.missingKey "@end") := by decide
  have hvar : assembleLines ["COPY A B"] 256 = .error (.unassigned "variable") := by decide
  exact ⟨by decide, hkey, (assembleLines_faults _ (by decide)).2.2.mp ⟨_, hkey⟩, by decide, hvar,
    (assembleLines_faults _ (by decide)).2.1.mp hvar⟩

/-- Two programs on which assembly neither returns nor refuses with an assembly fault. -/
theorem assembleLines_escapes_assembly_faults :
    assembleLines ["JUMP @end", "@end"] 0 = .error (.missingKey "@end") ∧
      assembleLines ["COPY A B"] 256 = .error (.unassigned "variable") :=
  ⟨by decide, by decide⟩

end ByteMachine.Assembly
