import ByteMachine.Assembly.Program
import ByteMachine.Proofs.Forms
/- The passes of the assembler, one at a time. A program is read line by
   line, checked, its bytes numbered, its labels given to lines, and its
   constants resolved. This module

   1. takes a successful assembly apart into its passes (`assembleLines_eq_ok`);
   2. shows that every pass after reading changes only the numbers of the
      bytes, the bits of constant bytes and the labels given to lines: the
      skeleton of a line (`Line.skeleton`) stays as reading left it;
   3. says what reading guarantees of each line (`Line.Parsed`): a line that
      defines a label or declares a variable has no code, and the code of an
      instruction line starts with its instruction byte;
   4. shows that numbering gives the bytes the numbers `n, n + 1, …` in order
      (`index_numberBytes`), and that resolving one kind of constant sets the
      bits of exactly the bytes of that kind (`resolve_eq_ok`);
   5. reads off what the structure checks guarantee: labels are defined once
      (`nodup_labels_of_checkLabelDefs`) and the program has at most 255 bytes
      (`length_le_of_checkProgramSize`). -/
namespace ByteMachine.Word

/-- The bits of a number at width 8: it must lie between -128 and 255, and a negative number
is written as the byte that stores it. -/
theorem toBits_byte_eq_ok {n : Int} {s : String} :
    toBits n 8 = .ok s ↔ (-128 ≤ n ∧ n ≤ 255) ∧ s = binary (stored n) 8 := by
  rw [toBits, fits_byte_iff]
  by_cases hn : -128 ≤ n ∧ n ≤ 255
  · simp [hn, bind, Except.bind, pure, Except.pure, eq_comm]
  · simp [hn, bind, Except.bind, throw, throwThe, MonadExceptOf.throw]

/-- A number from 0 to 255 is written in eight binary digits. -/
theorem toBits_of_byte {n : Int} (h0 : 0 ≤ n) (h1 : n ≤ 255) :
    toBits n 8 = .ok (binary n 8) := by
  rw [toBits_byte_eq_ok, stored, if_neg (by omega)]
  exact ⟨⟨by omega, h1⟩, rfl⟩

end ByteMachine.Word

namespace ByteMachine.Assembly

/-! ## The bytes of a program -/

/-- The machine code of a line; none for a line without code. -/
def Line.bytes (l : Line) : List CodeByte := l.code.getD []

/-- The bytes of a program, line after line. -/
def programBytes (ls : List Line) : List CodeByte := ls.flatMap Line.bytes

@[simp] theorem programBytes_nil : programBytes [] = [] := rfl

@[simp] theorem programBytes_cons (l : Line) (ls : List Line) :
    programBytes (l :: ls) = l.bytes ++ programBytes ls := List.flatMap_cons

@[simp] theorem programBytes_append (ls ms : List Line) :
    programBytes (ls ++ ms) = programBytes ls ++ programBytes ms := List.flatMap_append

/-- The line with `g` applied to each of its bytes. -/
def Line.mapBytes (g : CodeByte → CodeByte) (l : Line) : Line :=
  { l with code := l.code.map (·.map g) }

@[simp] theorem Line.label_mapBytes (g : CodeByte → CodeByte) (l : Line) :
    (l.mapBytes g).label = l.label := rfl

@[simp] theorem Line.label_comp_mapBytes (g : CodeByte → CodeByte) :
    Line.label ∘ Line.mapBytes g = Line.label := rfl

@[simp] theorem Line.declared_mapBytes (g : CodeByte → CodeByte) (l : Line) :
    (l.mapBytes g).declared = l.declared := rfl

@[simp] theorem Line.code_mapBytes (g : CodeByte → CodeByte) (l : Line) :
    (l.mapBytes g).code = l.code.map (·.map g) := rfl

@[simp] theorem Line.bytes_mapBytes (g : CodeByte → CodeByte) (l : Line) :
    (l.mapBytes g).bytes = l.bytes.map g := by
  cases hc : l.code <;> simp [Line.bytes, Line.mapBytes, hc]

theorem Line.mapBytes_comp (g h : CodeByte → CodeByte) (l : Line) :
    (l.mapBytes g).mapBytes h = l.mapBytes (h ∘ g) := by
  cases hc : l.code <;> simp [Line.mapBytes, hc]

@[simp] theorem programBytes_map_mapBytes (g : CodeByte → CodeByte) (ls : List Line) :
    programBytes (ls.map (Line.mapBytes g)) = (programBytes ls).map g := by
  induction ls with
  | nil => rfl
  | cons l ls ih => simp [ih]

/-! ## Resolving constants -/

/-- The byte with its bits found by `f`, if it holds a constant of kind `k`. -/
def CodeByte.settle (k : ConstKind) (f : CodeByte → Except Fault String) (b : CodeByte) :
    CodeByte :=
  if b.holds k then
    match f b with
    | .ok s => { b with bits := s }
    | .error _ => b
  else b

@[simp] theorem CodeByte.holds_settle (k k' : ConstKind) (f : CodeByte → Except Fault String)
    (b : CodeByte) : (b.settle k f).holds k' = b.holds k' := by
  unfold settle; split
  · split <;> rfl
  · rfl

@[simp] theorem CodeByte.index_settle (k : ConstKind) (f : CodeByte → Except Fault String)
    (b : CodeByte) : (b.settle k f).index = b.index := by
  unfold settle; split
  · split <;> rfl
  · rfl

@[simp] theorem CodeByte.role_settle (k : ConstKind) (f : CodeByte → Except Fault String)
    (b : CodeByte) : (b.settle k f).role = b.role := by
  unfold settle; split
  · split <;> rfl
  · rfl

@[simp] theorem CodeByte.constant_settle (k : ConstKind) (f : CodeByte → Except Fault String)
    (b : CodeByte) : (b.settle k f).constant = b.constant := by
  unfold settle; split
  · split <;> rfl
  · rfl

theorem CodeByte.settle_of_not_holds {k : ConstKind} {f : CodeByte → Except Fault String}
    {b : CodeByte} (h : b.holds k = false) : b.settle k f = b := by
  simp [settle, h]

theorem CodeByte.settle_of_ok {k : ConstKind} {f : CodeByte → Except Fault String}
    {b : CodeByte} {s : String} (hk : b.holds k = true) (hf : f b = .ok s) :
    b.settle k f = { b with bits := s } := by
  simp [settle, hk, hf]

theorem find_eq_ok {m : List (String × String)} {key v : String} :
    find m key = .ok v ↔ m.lookup key = some v := by
  cases hl : m.lookup key <;> simp [find, hl]

theorem mem_of_find_eq_ok {m : List (String × String)} {key v : String}
    (h : find m key = .ok v) : (key, v) ∈ m := by
  obtain ⟨l₁, l₂, rfl, -⟩ := List.lookup_eq_some_iff.mp (find_eq_ok.mp h)
  simp

/-- A constant byte of kind `k` holds no constant of another kind. -/
theorem CodeByte.holds_of_holds {b : CodeByte} {k k' : ConstKind} (h : b.holds k = true)
    (hk : k' ≠ k) : b.holds k' = false := by
  simp only [holds, Bool.and_eq_true, beq_iff_eq] at h
  simp [holds, h.2, Ne.symm hk]

/-- Resolving the constants of kind `k` of one byte. -/
theorem settle_eq_of_ok {k : ConstKind} {f : CodeByte → Except Fault String} {b b' : CodeByte}
    (h : (if b.holds k then do pure { b with bits := ← f b } else pure b : Except Fault CodeByte)
      = .ok b') : b' = b.settle k f := by
  by_cases hk : b.holds k = true
  · rw [if_pos hk] at h
    obtain ⟨s, hs, h⟩ := bind_eq_ok.mp h
    rw [CodeByte.settle_of_ok hk hs, ← pure_eq_ok.mp h]
  · rw [if_neg hk] at h
    rw [CodeByte.settle_of_not_holds (by simpa using hk), ← pure_eq_ok.mp h]

/-- Resolving the constants of kind `k` succeeds only if
`f` finds bits for every byte of that kind, and then sets the bits of exactly those bytes. -/
theorem resolve_eq_ok {k : ConstKind} {f : CodeByte → Except Fault String} {ls ls' : List Line}
    (h : resolve k f ls = .ok ls') :
    ls' = ls.map (Line.mapBytes (CodeByte.settle k f)) ∧
      ∀ b ∈ programBytes ls, b.holds k = true → ∃ s, f b = .ok s := by
  -- one line at a time, and within a line one byte at a time
  obtain ⟨g, hg, hline⟩ : ∃ g : Line → Except Fault Line, resolve k f ls = ls.mapM g ∧
      ∀ l l', g l = .ok l' → l' = l.mapBytes (CodeByte.settle k f) ∧
        ∀ b ∈ l.bytes, b.holds k = true → ∃ s, f b = .ok s := by
    refine ⟨_, rfl, fun l l' hl => ?_⟩
    split at hl
    · next bs hc =>
      obtain ⟨bs', hbs, hl⟩ := bind_eq_ok.mp hl
      refine ⟨?_, ?_⟩
      · rw [← pure_eq_ok.mp hl, eq_map_of_mapM_eq_ok (fun _ _ => settle_eq_of_ok) hbs]
        simp [Line.mapBytes, hc]
      · intro b hb hk
        rw [Line.bytes, hc, Option.getD_some] at hb
        obtain ⟨b', hb'⟩ := ok_of_mapM_eq_ok hbs b hb
        rw [if_pos hk] at hb'
        obtain ⟨s, hs, -⟩ := bind_eq_ok.mp hb'
        exact ⟨s, hs⟩
    · next hc =>
      refine ⟨?_, ?_⟩
      · rw [← pure_eq_ok.mp hl]
        cases l
        simp_all [Line.mapBytes]
      · simp [Line.bytes, hc]
  rw [hg] at h
  refine ⟨eq_map_of_mapM_eq_ok (fun l l' hl => (hline l l' hl).1) h, ?_⟩
  intro b hb hk
  obtain ⟨l, hl, hbl⟩ := List.mem_flatMap.mp hb
  obtain ⟨l', hl'⟩ := ok_of_mapM_eq_ok h l hl
  exact (hline l l' hl').2 b hbl hk

/-! ## The skeleton of a line -/

/-- A byte with its number and its bits forgotten. -/
def CodeByte.skeleton (b : CodeByte) : CodeByte := { b with bits := "", index := -1 }

/-- A line with its label assignment, the numbers of its bytes and their bits forgotten:
what reading decided about it. -/
def Line.skeleton (l : Line) : Line :=
  { l with assigned := none, code := l.code.map (·.map CodeByte.skeleton) }

@[simp] theorem CodeByte.holds_skeleton (b : CodeByte) (k : ConstKind) :
    b.skeleton.holds k = b.holds k := rfl

@[simp] theorem CodeByte.skeleton_settle (k : ConstKind) (f : CodeByte → Except Fault String)
    (b : CodeByte) : (b.settle k f).skeleton = b.skeleton := by
  unfold CodeByte.settle; split
  · split <;> rfl
  · rfl

@[simp] theorem Line.label_skeleton (l : Line) : l.skeleton.label = l.label := rfl

@[simp] theorem Line.declared_skeleton (l : Line) : l.skeleton.declared = l.declared := rfl

@[simp] theorem Line.code_skeleton (l : Line) :
    l.skeleton.code = l.code.map (·.map CodeByte.skeleton) := rfl

@[simp] theorem Line.bytes_skeleton (l : Line) : l.skeleton.bytes = l.bytes.map CodeByte.skeleton := by
  cases hc : l.code <;> simp [Line.bytes, hc]

theorem Line.skeleton_mapBytes_settle (k : ConstKind) (f : CodeByte → Except Fault String)
    (l : Line) : (l.mapBytes (CodeByte.settle k f)).skeleton = l.skeleton := by
  cases hc : l.code <;> simp [Line.skeleton, Line.mapBytes, hc, Function.comp_def]

/-- Numbering the bytes keeps the skeleton of every line. -/
theorem map_skeleton_numberBytes (n : Nat) (ls : List Line) :
    (numberBytes n ls).map Line.skeleton = ls.map Line.skeleton := by
  induction ls generalizing n with
  | nil => rfl
  | cons l rest ih =>
    cases hc : l.code with
    | none => simp [numberBytes, hc, ih]
    | some bs =>
      have hb : (bs.zipIdx.map fun p => { p.1 with index := ((n + p.2 : Nat) : Int) }).map
          CodeByte.skeleton = bs.map CodeByte.skeleton := by
        calc _ = bs.zipIdx.map (CodeByte.skeleton ∘ Prod.fst) := by
              rw [List.map_map]; exact List.map_congr_left fun _ _ => rfl
          _ = bs.map CodeByte.skeleton := by rw [← List.map_map, List.zipIdx_map_fst]
      simp only [numberBytes, hc, List.map_cons, ih]
      congr 1
      simp only [Line.skeleton, hc, Option.map_some, hb]

/-- Giving labels to lines keeps the skeleton of every line. -/
theorem map_skeleton_assignLabels (p : Option String) (ls : List Line) :
    (assignLabels p ls).map Line.skeleton = ls.map Line.skeleton := by
  induction ls generalizing p with
  | nil => rfl
  | cons l rest ih =>
    simp only [assignLabels]
    split_ifs <;> simp [ih, Line.skeleton]

/-! ## What reading guarantees -/

/-- What reading guarantees of a line: a line that defines a label or declares a variable
has no code, and the code of an instruction line starts with its instruction byte. -/
structure Line.Parsed (l : Line) : Prop where
  label_code : l.label.isSome → l.code = none
  declared_code : l.declared.isSome → l.code = none
  code_head : ∀ bs, l.code = some bs → ∃ b rest, bs = b :: rest ∧ b.role = .instruction

/-- What reading guarantees depends only on the skeleton. -/
theorem Line.Parsed.of_skeleton {l l' : Line} (hp : l'.Parsed) (h : l'.skeleton = l.skeleton) :
    l.Parsed where
  label_code hl := by
    have hc := hp.label_code (by rwa [← Line.label_skeleton, h])
    have := congrArg Line.code h
    simp only [Line.code_skeleton, hc, Option.map_none] at this
    exact Option.map_eq_none_iff.mp this.symm
  declared_code hd := by
    have hc := hp.declared_code (by rwa [← Line.declared_skeleton, h])
    have := congrArg Line.code h
    simp only [Line.code_skeleton, hc, Option.map_none] at this
    exact Option.map_eq_none_iff.mp this.symm
  code_head bs hbs := by
    have := congrArg Line.code h
    rw [Line.code_skeleton, Line.code_skeleton, hbs, Option.map_some] at this
    obtain ⟨bs', hbs', heq⟩ := Option.map_eq_some_iff.mp this
    obtain ⟨b', rest', rfl, hb'⟩ := hp.code_head bs' hbs'
    cases bs with
    | nil => simp at heq
    | cons b rest =>
      simp only [List.map_cons, List.cons.injEq] at heq
      have hrole := congrArg CodeByte.role heq.1
      exact ⟨b, rest, rfl, by rw [← hb']; exact hrole.symm⟩

/-- A line whose code has been found: the bytes of the one instruction that takes it. -/
theorem machineBytes_eq_ok {line : String} {bs : List CodeByte} (h : machineBytes line = .ok bs) :
    ∃ i : Instruction, i.parse line = .ok bs ∧ bs ≠ [] := by
  obtain ⟨found, hfound, h⟩ := bind_eq_ok.mp h
  split at h
  · exact absurd h throw_ne_ok
  · next bs' hf =>
    rw [pure_eq_ok] at h
    subst h
    have hmem : bs' ∈ found.filter (!·.isEmpty) := by rw [hf]; exact List.mem_singleton_self _
    obtain ⟨hmem, hne⟩ := List.mem_filter.mp hmem
    obtain ⟨i, -, hi⟩ := exists_of_mem_mapM_eq_ok hfound bs' hmem
    exact ⟨i, mapError_eq_ok.mp hi, by simpa using hne⟩
  · exact absurd h throw_ne_ok

/-- Classifying constants keeps an instruction byte as it is. -/
theorem classify_instruction (s : String) : classify (CodeByte.instruction s) = .ok (.instruction s) :=
  rfl

theorem processLine_parsed {raw : String} {l : Line} (h : processLine raw = .ok l) :
    l.Parsed ∧ l.assigned = none := by
  unfold processLine at h
  dsimp only at h
  generalize (if isLabel (cleanLine raw) then some (cleanLine raw) else none) = label at h
  generalize (if isVariable (cleanLine raw) then some (cleanLine raw) else none) = declared at h
  split at h
  · -- an empty line defines nothing
    rw [← pure_eq_ok.mp h]
    exact ⟨⟨nofun, nofun, nofun⟩, rfl⟩
  · split at h
    · -- an instruction line: its bytes are those of the instruction, classified
      obtain ⟨mb, hmb, h⟩ := bind_eq_ok.mp h
      obtain ⟨bs, hbs, h⟩ := bind_eq_ok.mp h
      rw [← pure_eq_ok.mp h]
      obtain ⟨i, hi, hne⟩ := machineBytes_eq_ok hmb
      obtain ⟨-, -, -, ib, rest, -, -, rfl⟩ := i.parse_eq_ok hi hne
      rw [classifyAll, List.mapM_cons, classify_instruction] at hbs
      obtain ⟨b, hb, hbs⟩ := bind_eq_ok.mp hbs
      obtain ⟨rest', -, hbs⟩ := bind_eq_ok.mp hbs
      refine ⟨⟨nofun, nofun, ?_⟩, rfl⟩
      intro bs' hbs'
      cases hbs'
      cases hb
      exact ⟨_, rest', (pure_eq_ok.mp hbs).symm, rfl⟩
    · -- a label or a variable: no code
      rw [← pure_eq_ok.mp h]
      exact ⟨⟨fun _ => rfl, fun _ => rfl, nofun⟩, rfl⟩

/-- Every line read is `Parsed` and names no label yet. -/
theorem readLines_parsed {n : Nat} {lines : List String} {ls : List Line}
    (h : readLines n lines = .ok ls) : ∀ l ∈ ls, l.Parsed ∧ l.assigned = none := by
  induction lines generalizing n ls with
  | nil =>
    rw [readLines, Except.ok.injEq] at h
    simp [← h]
  | cons raw rest ih =>
    rw [readLines] at h
    split at h
    · next l hl =>
      obtain ⟨l', hl', h⟩ := bind_eq_ok.mp h
      obtain ⟨more, hmore, h⟩ := bind_eq_ok.mp h
      rw [← pure_eq_ok.mp h, ← pure_eq_ok.mp hl']
      intro x hx
      rcases List.mem_cons.mp hx with rfl | hx
      · -- numbering the line keeps what reading guarantees
        obtain ⟨hp, ha⟩ := processLine_parsed hl
        exact ⟨⟨hp.label_code, hp.declared_code, hp.code_head⟩, ha⟩
      · exact ih hmore x hx
    · obtain ⟨_, he, -⟩ := bind_eq_ok.mp h
      exact absurd he throw_ne_ok
    · obtain ⟨_, he, -⟩ := bind_eq_ok.mp h
      exact absurd he throw_ne_ok

/-- Lines whose skeletons are those of `Parsed` lines are `Parsed`. -/
theorem parsed_of_map_skeleton {ls ls' : List Line} (h : ls'.map Line.skeleton = ls.map Line.skeleton)
    (hp : ∀ l ∈ ls, l.Parsed) : ∀ l ∈ ls', l.Parsed := by
  intro l' hl'
  have hmem : l'.skeleton ∈ ls.map Line.skeleton := h ▸ List.mem_map_of_mem hl'
  obtain ⟨l, hl, heq⟩ := List.mem_map.mp hmem
  exact (hp l hl).of_skeleton heq

/-! ## Numbering and label assignment -/

/-- The bytes are numbered in order from `n`. -/
theorem index_numberBytes (n : Nat) (ls : List Line) :
    (programBytes (numberBytes n ls)).map CodeByte.index =
      (List.range' n (programBytes ls).length).map (fun k : Nat => (k : Int)) := by
  induction ls generalizing n with
  | nil => rfl
  | cons l rest ih =>
    cases hc : l.code with
    | none => simp [numberBytes, hc, Line.bytes, ih]
    | some bs =>
      -- the line's own bytes take the numbers from `n`, the rest go on after them
      have hb : (bs.zipIdx.map fun p => { p.1 with index := ((n + p.2 : Nat) : Int) }).map
          CodeByte.index = (List.range' n bs.length).map (fun k : Nat => (k : Int)) := by
        calc _ = ((bs.zipIdx.map Prod.snd).map (n + ·)).map (fun k : Nat => (k : Int)) := by
              simp only [List.map_map]; rfl
          _ = _ := by rw [List.zipIdx_map_snd, List.map_add_range', Nat.add_zero]
      simp only [numberBytes, hc, programBytes_cons, Line.bytes, Option.getD_some, List.map_append,
        ih, hb, List.length_append]
      rw [← List.map_append, List.range'_append_1]

/-- Numbering keeps what reading guarantees, and gives no line a label. -/
theorem numberBytes_parsed {n : Nat} {ls : List Line} (h : ∀ l ∈ ls, l.Parsed ∧ l.assigned = none) :
    ∀ l ∈ numberBytes n ls, l.Parsed ∧ l.assigned = none := by
  have hassigned : ∀ (n : Nat) (ls : List Line),
      (numberBytes n ls).map Line.assigned = ls.map Line.assigned := by
    intro n ls
    induction ls generalizing n with
    | nil => rfl
    | cons l rest ih => cases hc : l.code <;> simp [numberBytes, hc, ih]
  intro l hl
  refine ⟨parsed_of_map_skeleton (map_skeleton_numberBytes n ls) (fun l hl => (h l hl).1) l hl, ?_⟩
  have hmem : l.assigned ∈ ls.map Line.assigned := hassigned n ls ▸ List.mem_map_of_mem hl
  obtain ⟨l', hl', he⟩ := List.mem_map.mp hmem
  rw [← he, (h l' hl').2]

theorem length_programBytes_numberBytes (n : Nat) (ls : List Line) :
    (programBytes (numberBytes n ls)).length = (programBytes ls).length := by
  simpa using congrArg List.length (index_numberBytes n ls)

/-- Giving labels to lines keeps every byte. -/
theorem programBytes_assignLabels (p : Option String) (ls : List Line) :
    programBytes (assignLabels p ls) = programBytes ls := by
  induction ls generalizing p with
  | nil => rfl
  | cons l rest ih =>
    simp only [assignLabels]
    split_ifs <;> simp [ih, Line.bytes]

/-- Before resolution the bytes of the program are numbered `0, 1, …` in order. -/
theorem index_labelled (ls : List Line) :
    (programBytes (assignLabels none (numberBytes 0 ls))).map CodeByte.index =
      (List.range (programBytes (assignLabels none (numberBytes 0 ls))).length).map
        (fun k : Nat => (k : Int)) := by
  rw [programBytes_assignLabels, index_numberBytes, length_programBytes_numberBytes,
    List.range_eq_range']

theorem length_programBytes_labelled (ls : List Line) :
    (programBytes (assignLabels none (numberBytes 0 ls))).length = (programBytes ls).length := by
  rw [programBytes_assignLabels, length_programBytes_numberBytes]

/-- Numbering and label assignment leave the lines as reading made them. -/
theorem skeleton_labelled (ls : List Line) :
    (assignLabels none (numberBytes 0 ls)).map Line.skeleton = ls.map Line.skeleton := by
  rw [map_skeleton_assignLabels, map_skeleton_numberBytes]

theorem labels_labelled (ls : List Line) :
    (assignLabels none (numberBytes 0 ls)).filterMap Line.label = ls.filterMap Line.label := by
  simpa [List.filterMap_map, Function.comp_def] using
    congrArg (List.filterMap Line.label) (skeleton_labelled ls)

theorem parsed_labelled {ls : List Line} (h : ∀ l ∈ ls, l.Parsed ∧ l.assigned = none) :
    ∀ l ∈ assignLabels none (numberBytes 0 ls), l.Parsed :=
  parsed_of_map_skeleton (skeleton_labelled ls) (fun l hl => (h l hl).1)

/-! ## The structure checks -/

theorem checkStructure_eq_ok {ls : List Line} {offset : Int} (h : checkStructure ls offset = .ok ()) :
    checkLabelDefs [] ls = .ok () ∧ checkLabelQueue none ls = .ok () ∧ checkLabelRefs ls = .ok () ∧
      checkVariableDefs [] ls = .ok () ∧ checkDataSpace offset ls = .ok () ∧
      checkProgramSize ls = .ok () := by
  simp only [checkStructure, bind_eq_ok] at h
  obtain ⟨⟨⟩, h1, ⟨⟩, h2, ⟨⟩, h3, ⟨⟩, h4, ⟨⟩, h5, h6⟩ := h
  exact ⟨h1, h2, h3, h4, h5, h6⟩

/-- The label check passes only if no label is defined twice, nor one already `seen`. -/
theorem checkLabelDefs_eq_ok {seen : List (String × Int)} {ls : List Line}
    (h : checkLabelDefs seen ls = .ok ()) :
    (ls.filterMap Line.label).Nodup ∧ ∀ L ∈ ls.filterMap Line.label, seen.lookup L = none := by
  induction ls generalizing seen with
  | nil => simp
  | cons l rest ih =>
    cases hl : l.label with
    | none =>
      simp only [checkLabelDefs, hl] at h
      simpa [hl] using ih h
    | some L =>
      simp only [checkLabelDefs, hl] at h
      cases hs : seen.lookup L with
      | some _ => simp [hs] at h
      | none =>
        simp only [hs] at h
        obtain ⟨hnd, hfresh⟩ := ih h
        -- a later definition of `L` would find it among the labels seen
        have hL : L ∉ rest.filterMap Line.label := fun hm => by
          simpa using hfresh L hm
        refine ⟨by rw [List.filterMap_cons, hl]; exact List.nodup_cons.mpr ⟨hL, hnd⟩, ?_⟩
        intro L' hL'
        simp only [List.filterMap_cons, hl, List.mem_cons] at hL'
        rcases hL' with rfl | hL'
        · exact hs
        · have := hfresh L' hL'
          rw [List.lookup_cons] at this
          split at this
          · cases this
          · exact this

/-- The size check counts every byte. -/
theorem countBytes_fst (c : Nat) (bad : Int) (ls : List Line) :
    (countBytes c bad ls).1 = c + (programBytes ls).length := by
  induction ls generalizing c bad with
  | nil => rfl
  | cons l rest ih =>
    have hfold : ∀ (bs : List CodeByte) (c : Nat) (bad : Int),
        (bs.foldl (fun (acc : Nat × Int) _ =>
          (acc.1 + 1, if 255 < acc.1 + 1 ∧ acc.2 < 0 then l.number else acc.2)) (c, bad)).1 =
          c + bs.length := by
      intro bs
      induction bs with
      | nil => simp
      | cons b bs ihb => intro c bad; simp only [List.foldl_cons, ihb]; simp; omega
    simp only [countBytes, ih, programBytes_cons, List.length_append]
    rw [← Line.bytes, hfold]
    omega

/-- The size check passes only for a program of at most 255 bytes. -/
theorem length_le_of_checkProgramSize {ls : List Line} (h : checkProgramSize ls = .ok ()) :
    (programBytes ls).length ≤ 255 := by
  have hc := countBytes_fst 0 (-1) ls
  unfold checkProgramSize at h
  split at h
  · next count bad hcb =>
    rw [hcb] at hc
    split at h
    · cases h
    · simp at hc; omega

/-! ## A successful assembly, pass by pass -/

theorem assembleLines_eq_ok {lines : List String} {offset : Int} {out : List Line}
    (h : assembleLines lines offset = .ok out) :
    ∃ ls, readLines 1 lines = .ok ls ∧ checkStructure ls offset = .ok () ∧
      ∃ labels, labelMap 0 [] (assignLabels none (numberBytes 0 ls)) = .ok labels ∧
      ∃ ls₁, resolve .label (fun b => find labels b.constant)
          (assignLabels none (numberBytes 0 ls)) = .ok ls₁ ∧
      ∃ ls₂, resolve .number (fun b => Word.toBits b.value 8) ls₁ = .ok ls₂ ∧
      ∃ vars, variableMap offset [] ls₂ = .ok vars ∧
        resolve .variable (fun b => find vars b.constant) ls₂ = .ok out := by
  simp only [assembleLines, bind_eq_ok] at h
  obtain ⟨ls, hread, ⟨⟩, hcheck, labels, hlab, ls₁, h₁, ls₂, h₂, vars, hvars, hout⟩ := h
  exact ⟨ls, hread, hcheck, labels, hlab, ls₁, h₁, ls₂, h₂, vars, hvars, hout⟩

end ByteMachine.Assembly
