import ByteMachine.Proofs.Constants
import ByteMachine.Proofs.Cleaning
/- The bytes that assembly leaves. Reading a line makes an instruction byte of
   eight binary digits and a constant byte for each constant argument, holding
   a word of the line and classified as a label, a variable or a number.
   Numbering gives each byte its place, and the three resolutions give every
   constant byte eight binary digits: those of its label's place, its number or
   its variable's address, each written by `Word.toBits` at width 8.

   So every byte of an assembled program is `Settled` (`assembleLines_settled`):
   numbered below 256, holding eight binary digits, and holding a word if it is
   a constant byte; the bytes are numbered `0, 1, …` in order, every line with
   code has a byte, a line is named by a label only if it has code, and the
   lines are numbered from 1 on. -/
namespace ByteMachine

namespace Text

/-- Text that is one word: not empty, and without blanks. -/
def IsWord (s : String) : Prop := s ≠ "" ∧ ∀ c ∈ s.toList, isBlank c = false

theorem isWord_of_mem_words {s w : String} (h : w ∈ words s) : IsWord w := by
  obtain ⟨cs, hcs, rfl⟩ := List.mem_map.mp h
  obtain ⟨hne, -, hblank⟩ := mem_wordsOf hcs
  refine ⟨fun he => hne ?_, by simpa using hblank⟩
  simpa using congrArg String.toList he

end Text

namespace Assembly

open Text Instruction Machine

/-! ## Reading -/

/-- A constant argument filled in from a word holds a word: the word itself, or the text
between the brackets of a memory index. -/
theorem isWord_fill {a : ArgSpec} {tok : String} (hm : a.Matches tok) (hk : a.kind = .constant)
    (ht : IsWord tok) : IsWord (a.fill tok).value := by
  unfold ArgSpec.fill ArgSpec.constantOf
  rw [if_pos hk]
  cases hmem : a.memory with
  | false => exact ht
  | true =>
    simp only [ArgSpec.Matches, hk, hmem] at hm
    obtain ⟨t, rfl, hc⟩ := hm
    show IsWord (memoryPosition (asMemoryIndex t))
    rw [memoryPosition_asMemoryIndex]
    refine ⟨ne_empty_of_isConstant hc, fun c hct => ht.2 c ?_⟩
    rw [toList_asMemoryIndex]
    simp [hct]

theorem constantBytes_words {sig : Signature} {args : List String} (hfit : Fits sig args)
    (hargs : ∀ tok ∈ args, IsWord tok) :
    ∀ b ∈ constantBytes (List.zipWith ArgSpec.fill sig args),
      b.role = .constant ∧ IsWord b.constant := by
  induction hfit with
  | nil => simp [constantBytes]
  | @cons a tok sig args hm _ ih =>
    intro b hb
    have hrest : ∀ t ∈ args, IsWord t := fun t ht => hargs t (List.mem_cons_of_mem _ ht)
    rw [List.zipWith_cons_cons, constantBytes, List.filterMap_cons, ArgSpec.kind_fill] at hb
    by_cases hk : a.kind = .constant
    · rw [if_pos hk] at hb
      rcases List.mem_cons.mp hb with rfl | hb
      · exact ⟨rfl, isWord_fill hm hk (hargs tok List.mem_cons_self)⟩
      · exact ih hrest b hb
    · rw [if_neg hk] at hb
      exact ih hrest b hb

/-- The machine code of a line: an instruction byte of eight binary digits, then constant bytes
holding words of the line. -/
theorem machineBytes_bytes {line : String} {mb : List CodeByte} (h : machineBytes line = .ok mb) :
    ∀ b ∈ mb, (b.role ≠ .constant → IsBits b.bits 8) ∧
      (b.role = .constant → IsWord b.constant) := by
  rcases takes_cases line with hother | ⟨i, sig, args, ht⟩ | ⟨i, args, htok, hunfit⟩
  · rw [machineBytes_of_other hother] at h
    cases h
  · obtain ⟨ib, hib, hok⟩ := machineBytes_of_takes ht
    obtain ⟨ib', hib', hbits⟩ := byte_ok ht.2.1
    rw [hib, Except.ok.injEq] at hib'
    rw [hok, Except.ok.injEq] at h
    subst h hib'
    have hargs : ∀ tok ∈ args, IsWord tok := fun tok htok =>
      isWord_of_mem_words (show tok ∈ tokens line by rw [ht.1]; exact List.mem_cons_of_mem _ htok)
    intro b hb
    rcases List.mem_cons.mp hb with rfl | hb
    · exact ⟨fun _ => hbits, nofun⟩
    · obtain ⟨hr, hw⟩ := constantBytes_words ht.2.2 hargs b hb
      exact ⟨fun hne => absurd hr hne, fun _ => hw⟩
  · rw [machineBytes_of_unfit htok hunfit] at h
    cases h

/-- A byte whose bits are settled, or a constant byte of one of the kinds `K` still waiting for
its bits. -/
def CodeByte.Pending (K : List ConstKind) (b : CodeByte) : Prop :=
  IsBits b.bits 8 ∨ b.role = .constant ∧ b.kind ∈ K

/-- The kinds of constants, in the order in which assembly resolves them. -/
def resolvedKinds : List ConstKind := [.label, .number, .variable]

/-- Classifying keeps the constant and the role of a byte, and gives a constant byte its kind. -/
theorem Identified.pending {b₀ b : CodeByte} (h : Identified b₀ b)
    (hb : b₀.role ≠ .constant → IsBits b₀.bits 8) :
    b.Pending resolvedKinds ∧ b.role = b₀.role ∧ b.constant = b₀.constant := by
  cases h with
  | kept hr => exact ⟨.inl (hb hr), rfl, rfl⟩
  | asLabel hr => exact ⟨.inr ⟨hr, by simp [resolvedKinds]⟩, rfl, rfl⟩
  | asVariable hr => exact ⟨.inr ⟨hr, by simp [resolvedKinds]⟩, rfl, rfl⟩
  | asNumber hr => exact ⟨.inr ⟨hr, by simp [resolvedKinds]⟩, rfl, rfl⟩

/-- Every byte that reading a line makes waits for its bits only if it holds a constant, and a
constant byte holds a word. -/
theorem processLine_bytes {raw : String} {l : Line} (h : processLine raw = .ok l) :
    ∀ b ∈ l.bytes, b.Pending resolvedKinds ∧ (b.role = .constant → IsWord b.constant) := by
  unfold processLine at h
  dsimp only at h
  generalize (if isLabel (cleanLine raw) then some (cleanLine raw) else none) = label at h
  generalize (if isVariable (cleanLine raw) then some (cleanLine raw) else none) = declared at h
  split at h
  · rw [← pure_eq_ok.mp h]
    simp [Line.bytes]
  · split at h
    · -- an instruction line: each byte is classified from a byte of its machine code
      obtain ⟨mb, hmb, h⟩ := bind_eq_ok.mp h
      obtain ⟨bs, hbs, h⟩ := bind_eq_ok.mp h
      rw [← pure_eq_ok.mp h]
      intro b hb
      obtain ⟨b₀, hb₀, hcl⟩ := exists_of_mem_mapM_eq_ok hbs b hb
      have hread := machineBytes_bytes hmb b₀ hb₀
      obtain ⟨hpend, hrole, hconst⟩ := (classify_eq_ok_iff.mp hcl).pending hread.1
      refine ⟨hpend, fun hr => ?_⟩
      rw [hconst]
      exact hread.2 (hrole ▸ hr)
    · rw [← pure_eq_ok.mp h]
      simp [Line.bytes]

/-- Reading numbers the lines from `n` on. -/
theorem readLines_number {n : Nat} {raws : List String} {ls : List Line}
    (h : readLines n raws = .ok ls) :
    ∀ l ∈ ls, (n : Int) ≤ l.number ∧ l.number < n + raws.length := by
  induction raws generalizing n ls with
  | nil =>
    rw [readLines, Except.ok.injEq] at h
    simp [← h]
  | cons raw rest ih =>
    rw [readLines] at h
    split at h
    · obtain ⟨l', hl', h⟩ := bind_eq_ok.mp h
      obtain ⟨more, hmore, h⟩ := bind_eq_ok.mp h
      rw [← pure_eq_ok.mp h, ← pure_eq_ok.mp hl']
      intro x hx
      rcases List.mem_cons.mp hx with rfl | hx
      · simp only [List.length_cons]
        omega
      · have := ih hmore x hx
        simp only [List.length_cons]
        omega
    · obtain ⟨_, he, -⟩ := bind_eq_ok.mp h
      exact absurd he throw_ne_ok
    · obtain ⟨_, he, -⟩ := bind_eq_ok.mp h
      exact absurd he throw_ne_ok

theorem readLines_bytes {n : Nat} {raws : List String} {ls : List Line}
    (h : readLines n raws = .ok ls) :
    ∀ b ∈ programBytes ls, b.Pending resolvedKinds ∧
      (b.role = .constant → IsWord b.constant) := by
  intro b hb
  obtain ⟨l, hl, hbl⟩ := List.mem_flatMap.mp hb
  obtain ⟨raw, l₀, m, hl₀, rfl⟩ := readLines_mem h l hl
  exact processLine_bytes hl₀ b hbl

/-! ## Numbering and resolving -/

/-- Numbering a byte only sets its number. -/
theorem exists_of_mem_numberBytes {n : Nat} {ls : List Line} {b : CodeByte}
    (h : b ∈ programBytes (numberBytes n ls)) :
    ∃ b₀ ∈ programBytes ls, b = { b₀ with index := b.index } := by
  induction ls generalizing n with
  | nil => cases h
  | cons l rest ih =>
    cases hc : l.code with
    | none =>
      simp only [numberBytes, hc, programBytes_cons, Line.bytes, Option.getD_none,
        List.nil_append] at h ⊢
      exact ih h
    | some bs =>
      simp only [numberBytes, hc, programBytes_cons, Line.bytes, Option.getD_some,
        List.mem_append] at h ⊢
      rcases h with h | h
      · obtain ⟨p, hp, rfl⟩ := List.mem_map.mp h
        exact ⟨p.1, .inl (List.fst_mem_of_mem_zipIdx hp), rfl⟩
      · obtain ⟨b₀, hb₀, heq⟩ := ih h
        exact ⟨b₀, .inr hb₀, heq⟩

/-- Resolving the constants of kind `k` with texts of eight binary digits
settles every byte that waited for them. -/
theorem resolve_pending {k : ConstKind} {K : List ConstKind} {f : CodeByte → Except Fault String}
    {ls ls' : List Line} (h : resolve k f ls = .ok ls') (hf : ∀ b s, f b = .ok s → IsBits s 8)
    (hall : ∀ b ∈ programBytes ls, b.Pending (k :: K)) :
    ∀ b ∈ programBytes ls', b.Pending K := by
  obtain ⟨rfl, hfound⟩ := resolve_eq_ok h
  intro b hb
  rw [programBytes_map_mapBytes] at hb
  obtain ⟨b₀, hb₀, rfl⟩ := List.mem_map.mp hb
  by_cases hk : b₀.holds k = true
  · obtain ⟨s, hs⟩ := hfound b₀ hb₀ hk
    rw [CodeByte.settle_of_ok hk hs]
    exact .inl (hf b₀ s hs)
  · rw [CodeByte.settle_of_not_holds (by simpa using hk)]
    apply (hall b₀ hb₀).imp_right
    intro ⟨hr, hK⟩
    -- a constant byte that does not hold `k` is of another kind
    have hne : b₀.kind ≠ k := fun he => hk (by simp [CodeByte.holds, hr, he])
    exact ⟨hr, (List.mem_cons.mp hK).resolve_left hne⟩

/-- An entry whose bits were written at width 8 keeps every entry of a map at eight binary
digits. -/
theorem forall_bits_cons {name bits : String} {v : Int} {acc : List (String × String)}
    (hbits : Word.toBits v 8 = .ok bits) (hacc : ∀ e ∈ acc, IsBits e.2 8) :
    ∀ e ∈ (name, bits) :: acc, IsBits e.2 8 := by
  intro e he
  rcases List.mem_cons.mp he with rfl | he
  · exact (byte_twos_complement hbits).2.2.1
  · exact hacc e he

/-- Every entry of the label map holds eight binary digits. -/
theorem labelMap_bits : ∀ {next : Nat} {acc m : List (String × String)} {ls : List Line},
    labelMap next acc ls = .ok m → (∀ e ∈ acc, IsBits e.2 8) → ∀ e ∈ m, IsBits e.2 8
  | _, acc, m, [], h, hacc => by
    rw [labelMap, Except.ok.injEq] at h
    rwa [← h]
  | next, acc, m, l :: rest, h, hacc => by
    rw [labelMap] at h
    split at h
    · obtain ⟨bits, hbits, h⟩ := bind_eq_ok.mp h
      obtain ⟨acc', hacc', h⟩ := bind_eq_ok.mp h
      apply labelMap_bits h
      rw [← pure_eq_ok.mp hacc']
      exact forall_bits_cons hbits hacc
    · obtain ⟨acc', hacc', h⟩ := bind_eq_ok.mp h
      apply labelMap_bits h
      rwa [← pure_eq_ok.mp hacc']

theorem foldlM_bits : ∀ {bs : List CodeByte} {st r : Int × List (String × String)},
    bs.foldlM (fun (st : Int × List (String × String)) b =>
        if b.holds .variable && (st.2.lookup b.constant).isNone then do
          let bits ← Word.toBits st.1 8
          pure (st.1 + 1, (b.constant, bits) :: st.2)
        else pure st) st = .ok r →
      (∀ e ∈ st.2, IsBits e.2 8) → ∀ e ∈ r.2, IsBits e.2 8
  | [], st, r, h, hst => by
    rw [List.foldlM_nil, pure_eq_ok] at h
    rwa [← h]
  | b :: bs, st, r, h, hst => by
    rw [List.foldlM_cons, bind_eq_ok] at h
    obtain ⟨st', hst', h⟩ := h
    apply foldlM_bits h
    split at hst'
    · obtain ⟨bits, hbits, hst'⟩ := bind_eq_ok.mp hst'
      rw [← pure_eq_ok.mp hst']
      exact forall_bits_cons hbits hst
    · rwa [← pure_eq_ok.mp hst']

/-- Every entry of the variable map holds eight binary digits, whatever the offset. -/
theorem variableMap_bits : ∀ {next : Int} {acc m : List (String × String)} {ls : List Line},
    variableMap next acc ls = .ok m → (∀ e ∈ acc, IsBits e.2 8) → ∀ e ∈ m, IsBits e.2 8
  | _, acc, m, [], h, hacc => by
    rw [variableMap, Except.ok.injEq] at h
    rwa [← h]
  | next, acc, m, l :: rest, h, hacc => by
    rw [variableMap] at h
    split at h
    · split at h
      · exact variableMap_bits h hacc
      · obtain ⟨bits, hbits, h⟩ := bind_eq_ok.mp h
        exact variableMap_bits h (forall_bits_cons hbits hacc)
    · obtain ⟨⟨next', acc'⟩, hf, h⟩ := bind_eq_ok.mp h
      exact variableMap_bits h (foldlM_bits hf hacc)

/-- Every byte of an assembled program holds eight binary digits. -/
theorem assembleLines_bits {raws : List String} {offset : Int} {out : List Line}
    (h : assembleLines raws offset = .ok out) : ∀ b ∈ programBytes out, IsBits b.bits 8 := by
  obtain ⟨ls, hread, -, labels, hlab, ls₁, h₁, ls₂, h₂, vars, hvars, hout⟩ :=
    assembleLines_eq_ok h
  -- before resolution every byte is settled or waits for one of the three resolutions
  have h₀ : ∀ b ∈ programBytes (assignLabels none (numberBytes 0 ls)),
      b.Pending resolvedKinds := by
    rw [programBytes_assignLabels]
    intro b hb
    obtain ⟨b₀, hb₀, heq⟩ := exists_of_mem_numberBytes hb
    rw [heq]
    exact (readLines_bytes hread b₀ hb₀).1
  have hlabels := labelMap_bits hlab nofun
  have hvars := variableMap_bits hvars nofun
  have h₁ := resolve_pending h₁ (fun _ _ hs => hlabels _ (mem_of_find_eq_ok hs)) h₀
  have h₂ := resolve_pending h₂ (fun _ _ hs => (byte_twos_complement hs).2.2.1) h₁
  intro b hb
  rcases resolve_pending hout (fun _ _ hs => hvars _ (mem_of_find_eq_ok hs)) h₂ b hb with
    hbits | ⟨-, hK⟩
  · exact hbits
  · cases hK

/-- Resolving keeps the number of every byte. -/
theorem map_index_of_resolve {k : ConstKind} {f : CodeByte → Except Fault String}
    {ls ls' : List Line} (h : resolve k f ls = .ok ls') :
    (programBytes ls').map CodeByte.index = (programBytes ls).map CodeByte.index := by
  rw [(resolve_eq_ok h).1, programBytes_map_mapBytes, List.map_map]
  exact List.map_congr_left fun b _ => CodeByte.index_settle k f b

/-- The bytes of an assembled program, at most 255 of them, are
numbered `0, 1, …` in order. -/
theorem assembleLines_index {raws : List String} {offset : Int} {out : List Line}
    (h : assembleLines raws offset = .ok out) :
    (programBytes out).map CodeByte.index =
      (List.range (programBytes out).length).map (fun k : Nat => (k : Int)) ∧
      (programBytes out).length ≤ 255 := by
  obtain ⟨ls, -, hcheck, labels, -, ls₁, h₁, ls₂, h₂, vars, -, hout⟩ :=
    assembleLines_eq_ok h
  have hidx : (programBytes out).map CodeByte.index =
      (programBytes (assignLabels none (numberBytes 0 ls))).map CodeByte.index := by
    rw [map_index_of_resolve hout, map_index_of_resolve h₂, map_index_of_resolve h₁]
  have hlen : (programBytes out).length = (programBytes ls).length := by
    have := congrArg List.length hidx
    rwa [List.length_map, List.length_map, length_programBytes_labelled] at this
  refine ⟨?_, ?_⟩
  · rw [hidx, index_labelled, length_programBytes_labelled, hlen]
  · rw [hlen]
    exact length_le_of_checkProgramSize (checkStructure_eq_ok hcheck).2.2.2.2.2

/-! ## The lines -/

theorem Line.skeleton_mapBytes {g : CodeByte → CodeByte} (hg : ∀ b, (g b).skeleton = b.skeleton)
    (l : Line) : (l.mapBytes g).skeleton = l.skeleton := by
  cases hc : l.code <;> simp [Line.skeleton, Line.mapBytes, hc, Function.comp_def, hg]

/-- Assembly changes only the bytes of the lines that numbering and label assignment made, through
one map of the bytes that keeps their skeletons. -/
theorem assembleLines_eq_map {raws : List String} {offset : Int} {out : List Line}
    (h : assembleLines raws offset = .ok out) :
    ∃ ls g, readLines 1 raws = .ok ls ∧
      out = (assignLabels none (numberBytes 0 ls)).map (Line.mapBytes g) ∧
      ∀ b, (g b).skeleton = b.skeleton := by
  obtain ⟨ls, hread, -, labels, -, ls₁, h₁, ls₂, h₂, vars, -, hout⟩ :=
    assembleLines_eq_ok h
  refine ⟨ls, CodeByte.settle .variable (fun b => find vars b.constant) ∘
    CodeByte.settle .number (fun b => Word.toBits b.value 8) ∘
    CodeByte.settle .label (fun b => find labels b.constant), hread, ?_, fun b => by simp⟩
  rw [(resolve_eq_ok hout).1, (resolve_eq_ok h₂).1, (resolve_eq_ok h₁).1, List.map_map,
    List.map_map]
  apply List.map_congr_left
  intro l _
  rw [Function.comp_apply, Function.comp_apply, Line.mapBytes_comp, Line.mapBytes_comp]
  rfl

/-- A label names only a line with code. -/
theorem isSome_code_of_assignLabels : ∀ {p : Option String} {ls : List Line},
    (∀ l ∈ ls, l.assigned = none) →
      ∀ l ∈ assignLabels p ls, l.assigned.isSome → l.code.isSome
  | _, [], _ => nofun
  | p, l :: rest, hls => by
    have hrest : ∀ x ∈ rest, x.assigned = none := fun x hx => hls x (List.mem_cons_of_mem _ hx)
    intro l' hl' ha
    unfold assignLabels at hl'
    dsimp only at hl'
    generalize (if p.isNone then (if l.label.isSome then l.label else p) else p) = q at hl'
    split_ifs at hl' with hc
    · rcases List.mem_cons.mp hl' with rfl | hl'
      · exact hc.1
      · exact isSome_code_of_assignLabels hrest l' hl' ha
    · rcases List.mem_cons.mp hl' with rfl | hl'
      · rw [hls l' List.mem_cons_self] at ha
        cases ha
      · exact isSome_code_of_assignLabels hrest l' hl' ha

/-! ## Settled lines -/

/-- A byte as assembly leaves it: numbered below 256, with eight binary digits, and holding a word
if it is a constant byte. -/
structure CodeByte.Settled (b : CodeByte) : Prop where
  index_nonneg : 0 ≤ b.index
  index_lt : b.index < 256
  bits : IsBits b.bits 8
  constant_word : b.role = .constant → IsWord b.constant

/-- A line as assembly leaves it: its bytes are settled, it has one at least if it has code, and
a label names it only if it has code. -/
structure Line.Settled (l : Line) : Prop where
  code_ne_nil : l.code ≠ some []
  assigned_code : l.assigned.isSome → l.code.isSome
  bytes : ∀ b ∈ l.bytes, b.Settled

/-- After a successful assembly every line is settled and numbered from
1 to the number of lines read, and the bytes are numbered `0, 1, …` in program order. -/
theorem assembleLines_settled {raws : List String} {offset : Int} {out : List Line}
    (h : assembleLines raws offset = .ok out) :
    (∀ l ∈ out, l.Settled ∧ 1 ≤ l.number ∧ l.number ≤ raws.length) ∧
      (programBytes out).map CodeByte.index =
        (List.range (programBytes out).length).map (fun k : Nat => (k : Int)) := by
  obtain ⟨hidx, hlen⟩ := assembleLines_index h
  have hbits := assembleLines_bits h
  obtain ⟨ls, g, hread, hout, hg⟩ := assembleLines_eq_map h
  have hskel : out.map Line.skeleton = ls.map Line.skeleton := by
    rw [hout, List.map_map, ← skeleton_labelled]
    exact List.map_congr_left fun l _ => Line.skeleton_mapBytes hg l
  -- a constant byte holds a word, as reading made it
  have hword :=
    forall_programBytes_of_skeleton (P := fun b => b.role = .constant → IsWord b.constant)
    hskel (fun _ => Iff.rfl) (fun b hb => (readLines_bytes hread b hb).2)
  refine ⟨fun l hl => ?_, hidx⟩
  have hbytes : ∀ b ∈ l.bytes, b ∈ programBytes out :=
    fun b hb => List.mem_flatMap.mpr ⟨l, hl, hb⟩
  -- the line keeps the number that reading gave it
  obtain ⟨l₁, hl₁, hsk⟩ :=
    List.mem_map.mp (hskel ▸ List.mem_map_of_mem hl : l.skeleton ∈ ls.map Line.skeleton)
  have hnum : l.number = l₁.number :=
    show l.skeleton.number = l₁.skeleton.number from congrArg Line.number hsk.symm
  have hrange := readLines_number hread l₁ hl₁
  rw [hout] at hl
  obtain ⟨l₀, hl₀, rfl⟩ := List.mem_map.mp hl
  refine ⟨⟨?_, ?_, fun b hb => ?_⟩, by omega, by omega⟩
  · -- the code of a line starts with its instruction byte
    intro hnil
    simp only [Line.code_mapBytes, Option.map_eq_some_iff, List.map_eq_nil_iff] at hnil
    obtain ⟨bs, hbs, rfl⟩ := hnil
    obtain ⟨_, _, hne, -⟩ :=
      (parsed_labelled (readLines_parsed hread) l₀ hl₀).code_head [] hbs
    cases hne
  · intro ha
    have := isSome_code_of_assignLabels
      (numberBytes_parsed (readLines_parsed hread) · · |>.2) l₀ hl₀ ha
    simpa using this
  · -- a byte is numbered by its place, below the 255 bytes of the program
    have hb' := hbytes b hb
    have hmem : b.index ∈ (List.range (programBytes out).length).map (fun k : Nat => (k : Int)) :=
      hidx ▸ List.mem_map_of_mem hb'
    obtain ⟨k, hk, hkb⟩ := List.mem_map.mp hmem
    have hk' := List.mem_range.mp hk
    exact ⟨by omega, by omega, hbits b hb', hword b hb'⟩

end Assembly

end ByteMachine
