import ByteMachine.Proofs.Decoding
/- The grammar of instruction lines. A line reads as an instruction when its
   words are the instruction's name followed by arguments that fit one of its
   signatures position by position (`Reads`): a module argument is the
   module's name, or that name as a memory index `[...]`; a constant argument
   is a constant that is no memory index, or a constant inside a memory index.

   1. Matching one argument succeeds exactly on the tokens its description
      asks for (`ArgSpec.accept_eq_some_iff`). The descriptions of one
      instruction's signatures ask for different tokens somewhere
      (`signatures_apart`), so no argument list fits two of them.
   2. Reading a line of an instruction gives the instruction byte of the one
      fitting signature, then a byte for each constant argument
      (`parse_of_reads`); arguments that fit no signature are refused with
      the list of possible arguments, and a line of another instruction gives
      nothing.
   3. The machine code of a line (`machineBytes_grammar`): there is some
      exactly when the line reads as an instruction; its instruction byte is
      eight binary digits and belongs to one instruction and signature alone;
      any other line is refused as no instruction or for its arguments, and
      never as ambiguous. -/
namespace ByteMachine.Assembly

/-! ## Memory indexes -/

theorem toList_asMemoryIndex (t : String) :
    (asMemoryIndex t).toList = '[' :: (t.toList ++ [']']) := by
  simp [asMemoryIndex]

theorem isMemoryIndex_asMemoryIndex {t : String} (ht : t ≠ "") :
    isMemoryIndex (asMemoryIndex t) = true := by
  have hne : t.toList ≠ [] := fun h => ht (String.ext (by rw [h]; rfl))
  have hlen : 0 < t.toList.length := List.length_pos_iff.mpr hne
  have hlast : ('[' :: (t.toList ++ [']'])).getLast? = some ']' :=
    List.getLast?_eq_some_iff.mpr ⟨'[' :: t.toList, rfl⟩
  rw [isMemoryIndex, ← String.length_toList, toList_asMemoryIndex]
  simp only [List.head?_cons, beq_self_eq_true, hlast, List.length_cons, List.length_append,
    Bool.true_and, decide_eq_true_eq]
  omega

theorem memoryPosition_asMemoryIndex (t : String) : memoryPosition (asMemoryIndex t) = t := by
  -- the window from the second character to the last one leaves the text inside the brackets
  have hlen : ('[' :: (t.toList ++ [']'])).length = t.toList.length + 2 := by simp
  have h1 : Text.clampIndex (t.toList.length + 2) 1 = 1 := by simp [Text.clampIndex]
  have h2 : Text.clampIndex (t.toList.length + 2) (-1) = t.toList.length + 1 := by
    simp [Text.clampIndex]; omega
  rw [memoryPosition, toList_asMemoryIndex, Text.window, hlen, h1, h2]
  simp

theorem asMemoryIndex_memoryPosition {s : String} (h : isMemoryIndex s = true) :
    asMemoryIndex (memoryPosition s) = s := by
  simp only [isMemoryIndex, Bool.and_eq_true, beq_iff_eq, decide_eq_true_eq] at h
  obtain ⟨⟨hhead, hlast⟩, hlen⟩ := h
  -- the characters are `[`, a middle part and `]`
  obtain ⟨rest, hs⟩ : ∃ rest, s.toList = '[' :: rest := by
    cases hl : s.toList with
    | nil => simp [hl] at hhead
    | cons c rest =>
      rw [hl, List.head?_cons, Option.some.injEq] at hhead
      exact ⟨rest, by rw [hhead]⟩
  have hrest : rest ≠ [] := by
    rintro rfl
    rw [← String.length_toList, hs] at hlen
    simp at hlen
  obtain ⟨mid, rfl⟩ : ∃ mid, rest = mid ++ [']'] := by
    rw [hs, List.getLast?_cons, List.getLast?_eq_some_getLast hrest] at hlast
    exact List.getLast?_eq_some_iff.mp
      (by rw [List.getLast?_eq_some_getLast hrest]; simpa using hlast)
  have hs' : s.toList = (asMemoryIndex (String.ofList mid)).toList := by
    rw [hs, toList_asMemoryIndex, String.toList_ofList]
  rw [String.ext hs', memoryPosition_asMemoryIndex]

/-- A memory index is the brackets around its position, and a text in brackets is a memory index
with that position. -/
theorem isMemoryIndex_and_position {tok t : String} (ht : t ≠ "") :
    (isMemoryIndex tok = true ∧ memoryPosition tok = t) ↔ tok = asMemoryIndex t := by
  constructor
  · rintro ⟨hm, rfl⟩
    exact (asMemoryIndex_memoryPosition hm).symm
  · rintro rfl
    exact ⟨isMemoryIndex_asMemoryIndex ht, memoryPosition_asMemoryIndex t⟩

theorem ne_empty_of_isConstant {t : String} (h : isConstant t = true) : t ≠ "" := by
  rintro rfl
  exact absurd h (by decide)

/-! ## Arguments -/

/-- The tokens that a description asks for: the module itself or the module as a memory index, a
constant that is no memory index, or a constant inside a memory index. -/
def ArgSpec.Matches (spec : ArgSpec) (tok : String) : Prop :=
  match spec.kind, spec.memory with
  | .module, false => tok = spec.value
  | .module, true => tok = asMemoryIndex spec.value
  | .constant, false => isConstant tok = true ∧ isMemoryIndex tok = false
  | .constant, true => ∃ t, tok = asMemoryIndex t ∧ isConstant t = true
  | .other _, _ => False

/-- The constant that a token gives: the token, or the text inside a memory index. -/
def ArgSpec.constantOf (spec : ArgSpec) (tok : String) : String :=
  if spec.memory then memoryPosition tok else tok

/-- The description that a token fills in: a constant argument records the token's constant. -/
def ArgSpec.fill (spec : ArgSpec) (tok : String) : ArgSpec :=
  if spec.kind = .constant then { spec with value := spec.constantOf tok } else spec

/-- A description as the signature tables write them: a module argument names a module, which is
neither a constant nor a memory index, and every argument asks for a module or a constant. -/
def ArgSpec.Proper (spec : ArgSpec) : Prop :=
  match spec.kind with
  | .module => spec.value ≠ "" ∧ isConstant spec.value = false ∧ isMemoryIndex spec.value = false
  | .constant => True
  | .other _ => False

instance (spec : ArgSpec) : Decidable spec.Proper :=
  match spec with
  | ⟨.module, _, v⟩ =>
    inferInstanceAs (Decidable (v ≠ "" ∧ isConstant v = false ∧ isMemoryIndex v = false))
  | ⟨.constant, _, _⟩ => isTrue trivial
  | ⟨.other _, _, _⟩ => isFalse id

namespace ArgSpec

theorem accept_eq_some_iff {spec : ArgSpec} (hp : spec.Proper) {tok : String} {filled : ArgSpec} :
    spec.accept tok = some filled ↔ spec.Matches tok ∧ filled = spec.fill tok := by
  obtain ⟨kind, memory, v⟩ := spec
  cases kind <;> cases memory <;>
    simp only [accept, Matches, fill, constantOf, Proper, reduceCtorEq, ↓reduceIte] at hp ⊢ <;>
    rw [Option.ite_none_right_eq_some, Option.some.injEq, eq_comm (a := filled)] <;>
    refine and_congr_left fun _ => ?_
  case module.false =>
    -- the module's name is no memory index
    constructor
    · simp_all
    · rintro rfl
      simp [hp.2.2]
  case module.true =>
    simpa only [Bool.and_eq_true, beq_iff_eq] using isMemoryIndex_and_position hp.1
  case constant.false => simp [and_comm]
  case constant.true =>
    simp only [Bool.and_eq_true]
    constructor
    · rintro ⟨hm, hc⟩
      exact ⟨_, (asMemoryIndex_memoryPosition hm).symm, hc⟩
    · rintro ⟨t, rfl, hc⟩
      rw [memoryPosition_asMemoryIndex]
      exact ⟨isMemoryIndex_asMemoryIndex (ne_empty_of_isConstant hc), hc⟩

/-- What a matching token shows: it is a memory index exactly for a bracketed description, its
constant is a constant exactly for a constant description, and for a module description it is the
module. -/
theorem Matches.facts {spec : ArgSpec} (hp : spec.Proper) {tok : String} (h : spec.Matches tok) :
    isMemoryIndex tok = spec.memory ∧ isConstant (spec.constantOf tok) = (spec.kind == .constant) ∧
      (spec.kind = .module → spec.constantOf tok = spec.value) := by
  obtain ⟨kind, memory, v⟩ := spec
  cases kind <;> cases memory <;> simp only [Matches, Proper, constantOf] at hp h ⊢
  case module.false =>
    subst h
    exact ⟨hp.2.2, hp.2.1, fun _ => rfl⟩
  case module.true =>
    subst h
    rw [memoryPosition_asMemoryIndex]
    exact ⟨isMemoryIndex_asMemoryIndex hp.1, hp.2.1, fun _ => rfl⟩
  case constant.false => exact ⟨h.2, h.1, nofun⟩
  case constant.true =>
    obtain ⟨t, rfl, ht⟩ := h
    rw [memoryPosition_asMemoryIndex]
    exact ⟨isMemoryIndex_asMemoryIndex (ne_empty_of_isConstant ht), ht, nofun⟩

/-- Two descriptions of the tables that agree on whether they ask for a constant ask for the same
kind. -/
theorem Proper.kind_eq {a b : ArgSpec} (ha : a.Proper) (hb : b.Proper)
    (h : (a.kind == .constant) = (b.kind == .constant)) : a.kind = b.kind := by
  obtain ⟨ka, _, _⟩ := a
  obtain ⟨kb, _, _⟩ := b
  cases ka <;> cases kb <;> first | rfl | simp_all [Proper]

/-- Two descriptions that no token matches both: they differ in kind or in bracketing, or they
name different modules. -/
def Apart (a b : ArgSpec) : Prop :=
  a.kind ≠ b.kind ∨ a.memory ≠ b.memory ∨ (a.kind = .module ∧ a.value ≠ b.value)

instance (a b : ArgSpec) : Decidable (a.Apart b) := inferInstanceAs (Decidable (_ ∨ _ ∨ _))

theorem not_matches_of_apart {a b : ArgSpec} (ha : a.Proper) (hb : b.Proper) (hab : a.Apart b)
    {tok : String} (hta : a.Matches tok) (htb : b.Matches tok) : False := by
  obtain ⟨ma, ca, va⟩ := hta.facts ha
  obtain ⟨mb, cb, vb⟩ := htb.facts hb
  -- the token decides the bracketing, and with it the constant and the kind
  have hmem : a.memory = b.memory := ma.symm.trans mb
  have hc : a.constantOf tok = b.constantOf tok := by simp [constantOf, hmem]
  have hkind : a.kind = b.kind := ha.kind_eq hb (by rw [← ca, ← cb, hc])
  rcases hab with hk | hm | ⟨hk, hv⟩
  · exact hk hkind
  · exact hm hmem
  · exact hv (by rw [← va hk, ← vb (hkind ▸ hk), hc])

end ArgSpec

/-! ## Signatures -/

/-- The arguments fit the signature: one argument per description, each a token that the
description asks for. -/
def Fits (sig : Signature) (args : List String) : Prop := List.Forall₂ ArgSpec.Matches sig args

theorem Fits.eq_singleton {a : ArgSpec} {args : List String} (h : Fits [a] args) :
    ∃ x, args = [x] := by
  cases h with
  | cons _ hrest => cases hrest; exact ⟨_, rfl⟩

theorem Fits.eq_pair {a b : ArgSpec} {args : List String} (h : Fits [a, b] args) :
    ∃ x y, args = [x, y] := by
  cases h with
  | cons _ hrest =>
    cases hrest with
    | cons _ hrest => cases hrest; exact ⟨_, _, rfl⟩

/-- Two signatures that no argument list fits both: their lengths differ, or they hold apart
descriptions at one position. -/
def SignatureApart (s t : Signature) : Prop := s.length ≠ t.length ∨ ∃ p ∈ s.zip t, p.1.Apart p.2

instance (s t : Signature) : Decidable (SignatureApart s t) := inferInstanceAs (Decidable (_ ∨ _))

theorem not_fits_of_apart {s t : Signature} (hs : ∀ a ∈ s, a.Proper) (ht : ∀ a ∈ t, a.Proper)
    (hst : SignatureApart s t) {args : List String} (hfs : Fits s args) (hft : Fits t args) :
    False := by
  induction hfs generalizing t with
  | nil =>
    cases hft
    simp [SignatureApart] at hst
  | @cons a tok s' args' ha hrest ih =>
    cases hft with
    | @cons b _ t' _ hb hrest' =>
      rcases hst with hlen | ⟨p, hp, hap⟩
      · exact hlen (by simp [hrest.length_eq, hrest'.length_eq])
      rw [List.zip_cons_cons, List.mem_cons] at hp
      rcases hp with rfl | hp
      · exact ArgSpec.not_matches_of_apart (hs a List.mem_cons_self) (ht b List.mem_cons_self) hap
          ha hb
      · exact ih (fun a h => hs a (List.mem_cons_of_mem _ h))
          (fun b h => ht b (List.mem_cons_of_mem _ h)) (.inr ⟨p, hp, hap⟩) hrest'

theorem mapM_accept_eq_some_iff :
    ∀ {sig : Signature} {args : List String}, (∀ a ∈ sig, a.Proper) → sig.length = args.length →
      ∀ {parsed : Signature}, (sig.zip args).mapM (fun p => p.1.accept p.2) = some parsed ↔
        Fits sig args ∧ parsed = List.zipWith ArgSpec.fill sig args
  | [], [], _, _, parsed => by simp [Fits, eq_comm]
  | a :: sig, tok :: args, hp, hlen, parsed => by
    have ih := fun parsed => @mapM_accept_eq_some_iff sig args
      (fun a h => hp a (List.mem_cons_of_mem _ h)) (by simpa using hlen) parsed
    simp only [List.zip_cons_cons, List.mapM_cons, Option.bind_eq_bind, Option.pure_def,
      Option.bind_eq_some_iff, Option.some.injEq,
      ArgSpec.accept_eq_some_iff (hp a List.mem_cons_self), ih, Fits, List.forall₂_cons,
      List.zipWith_cons_cons]
    constructor
    · rintro ⟨_, ⟨hm, rfl⟩, _, ⟨hf, rfl⟩, rfl⟩
      exact ⟨⟨hm, hf⟩, rfl⟩
    · rintro ⟨⟨hm, hf⟩, rfl⟩
      exact ⟨_, ⟨hm, rfl⟩, _, ⟨hf, rfl⟩, rfl⟩

/-- Arguments are taken for a signature of the tables exactly when they
fit it, and each description is then filled in by its token. -/
theorem acceptArgs_eq_some_iff {sig : Signature} (hp : ∀ a ∈ sig, a.Proper) {args : List String}
    {parsed : Signature} :
    acceptArgs sig args = some parsed ↔
      Fits sig args ∧ parsed = List.zipWith ArgSpec.fill sig args := by
  unfold acceptArgs
  split
  · next hlen => exact mapM_accept_eq_some_iff hp hlen
  · next hlen =>
    simp only [reduceCtorEq, false_iff, not_and]
    exact fun hf => absurd (List.Forall₂.length_eq hf) hlen

section
variable {sigs : List Signature} (hp : ∀ s ∈ sigs, ∀ a ∈ s, a.Proper) {args : List String}
include hp

theorem filterMap_acceptArgs_of_unfit (h : ∀ s ∈ sigs, ¬ Fits s args) :
    sigs.filterMap (acceptArgs · args) = [] := by
  rw [List.filterMap_eq_nil_iff]
  intro s hs
  cases hacc : acceptArgs s args with
  | none => rfl
  | some parsed => exact absurd ((acceptArgs_eq_some_iff (hp s hs)).mp hacc).1 (h s hs)

/-- Among signatures apart from each other, the arguments fit one at most, and
matching returns its filling alone. -/
theorem filterMap_acceptArgs_of_fits (hap : sigs.Pairwise SignatureApart) {sig : Signature}
    (hsig : sig ∈ sigs) (hfit : Fits sig args) :
    sigs.filterMap (acceptArgs · args) = [List.zipWith ArgSpec.fill sig args] := by
  induction sigs with
  | nil => simp at hsig
  | cons s rest ih =>
    have hp' : ∀ s ∈ rest, ∀ a ∈ s, a.Proper := fun s h => hp s (List.mem_cons_of_mem _ h)
    rw [List.pairwise_cons] at hap
    rw [List.filterMap_cons]
    rcases List.mem_cons.mp hsig with rfl | hsig
    · -- the first signature fits, so none after it does
      rw [(acceptArgs_eq_some_iff (hp _ List.mem_cons_self)).mpr ⟨hfit, rfl⟩,
        filterMap_acceptArgs_of_unfit hp' fun t ht hft =>
          not_fits_of_apart (hp _ List.mem_cons_self) (hp' t ht) (hap.1 t ht) hfit hft]
    · -- the first signature is apart from the fitting one, so it does not fit
      have hs : acceptArgs s args = none := by
        cases hacc : acceptArgs s args with
        | none => rfl
        | some parsed =>
          exact (not_fits_of_apart (hp _ List.mem_cons_self) (hp' sig hsig) (hap.1 sig hsig)
            ((acceptArgs_eq_some_iff (hp _ List.mem_cons_self)).mp hacc).1 hfit).elim
      rw [hs, ih hp' hap.2 hsig]

/-- Among signatures apart from each other, one at most fits the arguments. -/
theorem eq_of_fits (hap : sigs.Pairwise SignatureApart) {s t : Signature} (hs : s ∈ sigs)
    (ht : t ∈ sigs) (hfs : Fits s args) (hft : Fits t args) : s = t := by
  induction sigs with
  | nil => simp at hs
  | cons u rest ih =>
    have hp' : ∀ s ∈ rest, ∀ a ∈ s, a.Proper := fun s h => hp s (List.mem_cons_of_mem _ h)
    rw [List.pairwise_cons] at hap
    rcases List.mem_cons.mp hs with rfl | hs'
    · rcases List.mem_cons.mp ht with rfl | ht'
      · rfl
      · exact (not_fits_of_apart (hp _ List.mem_cons_self) (hp' t ht') (hap.1 t ht') hfs hft).elim
    · rcases List.mem_cons.mp ht with rfl | ht'
      · exact (not_fits_of_apart (hp _ List.mem_cons_self) (hp' s hs') (hap.1 s hs') hft hfs).elim
      · exact ih hp' hap.2 hs' ht'


end

/-! ## Lines -/

section
variable {line opcode : String} {sigs : List Signature} {args : List String}

/-- A line of `opcode` whose arguments fit a signature matches with that signature's filling. -/
theorem matchLine_of_fits (htok : tokens line = opcode :: args)
    (hp : ∀ s ∈ sigs, ∀ a ∈ s, a.Proper) (hap : sigs.Pairwise SignatureApart) {sig : Signature}
    (hsig : sig ∈ sigs) (hfit : Fits sig args) :
    matchLine line opcode sigs = .ok (true, List.zipWith ArgSpec.fill sig args) := by
  have hne : sigs.isEmpty = false := List.isEmpty_eq_false_iff.mpr (List.ne_nil_of_mem hsig)
  simp only [matchLine, htok, ne_eq, not_true_eq_false, ↓reduceIte, hne, Bool.false_eq_true,
    and_false, filterMapM_parseArgs, bind, Except.bind,
    filterMap_acceptArgs_of_fits hp hap hsig hfit]

/-- A line of `opcode` whose arguments fit none of its signatures is refused, with the
arguments given and the possible ones. -/
theorem matchLine_of_unfit (htok : tokens line = opcode :: args)
    (hp : ∀ s ∈ sigs, ∀ a ∈ s, a.Proper) (hne : sigs ≠ []) (h : ∀ s ∈ sigs, ¬ Fits s args) :
    matchLine line opcode sigs = .error (.args (.unmatched opcode args (choices sigs))) := by
  have hne' : sigs.isEmpty = false := List.isEmpty_eq_false_iff.mpr hne
  simp only [matchLine, htok, ne_eq, not_true_eq_false, ↓reduceIte, hne', Bool.false_eq_true,
    and_false, filterMapM_parseArgs, bind, Except.bind, filterMap_acceptArgs_of_unfit hp h]

/-- A line of another instruction does not match. -/
theorem matchLine_of_other (h : ∀ args, tokens line ≠ opcode :: args) :
    matchLine line opcode sigs = .ok (false, []) := by
  unfold matchLine
  split
  · rfl
  · next op args htok =>
    have hop : op ≠ opcode := fun hop => h args (hop ▸ htok)
    simp [hop]

end

/-- The bytes of the constant arguments among filled-in descriptions: one for each, holding its
constant. -/
def constantBytes (parsed : Signature) : List CodeByte :=
  parsed.filterMap fun a => if a.kind = .constant then some (CodeByte.ofConstant a.value) else none

theorem ArgSpec.kind_fill (a : ArgSpec) (tok : String) : (a.fill tok).kind = a.kind := by
  unfold ArgSpec.fill
  split <;> rfl

/-- One constant byte for each constant argument of the signature. -/
theorem length_constantBytes {sig : Signature} {args : List String}
    (h : sig.length = args.length) :
    (constantBytes (List.zipWith ArgSpec.fill sig args)).length =
      sig.countP (·.kind == .constant) := by
  induction sig generalizing args with
  | nil => simp [constantBytes]
  | cons a sig ih =>
    cases args with
    | nil => simp at h
    | cons tok args =>
      have := ih (by simpa using h)
      by_cases hk : a.kind = .constant <;> simp_all [constantBytes, ArgSpec.kind_fill]

end ByteMachine.Assembly

namespace ByteMachine.Instruction

open Assembly Machine Operation

theorem mem_all (i : Instruction) : i ∈ Instruction.all := by
  cases i <;> decide

theorem name_injective {i j : Instruction} (h : i.name = j.name) : i = j := by
  cases i <;> cases j <;> first | rfl | exact absurd h (by decide)

/-! ## The signature tables -/

theorem signatures_proper (i : Instruction) : ∀ s ∈ i.signatures, ∀ a ∈ s, a.Proper := by
  cases i <;> decide

theorem signatures_apart (i : Instruction) : i.signatures.Pairwise SignatureApart := by
  cases i <;> decide

/-- Each signature of the tables has one constant argument at most. -/
theorem signatures_one_constant (i : Instruction) :
    ∀ s ∈ i.signatures, s.countP (·.kind == .constant) ≤ 1 := by
  cases i <;> decide

theorem aluSignatures_length : ∀ s ∈ aluSignatures, s.length = 1 := by decide

theorem jumpSignatures_length : ∀ s ∈ jumpSignatures, s.length = 1 := by decide

theorem copySignatures_length : ∀ s ∈ copySignatures, s.length = 2 := by decide

theorem loadSignatures_length : ∀ s ∈ loadSignatures, s.length = 2 := by decide

/-- A set takes a destination module, then a constant. -/
theorem setSignatures_shape :
    ∀ s ∈ setSignatures, s.length = 2 ∧ (nth s 1).map ArgSpec.kind = .ok .constant := by
  decide

/-- The instruction byte of the instruction with arguments `sig`: the first eight positions of its
patterns combined. -/
def byte (i : Instruction) (sig : Signature) : Except Fault Bitdef :=
  i.encoding sig >>= Bitdef.instructionByte

/-- Every signature of the tables has an instruction byte of eight binary digits. -/
theorem byte_ok {i : Instruction} {sig : Signature} (hsig : sig ∈ i.signatures) :
    ∃ ib, i.byte sig = .ok ib ∧ IsBits ib.toString 8 := by
  have htrue : true ∈ i.carries := by cases i <;> simp [carries]
  obtain ⟨m, hm, hbyte⟩ := (Form.forms_sound _ (Form.mem_all hsig htrue)).byte
  obtain ⟨enc, henc, hmerge⟩ := bind_eq_ok.mp hm
  refine ⟨⟨m.cells.take 8⟩, ?_, hbyte.bits⟩
  simp only [byte, henc, Bitdef.instructionByte, bind_eq_ok, pure_eq_ok]
  exact ⟨enc, rfl, m, hmerge, rfl⟩

/-- Each instruction with each of its signatures. -/
def readings : List (Instruction × Signature) :=
  Instruction.all.flatMap fun i => i.signatures.map (i, ·)

/-- No two readings have one instruction byte. -/
theorem nodup_readings_bytes :
    (readings.map fun p => (p.1.byte p.2).toOption.map Bitdef.toString).Nodup := by
  decide +kernel

/-- Two signatures of the tables with one
instruction byte are one signature of one instruction. -/
theorem byte_injective {i i' : Instruction} {sig sig' : Signature} (hsig : sig ∈ i.signatures)
    (hsig' : sig' ∈ i'.signatures) {ib ib' : Bitdef} (h : i.byte sig = .ok ib)
    (h' : i'.byte sig' = .ok ib') (heq : ib.toString = ib'.toString) : i = i' ∧ sig = sig' := by
  have hmem : ∀ {j s}, s ∈ j.signatures → (j, s) ∈ readings := fun hs =>
    List.mem_flatMap.mpr ⟨_, mem_all _, List.mem_map_of_mem hs⟩
  have := List.inj_on_of_nodup_map nodup_readings_bytes (hmem hsig) (hmem hsig')
    (by simp [h, h', Except.toOption, heq])
  exact Prod.mk.inj this

/-! ## Reading a line -/

/-- The line reads as instruction `i`: its words are the instruction's name and arguments `args`
that fit the signature `sig` of the instruction. -/
def Takes (i : Instruction) (line : String) (sig : Signature) (args : List String) : Prop :=
  tokens line = i.name :: args ∧ sig ∈ i.signatures ∧ Fits sig args

/-- A line that reads as an instruction gives the instruction byte of its
signature, then a byte for each constant argument. -/
theorem parse_of_takes {i : Instruction} {line : String} {sig : Signature} {args : List String}
    (h : i.Takes line sig args) :
    ∃ ib, i.byte sig = .ok ib ∧ i.parse line =
      .ok (CodeByte.instruction ib.toString ::
        constantBytes (List.zipWith ArgSpec.fill sig args)) := by
  obtain ⟨htok, hsig, hfit⟩ := h
  obtain ⟨ib, hib, -⟩ := byte_ok hsig
  obtain ⟨enc, henc, hib'⟩ := bind_eq_ok.mp hib
  have hm := matchLine_of_fits htok (signatures_proper i) (signatures_apart i) hsig hfit
  refine ⟨ib, hib, ?_⟩
  simp only [name, signatures] at hm hsig
  simp only [encoding] at henc
  -- each signature is one or two arguments; filling keeps the kinds and the modules, so the
  -- pattern of the filled arguments is that of the signature
  cases i
  case add =>
    obtain ⟨a, rfl⟩ := List.length_eq_one_iff.mp (aluSignatures_length sig hsig)
    obtain ⟨x, rfl⟩ := Fits.eq_singleton hfit
    cases hk : a.kind <;>
      simp_all [parse, aluParse, aluEncoding, bind, Except.bind, pure, Except.pure, nth,
        ArgSpec.fill, constantBytes, throw, throwThe, MonadExceptOf.throw]
  case copy =>
    obtain ⟨a, b, rfl⟩ := List.length_eq_two.mp (copySignatures_length sig hsig)
    obtain ⟨x, y, rfl⟩ := Fits.eq_pair hfit
    have ha := copySignatures_modules _ hsig a (by simp)
    have hb := copySignatures_modules _ hsig b (by simp)
    simp_all [parse, copyParse, copyEncoding, bind, Except.bind, pure, Except.pure, nth,
      ArgSpec.fill, constantBytes]
  case load =>
    obtain ⟨a, b, rfl⟩ := List.length_eq_two.mp (loadSignatures_length sig hsig)
    obtain ⟨x, y, rfl⟩ := Fits.eq_pair hfit
    have hb := loadSignatures_destination _ hsig
    simp only [nth, List.getElem?_cons_succ, List.getElem?_cons_zero, Except.map] at hb
    cases hk : a.kind <;>
      simp_all [parse, loadParse, loadEncoding, bind, Except.bind, pure, Except.pure, nth,
        ArgSpec.fill, constantBytes, throw, throwThe, MonadExceptOf.throw]
  case set =>
    obtain ⟨hlen, hc⟩ := setSignatures_shape sig hsig
    obtain ⟨a, b, rfl⟩ := List.length_eq_two.mp hlen
    obtain ⟨x, y, rfl⟩ := Fits.eq_pair hfit
    have ha := setSignatures_destination _ hsig
    simp only [nth, List.getElem?_cons_succ, List.getElem?_cons_zero, Except.map] at ha hc
    simp_all [parse, setParse, setEncoding, bind, Except.bind, pure, Except.pure, nth,
      ArgSpec.fill, constantBytes]
  case jump =>
    obtain ⟨a, rfl⟩ := List.length_eq_one_iff.mp (jumpSignatures_length sig hsig)
    obtain ⟨x, rfl⟩ := Fits.eq_singleton hfit
    cases hk : a.kind <;>
      simp_all [parse, jumpParse, jumpEncoding, bind, Except.bind, pure, Except.pure, nth,
        ArgSpec.fill, constantBytes]
  case jumpIfOverflow =>
    obtain rfl : sig = [ArgSpec.constantArg] := by simpa [branchSignatures] using hsig
    obtain ⟨x, rfl⟩ := Fits.eq_singleton hfit
    simp_all [parse, branchParse, bind, Except.bind, pure, Except.pure, nth, ArgSpec.fill,
      constantBytes, ArgSpec.constantArg]

/-- A line of an instruction whose arguments fit none of its signatures is refused. -/
theorem parse_of_unfit {i : Instruction} {line : String} {args : List String}
    (htok : tokens line = i.name :: args) (h : ∀ s ∈ i.signatures, ¬ Fits s args) :
    i.parse line = .error (.args (.unmatched i.name args (choices i.signatures))) := by
  have hm := matchLine_of_unfit htok (signatures_proper i) (signatures_ne_nil i) h
  cases i <;> simp only [name, signatures] at hm ⊢ <;>
    simp [parse, aluParse, copyParse, loadParse, setParse, jumpParse, branchParse, hm, bind,
      Except.bind]

/-- A line of another instruction reads as nothing. -/
theorem parse_of_other {i : Instruction} {line : String}
    (h : ∀ args, tokens line ≠ i.name :: args) : i.parse line = .ok [] := by
  have hm : matchLine line i.name i.signatures = .ok (false, []) := matchLine_of_other h
  cases i <;> simp only [name, signatures] at hm ⊢ <;>
    simp [parse, aluParse, copyParse, loadParse, setParse, jumpParse, branchParse, hm, bind,
      Except.bind, pure, Except.pure]

theorem nodup_all : Instruction.all.Nodup := by decide

/-- A line that one instruction takes is no line of another. -/
theorem not_name_of_takes {i j : Instruction} {line : String} {sig : Signature}
    {args : List String} (h : i.Takes line sig args) (hj : j ≠ i) :
    ∀ args', tokens line ≠ j.name :: args' := by
  intro args' htok
  rw [h.1, List.cons.injEq] at htok
  exact hj (name_injective htok.1.symm)

end ByteMachine.Instruction

/-! ## Trying every instruction -/

namespace ByteMachine

section
variable {α β ε : Type} {f : α → Except ε (List β)}

theorem mapM_of_nil : ∀ {l : List α}, (∀ j ∈ l, f j = .ok []) → l.mapM f = .ok (l.map fun _ => [])
  | [], _ => rfl
  | j :: l, h => by
    rw [List.mapM_cons, h j List.mem_cons_self,
      mapM_of_nil fun j' hj' => h j' (List.mem_cons_of_mem _ hj')]
    rfl

variable [DecidableEq α]

/-- A `mapM` in which every element but `i` gives nothing runs as `i` does. -/
theorem mapM_of_others {i : α} :
    ∀ {l : List α}, l.Nodup → i ∈ l → (∀ j ∈ l, j ≠ i → f j = .ok []) →
      l.mapM f = (fun bs => l.map fun j => if j = i then bs else []) <$> f i
  | [], _, hi, _ => absurd hi List.not_mem_nil
  | j :: l, hnd, hi, h => by
    rw [List.nodup_cons] at hnd
    rw [List.mapM_cons]
    by_cases hji : j = i
    · -- `i` comes first, and nothing after it
      subst hji
      have hrest : ∀ j' ∈ l, j' ≠ j := fun j' hj' heq => hnd.1 (heq ▸ hj')
      rw [mapM_of_nil fun j' hj' => h j' (List.mem_cons_of_mem _ hj') (hrest j' hj')]
      have hmap : ∀ bs : List β, (l.map fun j' => if j' = j then bs else []) = l.map fun _ => [] :=
        fun bs => List.map_congr_left fun j' hj' => if_neg (hrest j' hj')
      cases f j <;> simp [hmap, bind, Except.bind, pure, Except.pure, Functor.map, Except.map]
    · have hi' : i ∈ l := (List.mem_cons.mp hi).resolve_left (Ne.symm hji)
      rw [h j List.mem_cons_self hji,
        mapM_of_others hnd.2 hi' fun j' hj' => h j' (List.mem_cons_of_mem _ hj')]
      cases f i <;> simp [hji, bind, Except.bind, pure, Except.pure, Functor.map, Except.map]

theorem filter_map_ite {i : α} {bs : List β} (hbs : bs ≠ []) :
    ∀ {l : List α}, l.Nodup → i ∈ l →
      (l.map fun j => if j = i then bs else []).filter (!·.isEmpty) = [bs]
  | [], _, hi => absurd hi List.not_mem_nil
  | j :: l, hnd, hi => by
    rw [List.nodup_cons] at hnd
    by_cases hji : j = i
    · subst hji
      have hnil : (l.map fun j' => if j' = j then bs else []).filter (!·.isEmpty) = [] := by
        rw [List.filter_eq_nil_iff]
        intro x hx
        obtain ⟨j', hj', rfl⟩ := List.mem_map.mp hx
        have hne : j' ≠ j := fun heq => hnd.1 (heq ▸ hj')
        simp [hne]
      simp [hbs, hnil]
    · have hi' : i ∈ l := (List.mem_cons.mp hi).resolve_left (Ne.symm hji)
      simp [hji, filter_map_ite hbs hnd.2 hi']

end

end ByteMachine

namespace ByteMachine.Assembly

open Instruction Machine

section
variable {line : String}

/-- A line that an instruction takes gives the instruction
byte of its signature, then a byte for each constant argument. -/
theorem machineBytes_of_takes {i : Instruction} {sig : Signature} {args : List String}
    (h : i.Takes line sig args) :
    ∃ ib, i.byte sig = .ok ib ∧ machineBytes line =
      .ok (CodeByte.instruction ib.toString ::
        constantBytes (List.zipWith ArgSpec.fill sig args)) := by
  obtain ⟨ib, hib, hparse⟩ := parse_of_takes h
  refine ⟨ib, hib, ?_⟩
  -- every other instruction reads the line as nothing
  have hfound := mapM_of_others (f := fun j => (j.parse line).mapError lineFault) nodup_all
    (mem_all i) fun j _ hj => by rw [parse_of_other (not_name_of_takes h hj)]; rfl
  have hi : (i.parse line).mapError lineFault =
      .ok (CodeByte.instruction ib.toString ::
        constantBytes (List.zipWith ArgSpec.fill sig args)) := by
    rw [hparse]; rfl
  rw [hi] at hfound
  simp only [machineBytes, hfound, Functor.map, Except.map, bind, Except.bind,
    filter_map_ite (List.cons_ne_nil _ _) nodup_all (mem_all i)]
  rfl

/-- A line of an instruction whose arguments fit none of its signatures is refused for them. -/
theorem machineBytes_of_unfit {i : Instruction} {args : List String}
    (htok : tokens line = i.name :: args) (h : ∀ s ∈ i.signatures, ¬ Fits s args) :
    machineBytes line = .error (.line (.args (.unmatched i.name args (choices i.signatures)))) := by
  have hother : ∀ j ∈ Instruction.all, j ≠ i → (j.parse line).mapError lineFault = .ok [] := by
    intro j _ hj
    rw [parse_of_other fun args' htok' => hj (name_injective (by
      rw [htok, List.cons.injEq] at htok'; exact htok'.1.symm))]
    rfl
  have hfound := mapM_of_others nodup_all (mem_all i) hother
  have hi : (i.parse line).mapError lineFault =
      .error (.line (.args (.unmatched i.name args (choices i.signatures)))) := by
    rw [parse_of_unfit htok h]; rfl
  rw [hi] at hfound
  simp only [machineBytes, hfound, Functor.map, Except.map, bind, Except.bind]

/-- A line of no instruction is refused as such. -/
theorem machineBytes_of_other (h : ∀ (i : Instruction) args, tokens line ≠ i.name :: args) :
    machineBytes line = .error (.line .noInstruction) := by
  have hfound := mapM_of_nil (f := fun j => (j.parse line).mapError lineFault)
    (l := Instruction.all) fun j _ => by rw [parse_of_other (h j)]; rfl
  simp only [machineBytes, hfound, bind, Except.bind]
  rfl

end

/-! ## The grammar of instruction lines -/

/-- The machine code of `line` follows the grammar of instruction lines. -/
structure LineGrammar (line : String) : Prop where
  /-- The line has machine code exactly when an instruction takes it. -/
  accepts : (∃ bs, machineBytes line = .ok bs ∧ bs ≠ []) ↔
    ∃ (i : Instruction) (sig : Signature) (args : List String), i.Takes line sig args
  /-- One instruction and one of its signatures take the line at most. -/
  unique : ∀ (i i' : Instruction) (sig sig' : Signature) (args args' : List String),
    i.Takes line sig args → i'.Takes line sig' args' → i' = i ∧ sig' = sig
  /-- The machine code of a line that an instruction takes: the instruction byte of the signature,
  eight binary digits, then one byte for each constant argument, holding its constant; a
  signature has one constant argument at most. -/
  bytes : ∀ (i : Instruction) (sig : Signature) (args : List String), i.Takes line sig args →
    ∃ ib, i.byte sig = .ok ib ∧ IsBits ib.toString 8 ∧
      machineBytes line = .ok (CodeByte.instruction ib.toString ::
        constantBytes (List.zipWith ArgSpec.fill sig args)) ∧
      (constantBytes (List.zipWith ArgSpec.fill sig args)).length =
        sig.countP (·.kind == .constant) ∧
      sig.countP (·.kind == .constant) ≤ 1
  /-- The instruction byte names the instruction and the signature: another line whose machine
  code starts with the same byte is taken by the same ones. -/
  byte_names : ∀ (i i' : Instruction) (sig sig' : Signature) (args args' : List String)
    (line' b : String) (rest rest' : List CodeByte), i.Takes line sig args →
    i'.Takes line' sig' args' → machineBytes line = .ok (CodeByte.instruction b :: rest) →
    machineBytes line' = .ok (CodeByte.instruction b :: rest') → i' = i ∧ sig' = sig
  /-- A line of an instruction whose arguments fit none of its signatures is refused, with the
  arguments given and the possible ones. -/
  unfit : ∀ (i : Instruction) (args : List String), tokens line = i.name :: args →
    (∀ sig ∈ i.signatures, ¬ Fits sig args) →
    machineBytes line = .error (.line (.args (.unmatched i.name args (choices i.signatures))))
  /-- A line of no instruction is refused as such. -/
  other : (∀ (i : Instruction) (args : List String), tokens line ≠ i.name :: args) →
    machineBytes line = .error (.line .noInstruction)
  /-- No line is refused as taken by several instructions or fitting several signatures. -/
  never_ambiguous : ∀ e, machineBytes line = .error e →
    e ≠ .line .manyInstructions ∧ e ≠ .line (.args .ambiguous)

/-- Every line is of no instruction, taken by an instruction, or of an instruction whose arguments
fit none of its signatures. -/
theorem takes_cases (line : String) :
    (∀ (i : Instruction) (args : List String), tokens line ≠ i.name :: args) ∨
      (∃ (i : Instruction) (sig : Signature) (args : List String), i.Takes line sig args) ∨
      ∃ (i : Instruction) (args : List String), tokens line = i.name :: args ∧
        ∀ sig ∈ i.signatures, ¬ Fits sig args := by
  by_cases hname : ∃ (i : Instruction) (args : List String), tokens line = i.name :: args
  · obtain ⟨i, args, htok⟩ := hname
    by_cases hfit : ∃ sig ∈ i.signatures, Fits sig args
    · obtain ⟨sig, hsig, hf⟩ := hfit
      exact .inr (.inl ⟨i, sig, args, htok, hsig, hf⟩)
    · exact .inr (.inr ⟨i, args, htok, fun sig hsig hf => hfit ⟨sig, hsig, hf⟩⟩)
  · exact .inl fun i args htok => hname ⟨i, args, htok⟩

theorem machineBytes_grammar (line : String) : LineGrammar line where
  accepts := by
    constructor
    · rintro ⟨bs, hbs, -⟩
      rcases takes_cases line with hother | htakes | ⟨i, args, htok, hunfit⟩
      · rw [machineBytes_of_other hother] at hbs
        cases hbs
      · exact htakes
      · rw [machineBytes_of_unfit htok hunfit] at hbs
        cases hbs
    · rintro ⟨i, sig, args, h⟩
      obtain ⟨ib, -, hbs⟩ := machineBytes_of_takes h
      exact ⟨_, hbs, List.cons_ne_nil _ _⟩
  unique i i' sig sig' args args' h h' := by
    -- the first word names the instruction, the rest are its arguments
    have htok := h'.1.symm.trans h.1
    rw [List.cons.injEq] at htok
    obtain rfl := name_injective htok.1
    obtain rfl := htok.2
    exact ⟨rfl, eq_of_fits (signatures_proper i') (signatures_apart i') h'.2.1 h.2.1 h'.2.2 h.2.2⟩
  bytes i sig args h := by
    obtain ⟨ib, hib, hbs⟩ := machineBytes_of_takes h
    obtain ⟨ib', hib', hbits⟩ := byte_ok h.2.1
    rw [hib, Except.ok.injEq] at hib'
    subst hib'
    exact ⟨ib, hib, hbits, hbs, length_constantBytes h.2.2.length_eq,
      signatures_one_constant i sig h.2.1⟩
  byte_names i i' sig sig' args args' line' b rest rest' h h' hb hb' := by
    obtain ⟨ib, hib, hbs⟩ := machineBytes_of_takes h
    obtain ⟨ib', hib', hbs'⟩ := machineBytes_of_takes h'
    -- both lines start with the byte `b`
    have heq : ib.toString = ib'.toString := by
      rw [hb, Except.ok.injEq, List.cons.injEq] at hbs
      rw [hb', Except.ok.injEq, List.cons.injEq] at hbs'
      have h₁ : b = ib.toString := congrArg CodeByte.bits hbs.1
      have h₂ : b = ib'.toString := congrArg CodeByte.bits hbs'.1
      rw [← h₁, ← h₂]
    obtain ⟨hi, hsig⟩ := byte_injective h.2.1 h'.2.1 hib hib' heq
    exact ⟨hi.symm, hsig.symm⟩
  unfit _ _ htok hunfit := machineBytes_of_unfit htok hunfit
  other hother := machineBytes_of_other hother
  never_ambiguous e he := by
    rcases takes_cases line with hother | ⟨i, sig, args, h⟩ | ⟨i, args, htok, hunfit⟩
    · rw [machineBytes_of_other hother, Except.error.injEq] at he
      subst he
      simp
    · obtain ⟨ib, -, hbs⟩ := machineBytes_of_takes h
      rw [hbs] at he
      cases he
    · rw [machineBytes_of_unfit htok hunfit, Except.error.injEq] at he
      subst he
      simp

end ByteMachine.Assembly
