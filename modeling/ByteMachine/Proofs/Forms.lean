import ByteMachine.Instruction
import ByteMachine.Proofs.Except
/- Instruction forms. A form is an instruction together with one of its
   signatures and, for a conditional jump, whether the carry flag is set;
   the form decides the instruction byte, the flag values and the control
   steps. This module

   1. names the instruction-byte patterns of every form (`encoding`), the
      same patterns that reading a line and generating microcode use;
   2. proves that reading a line either gives no bytes or gives the
      instruction byte of the matched arguments first (`parse_eq_ok`), and
      that the constant a line gives does not change that byte
      (`encoding_of_fills`);
   3. writes the microcode of the language as the templates of its forms,
      form by form, then the fetch cycle (`languageTemplates_eq_forms`). -/
namespace ByteMachine

open Assembly Machine Microcode Operation

namespace Instruction

/-- The instruction-byte patterns of the instruction with arguments `sig`. A conditional
jump has one form, whatever its argument. -/
def encoding : Instruction → Signature → Except Fault (List Bitdef)
  | .add, sig => aluEncoding AluOp.add.bitdef sig
  | .copy, sig => copyEncoding sig
  | .load, sig => loadEncoding sig
  | .set, sig => setEncoding sig
  | .jump, sig => jumpEncoding sig
  | .jumpIfOverflow, _ => .ok (branchEncoding .sp)

/-- The bytes that follow the instruction byte when the first argument decides whether a
constant byte follows it. -/
theorem tail_of_constant_choice {ib : Bitdef} {a : ArgSpec} {bs : List CodeByte}
    (h : (if (a.kind == ArgKind.constant) = true then
      (pure [CodeByte.instruction ib.toString, CodeByte.ofConstant a.value] : Except Fault _)
      else pure [CodeByte.instruction ib.toString]) = .ok bs) :
    ∃ rest, bs = CodeByte.instruction ib.toString :: rest := by
  split at h <;> exact ⟨_, (pure_eq_ok.mp h).symm⟩

/-- A reading that gives bytes matched the line against the
instruction's name and signatures, and its first byte is the instruction byte of the
matched arguments. -/
theorem parse_eq_ok {i : Instruction} {line : String} {bs : List CodeByte}
    (h : i.parse line = .ok bs) (hne : bs ≠ []) :
    ∃ parsed, matchLine line i.name i.signatures = .ok (true, parsed) ∧
      ∃ enc ib rest, i.encoding parsed = .ok enc ∧ Bitdef.instructionByte enc = .ok ib ∧
        bs = CodeByte.instruction ib.toString :: rest := by
  -- every reading first matches the line, and gives nothing for a line of another instruction
  cases i <;> simp only [parse, aluParse, copyParse, loadParse, setParse, jumpParse, branchParse,
    bind_eq_ok] at h <;> obtain ⟨⟨ok, parsed⟩, hm, h⟩ := h <;> cases ok <;>
    simp only [Bool.not_false, Bool.not_true, ↓reduceIte, pure_eq_ok, bind_eq_ok,
      Bool.false_eq_true] at h
  case add.false | copy.false | load.false | set.false | jump.false | jumpIfOverflow.false =>
    exact absurd h.symm hne
  case add.true | load.true | jump.true =>
    obtain ⟨enc, henc, ib, hib, a, -, h⟩ := h
    obtain ⟨rest, hrest⟩ := tail_of_constant_choice h
    exact ⟨parsed, hm, enc, ib, rest, henc, hib, hrest⟩
  case copy.true =>
    obtain ⟨enc, henc, ib, hib, h⟩ := h
    exact ⟨parsed, hm, enc, ib, [], henc, hib, h.symm⟩
  case set.true =>
    obtain ⟨enc, henc, ib, hib, a, -, h⟩ := h
    exact ⟨parsed, hm, enc, ib, _, henc, hib, h.symm⟩
  case jumpIfOverflow.true =>
    obtain ⟨ib, hib, a, -, h⟩ := h
    exact ⟨parsed, hm, _, ib, _, rfl, hib, h.symm⟩

end Instruction

/-! ## The arguments a line fills in -/

namespace Assembly

/-- A description that a line filled in from a description of a signature: the same kind and
bracketing, and the same module for a module argument; a constant argument records the line's
constant in place of the signature's. -/
def ArgSpec.Fills (filled spec : ArgSpec) : Prop :=
  filled.kind = spec.kind ∧ filled.memory = spec.memory ∧
    (spec.kind = .module → filled.value = spec.value)

theorem ArgSpec.fills_of_accept {spec filled : ArgSpec} {arg : String}
    (h : spec.accept arg = some filled) : filled.Fills spec := by
  unfold ArgSpec.accept at h
  split at h <;> (try split at h) <;> simp only [Option.some.injEq, reduceCtorEq] at h <;>
    subst h <;> simp_all [ArgSpec.Fills]

/-- The arguments that fit a signature fill in its descriptions one by one. -/
theorem fills_of_acceptArgs {sig parsed : Signature} {args : List String}
    (h : acceptArgs sig args = some parsed) : List.Forall₂ ArgSpec.Fills parsed sig := by
  unfold acceptArgs at h
  split at h
  · next hlen =>
    -- the pairs of descriptions and arguments
    have key : ∀ (sig : Signature) (args : List String) (parsed : Signature),
        sig.length = args.length →
        (sig.zip args).mapM (fun p => p.1.accept p.2) = some parsed →
        List.Forall₂ ArgSpec.Fills parsed sig := by
      intro sig
      induction sig with
      | nil => intro args parsed _ h; simp at h; subst h; exact .nil
      | cons spec rest ih =>
        intro args parsed hl h
        cases args with
        | nil => simp at hl
        | cons arg more =>
          simp only [List.zip_cons_cons, List.mapM_cons, Option.bind_eq_bind, Option.pure_def,
            Option.bind_eq_some_iff, Option.some.injEq] at h
          obtain ⟨filled, hf, tail, ht, rfl⟩ := h
          exact .cons (ArgSpec.fills_of_accept hf) (ih more tail (by simpa using hl) ht)
    exact key sig args parsed hlen h
  · simp at h

/-- A line that matches an instruction with signatures fills in one
of them with its arguments. -/
theorem exists_signature_of_matchLine {line opcode : String} {sigs : List Signature}
    {parsed : Signature} (h : matchLine line opcode sigs = .ok (true, parsed)) (hsigs : sigs ≠ []) :
    ∃ args, tokens line = opcode :: args ∧ ∃ sig ∈ sigs, acceptArgs sig args = some parsed := by
  obtain ⟨args, htok, hargs⟩ := matchLine_ok h
  refine ⟨args, htok, ?_⟩
  rcases hargs with ⟨-, hnil, -⟩ | hone
  · exact absurd hnil hsigs
  · have hmem : parsed ∈ sigs.filterMap (acceptArgs · args) := by rw [hone]; exact List.mem_singleton_self _
    obtain ⟨sig, hsig, hacc⟩ := List.mem_filterMap.mp hmem
    exact ⟨sig, hsig, hacc⟩

/-- The element at a position of lists that correspond. -/
theorem nth_of_forall₂ {α β : Type} {R : α → β → Prop} {xs : List α} {ys : List β}
    (h : List.Forall₂ R xs ys) {k : Nat} {x : α} (hx : nth xs k = .ok x) :
    ∃ y, nth ys k = .ok y ∧ R x y := by
  obtain ⟨hlen, hR⟩ := List.forall₂_iff_get.mp h
  unfold nth at hx ⊢
  cases hxk : xs[k]? with
  | none => simp [hxk] at hx
  | some x' =>
    rw [hxk, Except.ok.injEq] at hx
    subst hx
    obtain ⟨hk, rfl⟩ := List.getElem?_eq_some_iff.mp hxk
    have hk' : k < ys.length := hlen ▸ hk
    exact ⟨ys.get ⟨k, hk'⟩, by simp [List.getElem?_eq_getElem hk'], hR k hk hk'⟩

end Assembly

namespace Instruction

/-- The arguments whose module names the encodings read without asking their kind are module
arguments: every argument of a copy, a set's destination and a load's destination. -/
theorem copySignatures_modules : ∀ sig ∈ copySignatures, ∀ a ∈ sig, a.kind = .module := by
  decide

theorem setSignatures_destination :
    ∀ sig ∈ setSignatures, (nth sig 0).map ArgSpec.kind = .ok .module := by
  decide

theorem loadSignatures_destination :
    ∀ sig ∈ loadSignatures, (nth sig 1).map ArgSpec.kind = .ok .module := by
  decide

/-- An argument filled in for a module argument is that argument. -/
theorem eq_of_fills {a' a : ArgSpec} (h : a'.Fills a) (hm : a.kind = .module) : a' = a := by
  obtain ⟨hk, hmem, hv⟩ := h
  cases a'
  cases a
  simp_all

/-- The argument at a position that a signature asks to be a module is the signature's own. -/
theorem nth_of_fills_module {parsed sig : Signature} (h : List.Forall₂ ArgSpec.Fills parsed sig)
    {k : Nat} (hk : (nth sig k).map ArgSpec.kind = .ok .module) : nth parsed k = nth sig k := by
  cases hs : nth sig k with
  | error e => simp [hs, Except.map] at hk
  | ok a =>
    simp only [hs, Except.map, Except.ok.injEq] at hk
    obtain ⟨a', ha', hf⟩ := nth_of_forall₂ h.flip hs
    rw [ha', eq_of_fills hf hk]

/-- A signature of module arguments is filled in by itself. -/
theorem eq_of_forall₂_fills {parsed sig : Signature} (h : List.Forall₂ ArgSpec.Fills parsed sig)
    (hm : ∀ a ∈ sig, a.kind = .module) : parsed = sig := by
  induction h with
  | nil => rfl
  | cons hf _ ih =>
    rw [eq_of_fills hf (hm _ List.mem_cons_self),
      ih fun a ha => hm a (List.mem_cons_of_mem _ ha)]

/-- A line's arguments that fill in a signature of the
instruction give the instruction-byte patterns of that signature, whatever constant the line
holds. -/
theorem encoding_of_fills {i : Instruction} {parsed sig : Signature} (hsig : sig ∈ i.signatures)
    (h : List.Forall₂ ArgSpec.Fills parsed sig) {enc : List Bitdef}
    (he : i.encoding parsed = .ok enc) : i.encoding sig = .ok enc := by
  cases i
  case jumpIfOverflow => exact he
  case copy =>
    rwa [← eq_of_forall₂_fills h (copySignatures_modules sig hsig)]
  case set =>
    simp only [encoding, setEncoding] at he ⊢
    rwa [← nth_of_fills_module h (setSignatures_destination sig hsig)]
  case add =>
    simp only [encoding, aluEncoding, bind_eq_ok] at he ⊢
    obtain ⟨a', ha', he⟩ := he
    obtain ⟨a, ha, hk, -, hv⟩ := nth_of_forall₂ h ha'
    refine ⟨a, ha, ?_⟩
    rw [hk] at he
    cases hak : a.kind with
    | module => simp only [hak] at he ⊢; rwa [← hv hak]
    | constant => simpa only [hak] using he
    | other t => simpa only [hak] using he
  case load =>
    simp only [encoding, loadEncoding, bind_eq_ok] at he ⊢
    obtain ⟨a', ha', he⟩ := he
    obtain ⟨a, ha, hk, -, hv⟩ := nth_of_forall₂ h ha'
    refine ⟨a, ha, ?_⟩
    rw [hk, nth_of_fills_module h (loadSignatures_destination sig hsig)] at he
    cases hak : a.kind with
    | module => simp only [hak] at he ⊢; rwa [← hv hak]
    | constant => simpa only [hak] using he
    | other t => simpa only [hak] using he
  case jump =>
    simp only [encoding, jumpEncoding, bind_eq_ok] at he ⊢
    obtain ⟨a', ha', he⟩ := he
    obtain ⟨a, ha, hk, hm, hv⟩ := nth_of_forall₂ h ha'
    refine ⟨a, ha, ?_⟩
    rw [hk, hm] at he
    cases hak : a.kind with
    | module => simp only [hak] at he ⊢; rwa [← hv hak]
    | constant => simpa only [hak] using he
    | other t => simpa only [hak] using he

end Instruction

/-! ## The microcode of the forms -/

namespace Instruction

/-- The carry-flag cases of the instruction's microcode: a conditional jump has templates for a
set and for a clear carry flag, every other instruction one set of templates for all flags. -/
def carries : Instruction → List Bool
  | .jumpIfOverflow => [true, false]
  | _ => [true]

/-- The flag pattern of the instruction's templates in carry case `carry`. -/
def flagPattern : Instruction → Bool → Bitdef
  | .jumpIfOverflow, carry => Flag.carryBorrow.when carry
  | _, _ => anyFlags

/-- The control steps of the instruction with arguments `sig` in carry case `carry`, from step
2 on: a conditional jump jumps when the carry is set and steps over its constant when not. -/
def steps : Instruction → Signature → Bool → Except Fault (List (List Bitdef))
  | .add, sig, _ => aluSteps sig (addFunction.map Signal.bitdef)
  | .copy, sig, _ => copySteps sig
  | .load, sig, _ => loadSteps sig
  | .set, sig, _ => setSteps sig
  | .jump, sig, _ => jumpSteps sig
  | .jumpIfOverflow, _, carry => .ok (branchSteps carry)

/-- The templates of the instruction with arguments `sig` in carry case `carry`. -/
def templates (i : Instruction) (sig : Signature) (carry : Bool) : Except Fault (List Template) := do
  assemble (← i.encoding sig) [i.flagPattern carry] (← i.steps sig carry)

theorem signatures_ne_nil (i : Instruction) : i.signatures ≠ [] := by
  cases i <;> decide

/-- Only a conditional jump tells the carry cases apart. -/
theorem templates_carry {i : Instruction} (hi : i ≠ .jumpIfOverflow) (sig : Signature)
    (carry : Bool) : i.templates sig carry = i.templates sig true := by
  cases i <;> first | rfl | exact absurd rfl hi

end Instruction

/-- A form of the language's microcode: an instruction, one of its signatures and one of its
carry cases. -/
structure Form where
  instruction : Instruction
  signature : Signature
  carry : Bool
  deriving DecidableEq

/-- The forms of an instruction, signature by signature. -/
def Instruction.forms (i : Instruction) : List Form :=
  i.signatures.flatMap fun sig => i.carries.map (⟨i, sig, ·⟩)

namespace Form

/-- Every form of the language, instruction by instruction. -/
def all : List Form := Instruction.all.flatMap Instruction.forms

/-- The templates of a form. -/
def templates (φ : Form) : Except Fault (List Template) :=
  φ.instruction.templates φ.signature φ.carry

theorem mem_all {i : Instruction} {sig : Signature} {carry : Bool} (hsig : sig ∈ i.signatures)
    (hc : carry ∈ i.carries) : (⟨i, sig, carry⟩ : Form) ∈ all := by
  simp only [all, Instruction.forms, List.mem_flatMap, List.mem_map]
  exact ⟨i, by cases i <;> decide, sig, hsig, carry, hc, rfl⟩

end Form

/-- The microcode of an instruction is that of its forms, one after the other. -/
theorem Instruction.microcode_eq_forms (i : Instruction) :
    i.microcode = List.flatten <$> i.forms.mapM Form.templates := by
  cases i <;> simp [microcode, forms, carries, aluMicrocode, copyMicrocode, loadMicrocode,
    setMicrocode, jumpMicrocode, branchMicrocode, signatures, branchSignatures] <;> rfl

/-- The templates of every form, in the order
of `Form.all`, then the fetch cycle. -/
theorem languageTemplates_eq_forms :
    languageTemplates = (do
      let tss ← Form.all.mapM Form.templates
      let f ← fetchMicrocode
      pure (tss.flatten ++ f)) := by
  have hm : Instruction.microcode = fun i => List.flatten <$> i.forms.mapM Form.templates :=
    funext Instruction.microcode_eq_forms
  -- both sides flatten the templates of the forms, then add the fetch cycle
  have hflat : ∀ X : Except Fault (List (List Template)),
      (X >>= fun ts => fetchMicrocode >>= fun f => pure (ts.flatten ++ f)) =
        (List.flatten <$> X) >>= fun ts => fetchMicrocode >>= fun f => pure (ts ++ f) :=
    fun X => by rw [bind_map_left]
  rw [languageTemplates, hm, hflat, hflat, Form.all, flatten_mapM_flatMap]

end ByteMachine