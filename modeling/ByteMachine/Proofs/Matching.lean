import ByteMachine.Proofs.Grammar
/- Matching a line against the signatures of an instruction, for any list of
   signatures. A description of an argument accepts a token in one of four
   ways (`ArgSpec.Accepts`): a module by its name, a module as a memory
   index around its name, a constant that is no memory index, and a memory
   index around a constant. This module

   1. reads matching one token (`accept_eq_some_iff_accepts`) and a whole
      signature (`acceptArgs_eq_some_iff_acceptsAll`) as these four ways,
      the description filled in by the token's constant;
   2. counts the fillings over a list of signatures, duplicates included:
      one exactly when one place of the list holds a fitting signature
      (`filterMap_acceptArgs_eq_singleton_iff`), two or more when two places
      do;
   3. gathers the outcomes of a match (`matchLine_decides`): a line that is
      not the instruction does not match; the bare name matches with no
      signatures; otherwise the line matches exactly when one place holds a
      fitting signature, and is refused, with the possible arguments or as
      ambiguous, when none or two do. -/
namespace ByteMachine.Assembly

/-! ## Matching one argument -/

/-- The four ways a token fits a description of an argument: a module by its name, a module as a
memory index around its name, a constant that is no memory index, and a memory index around a
constant. -/
inductive ArgSpec.Accepts : ArgSpec → String → Prop
  | module {name tok : String} : isMemoryIndex tok = false → tok = name →
      Accepts { kind := .module, memory := false, value := name } tok
  | moduleAt {name tok : String} : isMemoryIndex tok = true → memoryPosition tok = name →
      Accepts { kind := .module, memory := true, value := name } tok
  | constant {v tok : String} : isMemoryIndex tok = false → isConstant tok = true →
      Accepts { kind := .constant, memory := false, value := v } tok
  | constantAt {v tok : String} : isMemoryIndex tok = true →
      isConstant (memoryPosition tok) = true →
      Accepts { kind := .constant, memory := true, value := v } tok

namespace ArgSpec

theorem accept_of_accepts {spec : ArgSpec} {tok : String} (h : spec.Accepts tok) :
    spec.accept tok = some (spec.fill tok) := by
  cases h with
  | module hm ht =>
    subst ht
    simp [accept, fill, hm]
  | moduleAt hm hp => simp [accept, fill, hm, hp]
  | constant hm hc => simp [accept, fill, constantOf, hm, hc]
  | constantAt hm hc => simp [accept, fill, constantOf, hm, hc]

theorem accepts_of_accept {spec : ArgSpec} {tok : String} {filled : ArgSpec}
    (h : spec.accept tok = some filled) : spec.Accepts tok ∧ filled = spec.fill tok := by
  suffices hacc : spec.Accepts tok from
    ⟨hacc, Option.some.inj (h.symm.trans (accept_of_accepts hacc))⟩
  obtain ⟨kind, memory, v⟩ := spec
  -- one branch of `accept` for each way of accepting
  cases kind <;> cases memory <;>
    simp only [accept, Option.ite_none_right_eq_some, Bool.and_eq_true, Bool.not_eq_true',
      beq_iff_eq, reduceCtorEq] at h
  case module.false => exact .module h.1.1 h.1.2
  case module.true => exact .moduleAt h.1.1 h.1.2
  case constant.false => exact .constant h.1.1 h.1.2
  case constant.true => exact .constantAt h.1.1 h.1.2

/-- Matching a token against any description succeeds exactly on the tokens it accepts, and
fills the description in. -/
theorem accept_eq_some_iff_accepts {spec : ArgSpec} {tok : String} {filled : ArgSpec} :
    spec.accept tok = some filled ↔ spec.Accepts tok ∧ filled = spec.fill tok := by
  constructor
  · exact accepts_of_accept
  · rintro ⟨h, rfl⟩
    exact accept_of_accepts h

end ArgSpec

/-! ## Matching a signature -/

/-- The arguments fit the signature in the four ways: one argument for each description, each
accepted by it. -/
def AcceptsAll (sig : Signature) (args : List String) : Prop :=
  List.Forall₂ ArgSpec.Accepts sig args

theorem acceptArgs_of_length_ne {sig : Signature} {args : List String}
    (h : sig.length ≠ args.length) : acceptArgs sig args = none := by
  rw [acceptArgs, if_neg h]

theorem acceptArgs_cons_cons (a : ArgSpec) (sig : Signature) (tok : String) (args : List String) :
    acceptArgs (a :: sig) (tok :: args) =
      (a.accept tok).bind fun f => (acceptArgs sig args).map (f :: ·) := by
  unfold acceptArgs
  by_cases hlen : sig.length = args.length
  · simp only [List.length_cons, hlen, ↓reduceIte, List.zip_cons_cons, List.mapM_cons]
    cases a.accept tok <;> cases (sig.zip args).mapM (fun p => p.1.accept p.2) <;> rfl
  · simp only [List.length_cons, Nat.add_right_cancel_iff, hlen, ↓reduceIte, Option.map_none]
    cases a.accept tok <;> rfl

/-- Arguments are taken for any signature exactly when they fit it in the
four ways, and each description is then filled in by its token. -/
theorem acceptArgs_eq_some_iff_acceptsAll :
    ∀ {sig : Signature} {args : List String} {parsed : Signature},
      acceptArgs sig args = some parsed ↔
        AcceptsAll sig args ∧ parsed = List.zipWith ArgSpec.fill sig args
  | [], [], parsed => by simp [acceptArgs, AcceptsAll, eq_comm]
  | [], _ :: _, _ => by simp [acceptArgs_of_length_ne, AcceptsAll]
  | _ :: _, [], _ => by simp [acceptArgs_of_length_ne, AcceptsAll]
  | a :: sig, tok :: args, parsed => by
    rw [acceptArgs_cons_cons, Option.bind_eq_some_iff]
    simp only [Option.map_eq_some_iff, ArgSpec.accept_eq_some_iff_accepts,
      acceptArgs_eq_some_iff_acceptsAll, AcceptsAll, List.forall₂_cons, List.zipWith_cons_cons]
    constructor
    · rintro ⟨_, ⟨ha, rfl⟩, _, ⟨hrest, rfl⟩, rfl⟩
      exact ⟨⟨ha, hrest⟩, rfl⟩
    · rintro ⟨⟨ha, hrest⟩, rfl⟩
      exact ⟨_, ⟨ha, rfl⟩, _, ⟨hrest, rfl⟩, rfl⟩

theorem acceptArgs_eq_none_iff {sig : Signature} {args : List String} :
    acceptArgs sig args = none ↔ ¬ AcceptsAll sig args := by
  cases h : acceptArgs sig args with
  | none =>
    simp only [true_iff]
    intro hfit
    have := acceptArgs_eq_some_iff_acceptsAll.mpr ⟨hfit, rfl⟩
    rw [h] at this
    cases this
  | some parsed =>
    simp only [reduceCtorEq, false_iff, not_not]
    exact (acceptArgs_eq_some_iff_acceptsAll.mp h).1

/-- Matching over all signatures gives one filling exactly when one place of the list holds a
signature that the arguments fit, and no other place does. -/
theorem filterMap_acceptArgs_eq_singleton_iff {sigs : List Signature} {args : List String}
    {parsed : Signature} :
    sigs.filterMap (acceptArgs · args) = [parsed] ↔
      ∃ pre s post, sigs = pre ++ s :: post ∧ AcceptsAll s args ∧
        (∀ t ∈ pre ++ post, ¬ AcceptsAll t args) ∧
        parsed = List.zipWith ArgSpec.fill s args := by
  rw [List.filterMap_eq_cons_iff]
  simp only [List.filterMap_eq_nil_iff, acceptArgs_eq_none_iff,
    acceptArgs_eq_some_iff_acceptsAll, List.mem_append]
  constructor
  · rintro ⟨pre, s, post, rfl, hpre, ⟨hs, rfl⟩, hpost⟩
    exact ⟨pre, s, post, rfl, hs, fun t ht => ht.elim (hpre t) (hpost t), rfl⟩
  · rintro ⟨pre, s, post, rfl, hs, hrest, rfl⟩
    exact ⟨pre, s, post, rfl, fun t ht => hrest t (.inl ht), ⟨hs, rfl⟩,
      fun t ht => hrest t (.inr ht)⟩

/-- Two places holding signatures that the arguments fit give two fillings. -/
theorem two_le_length_filterMap_acceptArgs {sigs : List Signature} {args : List String}
    {pre mid post : List Signature} {s t : Signature} (h : sigs = pre ++ s :: mid ++ t :: post)
    (hs : AcceptsAll s args) (ht : AcceptsAll t args) :
    2 ≤ (sigs.filterMap (acceptArgs · args)).length := by
  subst h
  have hs' := acceptArgs_eq_some_iff_acceptsAll.mpr ⟨hs, rfl⟩
  have ht' := acceptArgs_eq_some_iff_acceptsAll.mpr ⟨ht, rfl⟩
  simp only [List.filterMap_append, List.filterMap_cons, hs', ht', List.length_append,
    List.length_cons]
  omega

/-! ## Matching a line -/

section
variable {line opcode : String} {sigs : List Signature} {args : List String}

/-- A line of `opcode` that is not bare with no signatures is decided by its fillings: none
refuses it with the possible arguments, one matches it, and more refuse it as ambiguous. -/
theorem matchLine_of_fillings (htok : tokens line = opcode :: args)
    (hbare : ¬ (args = [] ∧ sigs = [])) :
    (sigs.filterMap (acceptArgs · args) = [] ∧
        matchLine line opcode sigs = .error (.args (.unmatched opcode args (choices sigs)))) ∨
      (∃ parsed, sigs.filterMap (acceptArgs · args) = [parsed] ∧
        matchLine line opcode sigs = .ok (true, parsed)) ∨
      (2 ≤ (sigs.filterMap (acceptArgs · args)).length ∧
        matchLine line opcode sigs = .error (.args .ambiguous)) := by
  rcases h : sigs.filterMap (acceptArgs · args) with _ | ⟨p, _ | ⟨q, rest⟩⟩ <;>
    simp [matchLine, htok, hbare, filterMapM_parseArgs, bind, Except.bind, h]

theorem matchLine_eq_ok_iff (htok : tokens line = opcode :: args)
    (hbare : ¬ (args = [] ∧ sigs = [])) {parsed : Signature} :
    matchLine line opcode sigs = .ok (true, parsed) ↔
      sigs.filterMap (acceptArgs · args) = [parsed] := by
  rcases matchLine_of_fillings htok hbare with ⟨hf, hm⟩ | ⟨p, hf, hm⟩ | ⟨hf, hm⟩
  · simp [hf, hm]
  · simp [hf, hm]
  · -- more than one filling is no single one
    rw [hm]
    simp only [reduceCtorEq, false_iff]
    intro h
    rw [h] at hf
    simp at hf

/-- Arguments that fit no signature are refused, with the arguments given and the possible ones. -/
theorem matchLine_of_none (htok : tokens line = opcode :: args)
    (hbare : ¬ (args = [] ∧ sigs = [])) (h : ∀ s ∈ sigs, ¬ AcceptsAll s args) :
    matchLine line opcode sigs = .error (.args (.unmatched opcode args (choices sigs))) := by
  have hnil : sigs.filterMap (acceptArgs · args) = [] :=
    List.filterMap_eq_nil_iff.mpr fun s hs => acceptArgs_eq_none_iff.mpr (h s hs)
  rcases matchLine_of_fillings htok hbare with ⟨-, hm⟩ | ⟨p, hf, -⟩ | ⟨hf, -⟩
  · exact hm
  · simp [hnil] at hf
  · simp [hnil] at hf

/-- Arguments that fit the signatures at two places are refused as ambiguous. -/
theorem matchLine_of_two (htok : tokens line = opcode :: args) {pre mid post : List Signature}
    {s t : Signature} (h : sigs = pre ++ s :: mid ++ t :: post) (hs : AcceptsAll s args)
    (ht : AcceptsAll t args) : matchLine line opcode sigs = .error (.args .ambiguous) := by
  have hbare : ¬ (args = [] ∧ sigs = []) := fun hb => by simp [h] at hb
  have hlen := two_le_length_filterMap_acceptArgs h hs ht
  rcases matchLine_of_fillings htok hbare with ⟨hf, -⟩ | ⟨p, hf, -⟩ | ⟨-, hm⟩
  · simp [hf] at hlen
  · simp [hf] at hlen
  · exact hm

end

/-- What matching a line against an instruction does, for every line, name and list of
signatures. -/
structure MatchDecision (line opcode : String) (sigs : List Signature) : Prop where
  /-- A line that is not the instruction does not match, and only such a line. -/
  other : matchLine line opcode sigs = .ok (false, []) ↔ (tokens line).head? ≠ some opcode
  /-- The bare name matches when there are no signatures. -/
  bare : tokens line = [opcode] → sigs = [] → matchLine line opcode sigs = .ok (true, [])
  /-- Otherwise the line matches exactly when one place of the list holds a signature that its
  arguments fit, and no other place does; the match is that signature filled in. -/
  one : ∀ args, tokens line = opcode :: args → ¬ (args = [] ∧ sigs = []) → ∀ parsed,
    matchLine line opcode sigs = .ok (true, parsed) ↔
      ∃ pre s post, sigs = pre ++ s :: post ∧ AcceptsAll s args ∧
        (∀ t ∈ pre ++ post, ¬ AcceptsAll t args) ∧ parsed = List.zipWith ArgSpec.fill s args
  /-- A line of the instruction matches or is refused for its arguments, nothing else. -/
  decided : ∀ args, tokens line = opcode :: args →
    (∃ parsed, matchLine line opcode sigs = .ok (true, parsed)) ∨
      ∃ f, matchLine line opcode sigs = .error (.args f)
  /-- Arguments that fit no signature are refused, listing the possible ones. -/
  none : ∀ args, tokens line = opcode :: args → ¬ (args = [] ∧ sigs = []) →
    (∀ s ∈ sigs, ¬ AcceptsAll s args) →
      matchLine line opcode sigs = .error (.args (.unmatched opcode args (choices sigs)))
  /-- Arguments that fit the signatures at two places are refused as ambiguous. -/
  many : ∀ args, tokens line = opcode :: args → ∀ pre s mid t post,
    sigs = pre ++ s :: mid ++ t :: post → AcceptsAll s args → AcceptsAll t args →
      matchLine line opcode sigs = .error (.args .ambiguous)

/-- Matching a line decides its signature. -/
theorem matchLine_decides (line opcode : String) (sigs : List Signature) :
    MatchDecision line opcode sigs where
  other := by
    constructor
    · intro h hhead
      obtain ⟨args, htok⟩ : ∃ args, tokens line = opcode :: args := by
        cases htok : tokens line with
        | nil => rw [htok] at hhead; cases hhead
        | cons op args =>
          rw [htok, List.head?_cons, Option.some.injEq] at hhead
          exact ⟨args, by rw [hhead]⟩
      -- the instruction's own line matches or is refused, never left unmatched
      by_cases hbare : args = [] ∧ sigs = []
      · obtain ⟨rfl, rfl⟩ := hbare
        simp [matchLine, htok] at h
      · rcases matchLine_of_fillings htok hbare with ⟨-, hm⟩ | ⟨p, -, hm⟩ | ⟨-, hm⟩ <;>
          simp [hm] at h
    · intro hhead
      exact matchLine_of_other fun args htok => hhead (by rw [htok, List.head?_cons])
  bare htok hsigs := by
    subst hsigs
    simp [matchLine, htok]
  one args htok hbare parsed := by
    rw [matchLine_eq_ok_iff htok hbare, filterMap_acceptArgs_eq_singleton_iff]
  decided args htok := by
    by_cases hbare : args = [] ∧ sigs = []
    · obtain ⟨rfl, rfl⟩ := hbare
      exact .inl ⟨[], by simp [matchLine, htok]⟩
    · rcases matchLine_of_fillings htok hbare with ⟨-, hm⟩ | ⟨p, -, hm⟩ | ⟨-, hm⟩
      · exact .inr ⟨_, hm⟩
      · exact .inl ⟨p, hm⟩
      · exact .inr ⟨_, hm⟩
  none args htok hbare h := matchLine_of_none htok hbare h
  many args htok pre s mid t post h hs ht := matchLine_of_two htok h hs ht

end ByteMachine.Assembly
