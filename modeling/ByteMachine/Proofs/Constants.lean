import ByteMachine.Proofs.Faults
/- Classifying the constants of a line. A constant byte holds a label, a
   variable or a number, told apart by the first character of its constant;
   a number is read and must fit in a byte. This module

   1. uses that no constant is of two kinds (`kinds_apart`), so the check
      for a constant of several kinds never fires;
   2. describes what classifying makes of one byte (`Identified`): a byte
      without a constant is kept, a constant is marked with its kind and a
      number with its value, every other field kept; and which bytes it
      refuses (`Refused`), each with its fault (`refusal`); every byte is one
      or the other (`identified_or_refused`);
   3. reads the classifying of a list (`classifyAll_constants`): it is
      refused exactly when a byte is, with the line fault of the first
      refused byte, and otherwise identifies every byte in place. -/
namespace ByteMachine.Assembly

/-! ## Classifying one byte -/

/-- What classifying makes of a byte: a byte that holds no constant is kept, a label or a
variable is marked as such, and a number that fits in a byte is marked with its value; every
other field is kept. -/
inductive Identified : CodeByte → CodeByte → Prop
  | kept {b : CodeByte} : b.role ≠ .constant → Identified b b
  | asLabel {b : CodeByte} : b.role = .constant → isLabel b.constant = true →
      Identified b { b with kind := .label }
  | asVariable {b : CodeByte} : b.role = .constant → isVariable b.constant = true →
      Identified b { b with kind := .variable }
  | asNumber {b : CodeByte} {v : Int} : b.role = .constant → isNumber b.constant = true →
      numberValue b.constant = .ok v → -128 ≤ v → v ≤ 255 →
      Identified b { b with kind := .number, value := v }

/-- A constant byte that classifying refuses: its constant is of no kind, or a number that
does not fit in a byte. -/
def Refused (b : CodeByte) : Prop :=
  b.role = .constant ∧ (isConstant b.constant = false ∨
    isNumber b.constant = true ∧
      ∃ v, numberValue b.constant = .ok v ∧ ¬ (-128 ≤ v ∧ v ≤ 255))

/-- The fault with which classifying refuses a byte. -/
def refusal (b : CodeByte) : LineFault :=
  if isConstant b.constant then .outOfByte b.constant else .badConstant

theorem classify_of_identified {b b' : CodeByte} (h : Identified b b') : classify b = .ok b' := by
  simp only [classify, bind, Except.bind, pure, Except.pure, throw, throwThe,
    MonadExceptOf.throw, not_many_kinds, if_false]
  cases h with
  | kept hr => simp [hr]
  | asLabel hr hl => simp [hr, hl, isConstant]
  | asVariable hr hv => simp [hr, hv, isLabel_eq_false_of_isVariable hv, isConstant]
  | asNumber hr hn hv hlo hhi =>
    simp [hr, hn, hv, isLabel_eq_false_of_isNumber hn, isVariable_eq_false_of_isNumber hn,
      isConstant, Word.fits_byte_iff, hlo, hhi]

theorem classify_of_refused {b : CodeByte} (h : Refused b) :
    classify b = .error (.line (refusal b)) := by
  simp only [classify, bind, Except.bind, pure, Except.pure, throw, throwThe,
    MonadExceptOf.throw, not_many_kinds, if_false]
  obtain ⟨hr, hbad | ⟨hn, v, hv, hout⟩⟩ := h
  · simp [hr, hbad, refusal]
  · have hc : isConstant b.constant = true := by simp [isConstant, hn]
    simp [hr, hc, hv, isLabel_eq_false_of_isNumber hn, isVariable_eq_false_of_isNumber hn,
      Word.fits_byte_iff, hout, refusal]

/-- Every byte is identified or refused. -/
theorem identified_or_refused (b : CodeByte) : (∃ b', Identified b b') ∨ Refused b := by
  by_cases hr : b.role = .constant
  · cases hc : isConstant b.constant
    · exact .inr ⟨hr, .inl hc⟩
    · -- a constant is a label, a variable or a number, whose value is read
      cases hl : isLabel b.constant
      · cases hv : isVariable b.constant
        · have hn : isNumber b.constant = true := by simpa [isConstant, hl, hv] using hc
          obtain ⟨v, hval⟩ := numberValue_of_isNumber hn
          by_cases hfit : -128 ≤ v ∧ v ≤ 255
          · exact .inl ⟨_, .asNumber hr hn hval hfit.1 hfit.2⟩
          · exact .inr ⟨hr, .inr ⟨hn, v, hval, hfit⟩⟩
        · exact .inl ⟨_, .asVariable hr hv⟩
      · exact .inl ⟨_, .asLabel hr hl⟩
  · exact .inl ⟨b, .kept hr⟩

theorem classify_eq_ok_iff {b b' : CodeByte} : classify b = .ok b' ↔ Identified b b' := by
  constructor
  · intro h
    rcases identified_or_refused b with ⟨b'', hb⟩ | hrf
    · rw [classify_of_identified hb, Except.ok.injEq] at h
      rwa [← h]
    · rw [classify_of_refused hrf] at h
      cases h
  · exact classify_of_identified

theorem classify_eq_error_iff {b : CodeByte} {f : Fault} :
    classify b = .error f ↔ Refused b ∧ f = .line (refusal b) := by
  constructor
  · intro h
    rcases identified_or_refused b with ⟨b', hb⟩ | hrf
    · rw [classify_of_identified hb] at h
      cases h
    · rw [classify_of_refused hrf, Except.error.injEq] at h
      exact ⟨hrf, h.symm⟩
  · rintro ⟨hrf, rfl⟩
    exact classify_of_refused hrf

theorem exists_classify_eq_ok_iff {b : CodeByte} :
    (∃ b', classify b = .ok b') ↔ ¬ Refused b := by
  simp only [classify_eq_ok_iff]
  constructor
  · intro ⟨b', hb⟩ hrf
    have := classify_of_refused hrf
    rw [classify_of_identified hb] at this
    cases this
  · intro hnr
    exact (identified_or_refused b).resolve_right hnr

/-! ## Classifying the bytes of a line -/

variable {α β ε : Type} in
/-- A `mapM` fails exactly at its first element that fails, all before it succeeding. -/
theorem mapM_eq_error_iff {f : α → Except ε β} {e : ε} :
    ∀ {xs : List α}, xs.mapM f = .error e ↔
      ∃ pre x post, xs = pre ++ x :: post ∧ (∀ y ∈ pre, ∃ z, f y = .ok z) ∧
        f x = .error e
  | [] => by simp [pure, Except.pure]
  | x :: xs => by
    rw [List.mapM_cons, bind_eq_error]
    constructor
    · rintro (hx | ⟨y, hx, h⟩)
      · exact ⟨[], x, xs, rfl, nofun, hx⟩
      · rcases bind_eq_error.mp h with h | ⟨_, -, h⟩
        · obtain ⟨pre, z, post, rfl, hpre, hz⟩ := mapM_eq_error_iff.mp h
          refine ⟨x :: pre, z, post, rfl, ?_, hz⟩
          intro w hw
          rcases List.mem_cons.mp hw with rfl | hw
          · exact ⟨y, hx⟩
          · exact hpre w hw
        · cases h
    · rintro ⟨pre, z, post, hxs, hpre, hz⟩
      cases pre with
      | nil =>
        obtain ⟨rfl, -⟩ := List.cons.inj hxs
        exact .inl hz
      | cons p pre' =>
        obtain ⟨rfl, rfl⟩ := List.cons.inj hxs
        obtain ⟨y, hy⟩ := hpre x List.mem_cons_self
        refine .inr ⟨y, hy, bind_eq_error.mpr (.inl ?_)⟩
        exact mapM_eq_error_iff.mpr ⟨pre', z, post, rfl, fun w hw => hpre w (.tail _ hw), hz⟩

theorem classifyAll_eq_ok_iff {bs bs' : List CodeByte} :
    classifyAll bs = .ok bs' ↔ List.Forall₂ Identified bs bs' := by
  rw [classifyAll, mapM_eq_ok]
  simp only [classify_eq_ok_iff]

theorem classifyAll_eq_error_iff {bs : List CodeByte} {f : Fault} :
    classifyAll bs = .error f ↔
      ∃ pre b post, bs = pre ++ b :: post ∧ (∀ x ∈ pre, ¬ Refused x) ∧ Refused b ∧
        f = .line (refusal b) := by
  rw [classifyAll, mapM_eq_error_iff]
  simp only [exists_classify_eq_ok_iff, classify_eq_error_iff]

/-- What classifying the constant bytes of a line does. -/
structure ClassifiesConstants (bs : List CodeByte) : Prop where
  /-- No constant is of more than one kind. -/
  single_kind : ∀ b ∈ bs,
    ([isLabel b.constant, isVariable b.constant, isNumber b.constant].filter id).length ≤ 1
  /-- The bytes are refused exactly when one of them is. -/
  refuses : (∃ f, classifyAll bs = .error f) ↔ ∃ b ∈ bs, Refused b
  /-- The fault is a line fault, for the first refused byte. -/
  first : ∀ f, classifyAll bs = .error f →
    ∃ pre b post, bs = pre ++ b :: post ∧ (∀ x ∈ pre, ¬ Refused x) ∧ Refused b ∧
      f = .line (refusal b)
  /-- Otherwise every byte is identified, and nothing else comes out. -/
  identifies : (∀ b ∈ bs, ¬ Refused b) → ∃ bs', classifyAll bs = .ok bs'
  result : ∀ bs', classifyAll bs = .ok bs' ↔ List.Forall₂ Identified bs bs'

/-- Classifying constants. -/
theorem classifyAll_constants (bs : List CodeByte) : ClassifiesConstants bs where
  single_kind b _ := kinds_apart b.constant
  refuses := by
    constructor
    · intro ⟨f, hf⟩
      obtain ⟨pre, b, post, rfl, -, hb, -⟩ := classifyAll_eq_error_iff.mp hf
      exact ⟨b, by simp, hb⟩
    · -- a refused byte cannot be classified, so the whole list is refused
      intro ⟨b, hb, hrf⟩
      cases h : classifyAll bs with
      | error f => exact ⟨f, rfl⟩
      | ok bs' => exact absurd hrf (exists_classify_eq_ok_iff.mp (ok_of_mapM_eq_ok h b hb))
  first f hf := classifyAll_eq_error_iff.mp hf
  identifies h := exists_mapM_eq_ok fun b hb => exists_classify_eq_ok_iff.mpr (h b hb)
  result bs' := classifyAll_eq_ok_iff

end ByteMachine.Assembly
