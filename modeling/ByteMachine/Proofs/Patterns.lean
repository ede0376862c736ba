import ByteMachine.Bitdef
import ByteMachine.Proofs.Except
import Mathlib.Data.List.Nodup
/- What a bit pattern stands for. A pattern admits the strings of its length
   that agree with it on every fixed position and hold a bit at every open
   one. This module

   1. shows that collapsing a pattern lists exactly the strings it admits,
      each once (`mem_collapse`, `nodup_collapse`);
   2. takes a successful combination apart (`merge_eq_ok`): the patterns
      have one length, fix no common position, and are laid one on top of
      the other;
   3. shows that a combination of bit patterns admits exactly what each of
      them admits (`admits_merge`), and fixes a position exactly where one
      of them does (`fixes_merge`);
   4. reads the text that `fill` writes, position by position
      (`toList_fill_zero`). -/
namespace ByteMachine

namespace Cell

/-- Whether the cell admits the character: an open cell either bit, a fixed cell its symbol. -/
def admits : Cell → Char → Bool
  | .wild, x => x == '0' || x == '1'
  | .fixed c, x => x == c

/-- Whether the cell is open or fixed to a bit. -/
def isBinary : Cell → Bool
  | .wild => true
  | .fixed c => c == '0' || c == '1'

/-- The symbol that filling with zeros writes for a cell. -/
def zeroFill : Cell → Char
  | .wild => '0'
  | .fixed c => c

@[simp] theorem admits_wild (x : Char) : Cell.wild.admits x = (x == '0' || x == '1') := rfl

@[simp] theorem admits_fixed (c x : Char) : (Cell.fixed c).admits x = (x == c) := rfl

/-- A cell that admits a character and lies over an open cell admits it alone, if it is a bit cell. -/
theorem admits_of_binary {c : Cell} {x : Char} (hc : c.isBinary = true) (h : c.admits x = true) :
    Cell.wild.admits x = true := by
  cases c with
  | wild => exact h
  | fixed d =>
    simp only [isBinary, Bool.or_eq_true, beq_iff_eq] at hc
    simp only [admits_fixed, beq_iff_eq] at h
    subst h
    rcases hc with rfl | rfl <;> decide

/-- Two bit cells that do not both fix their position: the one on top admits what both admit. -/
theorem admits_atop {c d : Cell} (hc : c.isBinary = true) (hd : d.isBinary = true)
    (hcd : (c.isFixed && d.isFixed) = false) (x : Char) :
    (c.atop d).admits x = (c.admits x && d.admits x) := by
  cases c with
  | wild =>
    cases hx : d.admits x
    · simp [atop, hx]
    · simp [atop, hx, admits_of_binary hd hx]
  | fixed a =>
    cases d with
    | wild =>
      cases hx : (Cell.fixed a).admits x
      · simp [atop, hx]
      · simp [atop, hx, admits_of_binary hc hx]
    | fixed b => simp [isFixed] at hcd

end Cell

namespace Bitdef

/-- The pattern admits the characters `w`: one for each position, each admitted by its cell. -/
def Admits (b : Bitdef) (w : List Char) : Prop :=
  List.Forall₂ (fun c x => c.admits x = true) b.cells w

/-- Whether every position of the pattern is open or fixed to a bit. -/
def isBinary (b : Bitdef) : Bool := b.cells.all Cell.isBinary

/-! ## Collapsing -/

theorem mem_completions {w : List Char} :
    ∀ {cs : List Cell}, w ∈ completions cs ↔ List.Forall₂ (fun c x => c.admits x = true) cs w
  | [] => by simp only [completions, List.mem_singleton, List.forall₂_nil_left_iff]
  | .wild :: r => by
    rw [List.forall₂_cons_left_iff]
    simp only [completions, List.mem_append, List.mem_map, mem_completions]
    constructor
    · rintro (⟨v, hv, rfl⟩ | ⟨v, hv, rfl⟩) <;> exact ⟨_, v, by decide, hv, rfl⟩
    · rintro ⟨x, v, hx, hv, rfl⟩
      simp only [Cell.admits_wild, Bool.or_eq_true, beq_iff_eq] at hx
      rcases hx with rfl | rfl
      · exact .inl ⟨v, hv, rfl⟩
      · exact .inr ⟨v, hv, rfl⟩
  | .fixed c :: r => by
    rw [List.forall₂_cons_left_iff]
    simp only [completions, List.mem_map, mem_completions, Cell.admits_fixed, beq_iff_eq]
    constructor
    · rintro ⟨v, hv, rfl⟩
      exact ⟨c, v, rfl, hv, rfl⟩
    · rintro ⟨x, v, rfl, hv, rfl⟩
      exact ⟨v, hv, rfl⟩

/-- The strings a pattern collapses to are the strings it admits. -/
theorem mem_collapse {b : Bitdef} {s : String} : s ∈ b.collapse ↔ b.Admits s.toList := by
  rw [collapse, List.mem_map, Admits, ← mem_completions]
  constructor
  · rintro ⟨w, hw, rfl⟩
    simpa using hw
  · intro h
    exact ⟨s.toList, h, by simp⟩

theorem nodup_completions : ∀ cs : List Cell, (completions cs).Nodup
  | [] => by simp [completions]
  | .wild :: r => by
    have hr := nodup_completions r
    simp only [completions]
    refine List.nodup_append.mpr
      ⟨List.Nodup.map List.cons_injective hr, List.Nodup.map List.cons_injective hr, ?_⟩
    -- the two halves differ in their first character
    simp only [List.mem_map]
    rintro _ ⟨v, -, rfl⟩ _ ⟨u, -, rfl⟩ h
    simp at h
  | .fixed c :: r => List.Nodup.map List.cons_injective (nodup_completions r)

/-- A pattern collapses to each string it admits once. -/
theorem nodup_collapse (b : Bitdef) : b.collapse.Nodup :=
  List.Nodup.map (fun _ _ h => by simpa using congrArg String.toList h) (nodup_completions b.cells)

/-! ## Combining -/

/-- The pattern fixes position `i` to `c`. -/
def Fixes (b : Bitdef) (i : Nat) (c : Char) : Prop := b.cells[i]? = some (.fixed c)

instance (b : Bitdef) (i : Nat) (c : Char) : Decidable (b.Fixes i c) :=
  inferInstanceAs (Decidable (_ = _))

theorem merge_eq_ok {bs : List Bitdef} {m : Bitdef} (h : merge bs = .ok m) :
    ∃ b rest, bs = b :: rest ∧ (∀ c ∈ bs, c.length = b.length) ∧ anyClash bs = false ∧
      m = bs.foldr overlay (dots b.length) := by
  cases bs with
  | nil => simp [merge, first, bind, Except.bind] at h
  | cons b rest =>
    refine ⟨b, rest, rfl, ?_⟩
    by_cases hl : ((b :: rest).all fun c => c.length == b.length) = true
    · by_cases hc : anyClash (b :: rest) = true
      · simp [merge, first, sameLength, overlapping, hl, hc, bind, Except.bind, pure, Except.pure,
          throw, throwThe, MonadExceptOf.throw] at h
      · refine ⟨by simpa using hl, by simpa using hc, ?_⟩
        simp [merge, first, sameLength, overlapping, hl, hc, bind, Except.bind, pure,
          Except.pure] at h
        exact h.symm
    · simp [merge, first, sameLength, hl, bind, Except.bind, pure, Except.pure,
        throw, throwThe, MonadExceptOf.throw] at h

theorem clash_eq_false_iff {a b : Bitdef} :
    clash a b = false ↔ ∀ i x y, a.Fixes i x → b.Fixes i y → False := by
  unfold clash
  rw [List.any_eq_false]
  constructor
  · intro h i x y ha hb
    have hmem : (Cell.fixed x, Cell.fixed y) ∈ a.cells.zip b.cells :=
      List.mem_iff_getElem?.mpr ⟨i, List.getElem?_zip_eq_some.mpr ⟨ha, hb⟩⟩
    exact h _ hmem (by simp [Cell.isFixed])
  · rintro h ⟨c, d⟩ hp hcd
    obtain ⟨i, hi⟩ := List.mem_iff_getElem?.mp hp
    obtain ⟨hc, hd⟩ := List.getElem?_zip_eq_some.mp hi
    cases c <;> cases d <;> simp [Cell.isFixed] at hcd
    exact h i _ _ hc hd

theorem anyClash_cons_eq_false {b : Bitdef} {rest : List Bitdef} :
    anyClash (b :: rest) = false ↔ (∀ c ∈ rest, clash b c = false) ∧ anyClash rest = false := by
  simp [anyClash]

/-- A cell of the pattern on top shows unless it is open. -/
theorem fixes_overlay {p q : Bitdef} (hlen : p.length = q.length) {i : Nat} {c : Char} :
    (overlay p q).Fixes i c ↔ p.Fixes i c ∨ (p.cells[i]? = some .wild ∧ q.Fixes i c) := by
  unfold Fixes overlay
  rw [List.getElem?_zipWith_eq_some]
  constructor
  · rintro ⟨x, y, hx, hy, hxy⟩
    cases x with
    | wild => exact .inr ⟨hx, hxy ▸ hy⟩
    | fixed a =>
      cases hxy
      exact .inl hx
  · rintro (h | ⟨hw, hq⟩)
    · have hi : i < q.cells.length := by
        have := (List.getElem?_eq_some_iff.mp h).1
        simp only [length] at hlen
        omega
      exact ⟨_, _, h, List.getElem?_eq_getElem hi, rfl⟩
    · exact ⟨_, _, hw, hq, rfl⟩

theorem length_overlay {p q : Bitdef} (hlen : p.length = q.length) : (overlay p q).length = p.length := by
  simp only [overlay, length, List.length_zipWith] at hlen ⊢
  omega

/-- Patterns of one length that fix no common
position, laid over the open pattern, fix exactly the positions that one of them fixes. -/
theorem fixes_foldr_overlay {n : Nat} :
    ∀ {bs : List Bitdef}, (∀ b ∈ bs, b.length = n) → anyClash bs = false →
      (bs.foldr overlay (dots n)).length = n ∧
        ∀ i c, (bs.foldr overlay (dots n)).Fixes i c ↔ ∃ b ∈ bs, b.Fixes i c
  | [], _, _ => ⟨by simp [dots, length], fun i c => by simp [Fixes, dots, List.getElem?_replicate]⟩
  | b :: rest, hlen, hclash => by
    obtain ⟨hb, hrest⟩ := anyClash_cons_eq_false.mp hclash
    obtain ⟨ih_len, ih⟩ := fixes_foldr_overlay (fun c hc => hlen c (List.mem_cons_of_mem _ hc)) hrest
    have hbn := hlen b List.mem_cons_self
    refine ⟨by rw [List.foldr_cons, length_overlay (by omega), hbn], fun i c => ?_⟩
    rw [List.foldr_cons, fixes_overlay (by omega), ih]
    constructor
    · rintro (h | ⟨-, b', hb', h⟩)
      · exact ⟨b, List.mem_cons_self, h⟩
      · exact ⟨b', List.mem_cons_of_mem _ hb', h⟩
    · rintro ⟨b', hb', h⟩
      rcases List.mem_cons.mp hb' with rfl | hb'
      · exact .inl h
      · -- a position that a later pattern fixes is open in `b`
        refine .inr ⟨?_, b', hb', h⟩
        have hi : i < b.cells.length := by
          have := (List.getElem?_eq_some_iff.mp h).1
          have := hlen b' (List.mem_cons_of_mem _ hb')
          simp only [length] at hbn this
          omega
        rw [List.getElem?_eq_getElem hi]
        cases hcell : b.cells[i] with
        | wild => rfl
        | fixed x =>
          exact (clash_eq_false_iff.mp (hb b' hb') i x c
            (by rw [Fixes, List.getElem?_eq_getElem hi, hcell]) h).elim

/-- A combination has the length of its patterns and fixes exactly what one
of them fixes. -/
theorem fixes_merge {bs : List Bitdef} {m : Bitdef} (h : merge bs = .ok m) :
    ∃ b ∈ bs, (∀ c ∈ bs, c.length = b.length) ∧ m.length = b.length ∧
      ∀ i c, m.Fixes i c ↔ ∃ b ∈ bs, b.Fixes i c := by
  obtain ⟨b, rest, rfl, hlen, hclash, rfl⟩ := merge_eq_ok h
  obtain ⟨hm, hfix⟩ := fixes_foldr_overlay hlen hclash
  exact ⟨b, List.mem_cons_self, hlen, hm, hfix⟩

/-! ## What a bit pattern admits -/

theorem isBinary_iff {b : Bitdef} : b.isBinary = true ↔ ∀ i c, b.Fixes i c → c = '0' ∨ c = '1' := by
  simp only [isBinary, List.all_eq_true, Fixes]
  constructor
  · intro h i c hc
    have := h _ (List.mem_of_getElem? hc)
    simpa [Cell.isBinary] using this
  · intro h x hx
    obtain ⟨i, hi⟩ := List.mem_iff_getElem?.mp hx
    cases x with
    | wild => rfl
    | fixed c => simpa [Cell.isBinary] using h i c hi

/-- A bit pattern admits the bit strings of its length that agree with it where it is fixed. -/
theorem admits_iff {b : Bitdef} (hb : b.isBinary = true) {w : List Char} :
    b.Admits w ↔ w.length = b.length ∧ (∀ x ∈ w, x = '0' ∨ x = '1') ∧
      ∀ i c, b.Fixes i c → w[i]? = some c := by
  rw [Admits, List.forall₂_iff_get]
  simp only [List.get_eq_getElem, length, Fixes]
  constructor
  · rintro ⟨hlen, h⟩
    refine ⟨hlen.symm, fun x hx => ?_, fun i c hc => ?_⟩
    · obtain ⟨i, hi, rfl⟩ := List.getElem_of_mem hx
      have hcell := h i (by omega) hi
      cases hc : b.cells[i] with
      | wild => simpa [hc] using hcell
      | fixed c =>
        have := (isBinary_iff.mp hb) i c (by rw [Fixes, List.getElem?_eq_getElem (by omega), hc])
        simp only [hc, Cell.admits_fixed, beq_iff_eq] at hcell
        rw [hcell]
        exact this
    · obtain ⟨hi, hci⟩ := List.getElem?_eq_some_iff.mp hc
      have hcell := h i hi (by omega)
      rw [hci, Cell.admits_fixed, beq_iff_eq] at hcell
      rw [List.getElem?_eq_getElem (by omega), hcell]
  · rintro ⟨hlen, hbits, hfix⟩
    refine ⟨hlen.symm, fun i h₁ h₂ => ?_⟩
    cases hc : b.cells[i] with
    | wild => simpa using hbits _ (List.getElem_mem h₂)
    | fixed c =>
      have := hfix i c (by rw [List.getElem?_eq_getElem h₁, hc])
      simp [List.getElem?_eq_getElem h₂] at this
      simp [this]

/-- Combined bit patterns admit exactly what each of them admits. -/
theorem admits_merge {bs : List Bitdef} {m : Bitdef} (h : merge bs = .ok m)
    (hb : ∀ b ∈ bs, b.isBinary = true) {w : List Char} :
    m.Admits w ↔ ∀ b ∈ bs, b.Admits w := by
  obtain ⟨b₀, hb₀, hlen, hm, hfix⟩ := fixes_merge h
  have hmb : m.isBinary = true := isBinary_iff.mpr fun i c hc => by
    obtain ⟨b, hbs, hbc⟩ := (hfix i c).mp hc
    exact isBinary_iff.mp (hb b hbs) i c hbc
  rw [admits_iff hmb]
  constructor
  · rintro ⟨hw, hbits, hf⟩ b hbs
    rw [admits_iff (hb b hbs)]
    exact ⟨by rw [hw, hm, hlen b hbs], hbits, fun i c hbc => hf i c ((hfix i c).mpr ⟨b, hbs, hbc⟩)⟩
  · intro H
    obtain ⟨hw, hbits, -⟩ := (admits_iff (hb b₀ hb₀)).mp (H b₀ hb₀)
    refine ⟨by rw [hw, hm], hbits, fun i c hmc => ?_⟩
    obtain ⟨b, hbs, hbc⟩ := (hfix i c).mp hmc
    exact ((admits_iff (hb b hbs)).mp (H b hbs)).2.2 i c hbc

/-- A field fixes its bits from its start and nothing else. -/
theorem fixes_field {n start : Nat} {bits : String} {i : Nat} {c : Char} :
    (field n start bits).Fixes i c ↔ start ≤ i ∧ bits.toList[i - start]? = some c := by
  rw [Fixes, field, List.append_assoc, List.getElem?_append]
  by_cases hi : i < start
  · have hle : ¬ start ≤ i := by omega
    simp [hi, hle]
  · rw [List.length_replicate, if_neg hi, List.getElem?_append, List.length_map]
    by_cases hb : i - start < bits.toList.length
    · simp [hb, Nat.le_of_not_lt hi]
    · have : bits.toList[i - start]? = none := List.getElem?_eq_none (by omega)
      simp [hb, List.getElem?_replicate]

/-! ## Patterns that admit nothing in common -/

theorem getElem?_of_admits {b : Bitdef} {w : List Char} (h : b.Admits w) {i : Nat} {c : Char}
    (hc : b.Fixes i c) : w[i]? = some c := by
  obtain ⟨hlen, hcells⟩ := List.forall₂_iff_get.mp h
  obtain ⟨hi, hci⟩ := List.getElem?_eq_some_iff.mp hc
  have hiw : i < w.length := hlen ▸ hi
  have hcell := hcells i hi hiw
  simp only [List.get_eq_getElem, hci, Cell.admits_fixed, beq_iff_eq] at hcell
  rw [List.getElem?_eq_getElem hiw, hcell]

/-- Whether two patterns fix some common position to different symbols. -/
def apart (a b : Bitdef) : Bool :=
  (a.cells.zip b.cells).any fun
    | (.fixed x, .fixed y) => x != y
    | _ => false

theorem apart_iff {a b : Bitdef} :
    a.apart b = true ↔ ∃ i c c', a.Fixes i c ∧ b.Fixes i c' ∧ c ≠ c' := by
  simp only [apart, List.any_eq_true, Fixes]
  constructor
  · rintro ⟨⟨x, y⟩, hmem, hxy⟩
    obtain ⟨i, hi⟩ := List.mem_iff_getElem?.mp hmem
    rw [List.getElem?_zip_eq_some] at hi
    cases x <;> cases y <;> simp only [Bool.false_eq_true, bne_iff_ne, ne_eq] at hxy
    exact ⟨i, _, _, hi.1, hi.2, hxy⟩
  · rintro ⟨i, c, c', hc, hc', hne⟩
    refine ⟨(.fixed c, .fixed c'), List.mem_iff_getElem?.mpr ⟨i, ?_⟩, by simpa using hne⟩
    exact List.getElem?_zip_eq_some.mpr ⟨hc, hc'⟩

theorem apart_comm {a b : Bitdef} (h : a.apart b = true) : b.apart a = true := by
  obtain ⟨i, c, c', hc, hc', hne⟩ := apart_iff.mp h
  exact apart_iff.mpr ⟨i, c', c, hc', hc, Ne.symm hne⟩

/-- Patterns that are apart admit no common string. -/
theorem not_admits_of_apart {a b : Bitdef} (h : a.apart b = true) {w : List Char}
    (ha : a.Admits w) : ¬ b.Admits w := by
  intro hb
  obtain ⟨i, c, c', hc, hc', hne⟩ := apart_iff.mp h
  have hw := getElem?_of_admits ha hc
  rw [getElem?_of_admits hb hc', Option.some.injEq] at hw
  exact hne hw.symm

/-- `m` fixes every position that `b` fixes, to the same symbol. -/
def Refines (m b : Bitdef) : Prop := ∀ i c, b.Fixes i c → m.Fixes i c

theorem Refines.refl (b : Bitdef) : b.Refines b := fun _ _ h => h

theorem Refines.trans {a b c : Bitdef} (hab : a.Refines b) (hbc : b.Refines c) : a.Refines c :=
  fun i x h => hab i x (hbc i x h)

/-- Patterns fixing at least what two apart patterns fix are apart. -/
theorem Refines.apart {a b a' b' : Bitdef} (ha : a'.Refines a) (hb : b'.Refines b)
    (h : a.apart b = true) : a'.apart b' = true := by
  obtain ⟨i, c, c', hc, hc', hne⟩ := apart_iff.mp h
  exact apart_iff.mpr ⟨i, c, c', ha i c hc, hb i c' hc', hne⟩

/-- A combination fixes what a combination of fewer of its patterns fixes. -/
theorem refines_merge {bs bs' : List Bitdef} {m m' : Bitdef} (h : merge bs = .ok m)
    (h' : merge bs' = .ok m') (hsub : ∀ b ∈ bs, b ∈ bs') : m'.Refines m := by
  intro i c hc
  obtain ⟨-, -, -, -, hfix⟩ := fixes_merge h
  obtain ⟨-, -, -, -, hfix'⟩ := fixes_merge h'
  obtain ⟨b, hb, hbc⟩ := (hfix i c).mp hc
  exact (hfix' i c).mpr ⟨b, hsub b hb, hbc⟩

theorem refines_of_mem_merge {bs : List Bitdef} {m b : Bitdef} (h : merge bs = .ok m)
    (hb : b ∈ bs) : m.Refines b :=
  refines_merge (merge_single b) h (by simpa using hb)

/-! ## Filling -/

theorem toList_fill_zero (b : Bitdef) : (b.fill "0").toList = b.cells.map Cell.zeroFill := by
  have hzero : "0".toList = ['0'] := rfl
  unfold fill
  rw [String.toList_ofList, hzero]
  induction b.cells with
  | nil => rfl
  | cons c r ih => cases c <;> simp [Cell.zeroFill, ih]

/-- Filling with zeros writes `1` exactly where the pattern fixes a `1`. -/
theorem fill_zero_eq_one {b : Bitdef} {i : Nat} :
    (b.fill "0").toList[i]? = some '1' ↔ b.Fixes i '1' := by
  rw [toList_fill_zero, List.getElem?_map, Fixes]
  cases b.cells[i]? with
  | none => simp
  | some c => cases c <;> simp [Cell.zeroFill]

end Bitdef

end ByteMachine
