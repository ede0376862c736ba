import ByteMachine.Proofs.Pipeline
import Mathlib.Data.List.Induction
/- Variables. A variable stands for an address of data memory: the variables
   of a program are ranked in the order they are first named, by a line that
   declares one or by a byte that uses one, and the variable of rank `r` gets
   the address `offset + r`. Two passes must agree on that order: the data
   space check counts the variables to see that they fit, and the variable map
   gives them their addresses. This module

   1. names the variables of a program in order of first naming
      (`variableOrder`, by `List.eraseDups`) and states how naming one more
      variable changes that order (`eraseDups_append_singleton`);
   2. carries the addresses through the variable map (`Allocation`,
      `variableMap_allocation`);
   3. shows that the data space check bounds the count of the variables
      (`checkDataSpace_eq_ok`), though it stops early once memory is full;
   4. proves the whole allocation (`assembleLines_variables`): after a
      successful assembly from an offset `≥ 0`, every byte holding a variable
      holds the eight binary digits of its address, each address lies in
      `[offset, 254]`, and two such bytes hold the same bits exactly when they
      name the same variable. -/
namespace ByteMachine

/-- Binary digits read back give the number, whatever zeros pad them. -/
theorem Word.ofDigitChars_binary {n : Int} (h : 0 ≤ n) (w : Int) :
    Nat.ofDigitChars 2 (Word.binary n w).toList 0 = n.toNat := by
  simp [Word.binary, Word.padded, Int.not_lt.mpr h, Nat.ofDigitChars_append,
    Nat.ofDigitChars_toDigits]
  omega

theorem Word.binary_injective {n m w : Int} (hn : 0 ≤ n) (hm : 0 ≤ m)
    (h : Word.binary n w = Word.binary m w) : n = m := by
  have := congrArg (fun s => Nat.ofDigitChars 2 s.toList 0) h
  simp only [Word.ofDigitChars_binary hn, Word.ofDigitChars_binary hm] at this
  omega

/-! ## Order of first naming -/

/-- Naming `v` after `P` adds `v` last to the order of first naming, unless `P` named it. -/
theorem eraseDups_append_singleton {P : List String} {v : String} :
    (P ++ [v]).eraseDups = if v ∈ P then P.eraseDups else P.eraseDups ++ [v] := by
  rw [List.eraseDups_append]
  split_ifs with hv <;> simp [List.removeAll, hv, List.eraseDups_cons]

namespace Assembly

/-- The variables that bytes use, in order. -/
def byteVariables (bs : List CodeByte) : List String :=
  bs.filterMap fun b => if b.holds .variable then some b.constant else none

/-- The variables a line names: the one it declares, or those its bytes use. -/
def Line.variables (l : Line) : List String :=
  match l.declared with
  | some v => [v]
  | none => byteVariables l.bytes

/-- The variables of a program, in the order they are named, with repeats. -/
def programVariables (ls : List Line) : List String := ls.flatMap Line.variables

/-- The distinct variables of a program, ranked by their first naming. -/
def variableOrder (ls : List Line) : List String := (programVariables ls).eraseDups

@[simp] theorem byteVariables_nil : byteVariables [] = [] := rfl

theorem byteVariables_cons (b : CodeByte) (bs : List CodeByte) :
    byteVariables (b :: bs) =
      (if b.holds .variable then [b.constant] else []) ++ byteVariables bs := by
  by_cases hb : b.holds .variable <;> simp [byteVariables, hb]

@[simp] theorem programVariables_nil : programVariables [] = [] := rfl

@[simp] theorem programVariables_cons (l : Line) (ls : List Line) :
    programVariables (l :: ls) = l.variables ++ programVariables ls := rfl

/-- Only the kinds and the constants of bytes decide the variables they name. -/
theorem byteVariables_map {g : CodeByte → CodeByte} (hg : ∀ b, (g b).holds .variable = b.holds .variable)
    (hc : ∀ b, (g b).constant = b.constant) (bs : List CodeByte) :
    byteVariables (bs.map g) = byteVariables bs := by
  induction bs with
  | nil => rfl
  | cons b bs ih => rw [List.map_cons, byteVariables_cons, byteVariables_cons, hg, hc, ih]

@[simp] theorem Line.variables_skeleton (l : Line) : l.skeleton.variables = l.variables := by
  unfold Line.variables
  rw [Line.declared_skeleton, Line.bytes_skeleton, byteVariables_map (g := CodeByte.skeleton) (fun _ => rfl) (fun _ => rfl)]

@[simp] theorem Line.variables_mapBytes_settle (k : ConstKind) (f : CodeByte → Except Fault String)
    (l : Line) : (l.mapBytes (CodeByte.settle k f)).variables = l.variables := by
  rw [← Line.variables_skeleton, Line.skeleton_mapBytes_settle, Line.variables_skeleton]

@[simp] theorem programVariables_map_settle (k : ConstKind) (f : CodeByte → Except Fault String)
    (ls : List Line) : programVariables (ls.map (Line.mapBytes (CodeByte.settle k f))) =
      programVariables ls := by
  simp [programVariables, List.flatMap_map]

/-- Lines with the same skeletons name the same variables. -/
theorem programVariables_of_map_skeleton {ls ls' : List Line}
    (h : ls'.map Line.skeleton = ls.map Line.skeleton) : programVariables ls' = programVariables ls := by
  have key : ∀ ls : List Line, programVariables ls = (ls.map Line.skeleton).flatMap Line.variables :=
    fun ls => by simp [programVariables, List.flatMap_map]
  rw [key, h, ← key]

/-! ## The variable map -/

/-- The variable map after the variables `P` were named, from the address `offset` on: the
next address follows the distinct variables named, and each variable named has the binary
digits of its address. -/
structure Allocation (offset : Int) (P : List String) (next : Int)
    (acc : List (String × String)) : Prop where
  next_eq : next = offset + P.eraseDups.length
  lookup_eq : ∀ v, acc.lookup v =
    if v ∈ P then some (Word.binary (offset + P.eraseDups.idxOf v) 8) else none

theorem Allocation.nil (offset : Int) : Allocation offset [] offset [] :=
  ⟨by simp, by simp⟩

section Allocation

variable {offset next : Int} {P : List String} {acc : List (String × String)} {v : String}

theorem Allocation.mem_iff (h : Allocation offset P next acc) :
    (acc.lookup v).isSome ↔ v ∈ P := by
  rw [h.lookup_eq]
  split_ifs with hv <;> simp [hv]

/-- Naming a variable again changes nothing. -/
theorem Allocation.named (h : Allocation offset P next acc) (hv : v ∈ P) :
    Allocation offset (P ++ [v]) next acc := by
  have horder : (P ++ [v]).eraseDups = P.eraseDups := by simp [eraseDups_append_singleton, hv]
  refine ⟨by rw [horder]; exact h.next_eq, fun w => ?_⟩
  have hw : w ∈ P ++ [v] ↔ w ∈ P := by
    simpa using fun hwv : w = v => hwv ▸ hv
  rw [h.lookup_eq, horder]
  simp only [hw]

/-- A new variable gets the next address, which must fit in a byte. -/
theorem Allocation.push {bits : String} (h : Allocation offset P next acc) (hv : v ∉ P)
    (h0 : 0 ≤ offset) (hbits : Word.toBits next 8 = .ok bits) :
    Allocation offset (P ++ [v]) (next + 1) ((v, bits) :: acc) := by
  have horder : (P ++ [v]).eraseDups = P.eraseDups ++ [v] := by
    simp [eraseDups_append_singleton, hv]
  have hvE : v ∉ P.eraseDups := by simpa using hv
  refine ⟨by rw [horder, h.next_eq]; simp; omega, fun w => ?_⟩
  rw [horder, List.lookup_cons]
  by_cases hwv : w = v
  · -- the new entry: its bits are those of `next`, the count of the variables before it
    subst hwv
    obtain ⟨-, rfl⟩ := Word.toBits_byte_eq_ok.mp hbits
    have hnext : Word.stored next = offset + (P.eraseDups.length : Int) := by
      rw [h.next_eq]
      unfold Word.stored
      rw [if_neg (by omega)]
    simp [hnext, List.idxOf_append_of_notMem hvE]
  · have hw : (w == v) = false := by simpa using hwv
    rw [hw, h.lookup_eq]
    by_cases hwP : w ∈ P
    · have hwE : w ∈ P.eraseDups := by simpa using hwP
      simp [hwP, List.idxOf_append_of_mem hwE]
    · simp [hwP, hwv]

end Allocation

/-- Each byte using a variable not yet mapped gives it
the next address. -/
theorem foldlM_allocation {offset : Int} (h0 : 0 ≤ offset) :
    ∀ {bs : List CodeByte} {P : List String} {next : Int} {acc : List (String × String)}
      {r : Int × List (String × String)},
      Allocation offset P next acc →
      bs.foldlM (fun (st : Int × List (String × String)) b =>
          if b.holds .variable && (st.2.lookup b.constant).isNone then do
            let bits ← Word.toBits st.1 8
            pure (st.1 + 1, (b.constant, bits) :: st.2)
          else pure st) (next, acc) = .ok r →
      Allocation offset (P ++ byteVariables bs) r.1 r.2
  | [], P, next, acc, r, h, hf => by
    rw [List.foldlM_nil, pure_eq_ok] at hf
    subst hf
    simpa using h
  | b :: bs, P, next, acc, r, h, hf => by
    rw [List.foldlM_cons, bind_eq_ok] at hf
    obtain ⟨st, hst, hf⟩ := hf
    have hstep : Allocation offset (P ++ if b.holds .variable then [b.constant] else []) st.1 st.2 := by
      by_cases hb : b.holds .variable = true
      · by_cases hv : b.constant ∈ P
        · -- a variable already mapped: nothing changes
          have hnone : (acc.lookup b.constant).isNone = false := by
            rw [h.lookup_eq, if_pos hv]
            rfl
          simp only [hb, hnone, Bool.and_false, Bool.false_eq_true, ↓reduceIte, pure_eq_ok] at hst
          subst hst
          simpa [hb] using h.named hv
        · -- a new variable: the next address
          have hnone : (acc.lookup b.constant).isNone = true := by
            rw [h.lookup_eq, if_neg hv]
            rfl
          simp only [hb, hnone, Bool.and_self, ↓reduceIte, bind_eq_ok, pure_eq_ok] at hst
          obtain ⟨bits, hbits, rfl⟩ := hst
          simpa [hb] using h.push hv h0 hbits
      · simp only [hb, Bool.false_and, Bool.false_eq_true, ↓reduceIte, pure_eq_ok] at hst
        subst hst
        simpa [hb] using h
    simpa [byteVariables_cons] using foldlM_allocation h0 hstep hf

/-- Mapping the lines from an allocation of `P` gives an allocation of
`P` followed by the variables the lines name. -/
theorem variableMap_allocation {offset : Int} (h0 : 0 ≤ offset) :
    ∀ {ls : List Line} {P : List String} {next : Int} {acc m : List (String × String)},
      Allocation offset P next acc → variableMap next acc ls = .ok m →
      ∃ next', Allocation offset (P ++ programVariables ls) next' m
  | [], P, next, acc, m, h, hm => by
    rw [variableMap, Except.ok.injEq] at hm
    exact ⟨next, by simpa [hm] using h⟩
  | l :: rest, P, next, acc, m, h, hm => by
    rw [variableMap] at hm
    split at hm
    · -- a declaration names its variable
      next v hd =>
      have hvars : l.variables = [v] := by simp [Line.variables, hd]
      split at hm
      · next hs =>
        obtain ⟨n', h'⟩ := variableMap_allocation h0 (h.named (h.mem_iff.mp hs)) hm
        exact ⟨n', by simpa [hvars] using h'⟩
      · next hs =>
        obtain ⟨bits, hbits, hm⟩ := bind_eq_ok.mp hm
        obtain ⟨n', h'⟩ := variableMap_allocation h0
          (h.push (mt h.mem_iff.mpr (by simpa using hs)) h0 hbits) hm
        exact ⟨n', by simpa [hvars] using h'⟩
    · -- any other line names the variables its bytes use
      next hd =>
      obtain ⟨⟨next', acc'⟩, hf, hm⟩ := bind_eq_ok.mp hm
      obtain ⟨n', h'⟩ := variableMap_allocation h0 (foldlM_allocation h0 h hf) hm
      exact ⟨n', by simpa [Line.variables, Line.bytes, hd] using h'⟩

/-- A byte that the map finds has the binary digits of its variable's address. -/
theorem find_of_allocation {offset next : Int} {P : List String} {vars : List (String × String)}
    {c s : String} (h : Allocation offset P next vars) (hs : find vars c = .ok s) :
    c ∈ P.eraseDups ∧ s = Word.binary (offset + P.eraseDups.idxOf c) 8 := by
  have hl := find_eq_ok.mp hs
  rw [h.lookup_eq] at hl
  split_ifs at hl with hc
  · exact ⟨by simpa using hc, (Option.some.inj hl).symm⟩

/-! ## The data space check -/

/-- The variables counted after naming `P`: all of them in order, unless memory is full. -/
def Counted (offset : Int) (P vars : List String) : Prop :=
  vars = P.eraseDups ∨ overflows offset vars.length = true

theorem overflows_mono {offset : Int} {n n' : Nat} (h : overflows offset n = true) (hn : n ≤ n') :
    overflows offset n' = true := by
  simp only [overflows, decide_eq_true_eq] at *
  omega

theorem Counted.of_overflows {offset : Int} {P vars : List String}
    (h : overflows offset vars.length = true) : Counted offset P vars := .inr h

/-- Counting one variable named: it is added unless already counted. -/
theorem Counted.add {offset : Int} {P vars : List String} {v : String} (h : Counted offset P vars) :
    Counted offset (P ++ [v]) (if vars.contains v then vars else vars ++ [v]) := by
  rcases h with rfl | hfull
  · left
    by_cases hv : v ∈ P <;> simp [eraseDups_append_singleton, hv]
  · exact .of_overflows (overflows_mono hfull (by split_ifs <;> simp))

theorem length_le_usedVariables (offset : Int) :
    ∀ (vars : List String) (bs : List CodeByte), vars.length ≤ (usedVariables offset vars bs).length
  | vars, [] => Nat.le_refl _
  | vars, b :: bs => by
    have hadd : vars.length ≤ (if (b.holds .variable && !vars.contains b.constant) = true then
        vars ++ [b.constant] else vars).length := by split_ifs <;> simp
    simp only [usedVariables]
    generalize (if (b.holds .variable && !vars.contains b.constant) = true then
      vars ++ [b.constant] else vars) = vars' at hadd ⊢
    split_ifs
    · exact hadd
    · exact Nat.le_trans hadd (length_le_usedVariables offset vars' bs)

/-- Counting the variables of bytes. -/
theorem usedVariables_counted {offset : Int} :
    ∀ {bs : List CodeByte} {P vars : List String}, Counted offset P vars →
      Counted offset (P ++ byteVariables bs) (usedVariables offset vars bs)
  | [], P, vars, h => by simpa [usedVariables] using h
  | b :: bs, P, vars, h => by
    -- the byte first, then the rest unless memory is full
    have hb : Counted offset (P ++ if b.holds .variable then [b.constant] else [])
        (if (b.holds .variable && !vars.contains b.constant) = true then
          vars ++ [b.constant] else vars) := by
      by_cases hv : b.holds .variable = true
      · have := h.add (v := b.constant)
        by_cases hc : vars.contains b.constant = true <;> simp_all
      · simpa [hv] using h
    simp only [usedVariables]
    generalize (if (b.holds .variable && !vars.contains b.constant) = true then
      vars ++ [b.constant] else vars) = vars' at hb ⊢
    split_ifs with hfull
    · exact .of_overflows hfull
    · simpa [byteVariables_cons] using usedVariables_counted hb

/-- What a line adds to the scan depends only on its bytes. -/
theorem length_le_usesOf (offset : Int) (s : VarScan) (l : Line) :
    s.vars.length ≤ (scanVariables.usesOf offset s l).vars.length := by
  unfold scanVariables.usesOf
  split
  · exact length_le_usedVariables offset _ _
  · exact Nat.le_refl _

theorem length_le_scanVariables (offset : Int) :
    ∀ (s : VarScan) (ls : List Line), s.vars.length ≤ (scanVariables offset s ls).vars.length
  | s, [] => Nat.le_refl _
  | s, l :: rest => by
    have hstep : ∀ s' : VarScan,
        s'.vars.length ≤ (scanVariables offset (scanVariables.usesOf offset s' l) rest).vars.length :=
      fun s' => Nat.le_trans (length_le_usesOf offset s' l) (length_le_scanVariables offset _ rest)
    simp only [scanVariables]
    split
    · next v hd =>
      split_ifs
      · exact hstep { s with declared := some v, current := some l }
      · simp
      · refine Nat.le_trans ?_
          (hstep { s with vars := s.vars ++ [v], declared := some v, current := some l })
        simp
    · exact hstep { s with current := some l }

/-- A declaration line has no bytes. -/
theorem scanVariables_counted {offset : Int} :
    ∀ {ls : List Line} {s : VarScan} {P : List String}, (∀ l ∈ ls, l.Parsed) →
      Counted offset P s.vars → Counted offset (P ++ programVariables ls) (scanVariables offset s ls).vars
  | [], s, P, _, h => by simpa [scanVariables] using h
  | l :: rest, s, P, hp, h => by
    have hrest : ∀ l' ∈ rest, l'.Parsed := fun l' hl' => hp l' (List.mem_cons_of_mem _ hl')
    simp only [scanVariables]
    split
    · -- a declaration: no bytes, and the declared variable is counted unless already
      next v hd =>
      have hcode : l.code = none := (hp l List.mem_cons_self).declared_code (by simp [hd])
      have huses : ∀ s' : VarScan, scanVariables.usesOf offset s' l = s' := by
        intro s'
        simp [scanVariables.usesOf, hcode]
      have hvars : l.variables = [v] := by simp [Line.variables, hd]
      have hadd := h.add (v := v)
      split_ifs with hc hfull
      · rw [if_pos hc] at hadd
        rw [huses, programVariables_cons, hvars, ← List.append_assoc]
        exact scanVariables_counted hrest hadd
      · exact .of_overflows hfull
      · rw [if_neg hc] at hadd
        rw [huses, programVariables_cons, hvars, ← List.append_assoc]
        exact scanVariables_counted hrest hadd
    · -- an instruction: the variables its bytes use
      next hd =>
      have hl : l.variables = byteVariables l.bytes := by simp [Line.variables, hd]
      have huses : Counted offset (P ++ l.variables)
          (scanVariables.usesOf offset { s with current := some l } l).vars := by
        unfold scanVariables.usesOf
        split
        · next bs hbs => simpa [hl, Line.bytes, hbs] using usedVariables_counted h
        · next hbs => simpa [hl, Line.bytes, hbs] using h
      rw [programVariables_cons, ← List.append_assoc]
      exact scanVariables_counted hrest huses

/-- The data space check passes only if the distinct variables fit in data memory
from the offset on. -/
theorem checkDataSpace_eq_ok {offset : Int} {ls : List Line} (hp : ∀ l ∈ ls, l.Parsed)
    (h : checkDataSpace offset ls = .ok ()) :
    offset + ((programVariables ls).eraseDups.length : Int) ≤ 255 := by
  have hc : Counted offset ([] ++ programVariables ls) (scanVariables offset {} ls).vars :=
    scanVariables_counted hp (.inl rfl)
  simp only [checkDataSpace] at h
  split_ifs at h with hfull
  · split at h <;> cases h
  · rcases hc with heq | hover
    · simp only [List.nil_append] at heq
      simp only [overflows, heq, decide_eq_true_eq] at hfull
      omega
    · exact absurd hover hfull

/-! ## Every variable holds its address -/

/-- After a successful assembly from an offset `≥ 0`, the distinct
variables fit in data memory from the offset on; every byte holding a variable holds, in eight
binary digits, the offset plus the rank of its variable in the order of first naming; that
address is at most 254; and two such bytes hold the same bits exactly when they name the same
variable. -/
theorem assembleLines_variables {lines : List String} {offset : Int} {out : List Line}
    (h0 : 0 ≤ offset) (h : assembleLines lines offset = .ok out) :
    offset + ((variableOrder out).length : Int) ≤ 255 ∧
      ∀ b ∈ programBytes out, b.holds .variable = true →
        b.constant ∈ variableOrder out ∧
        b.bits = Word.binary (offset + (variableOrder out).idxOf b.constant) 8 ∧
        offset + ((variableOrder out).idxOf b.constant : Int) ≤ 254 ∧
        ∀ b' ∈ programBytes out, b'.holds .variable = true →
          (b.bits = b'.bits ↔ b.constant = b'.constant) := by
  obtain ⟨ls, hread, hcheck, labels, -, ls₁, h₁, ls₂, h₂, vars, hvars, hout⟩ :=
    assembleLines_eq_ok h
  obtain ⟨-, -, -, -, hspace, -⟩ := checkStructure_eq_ok hcheck
  have hparsed := readLines_parsed hread
  obtain ⟨hls₁, -⟩ := resolve_eq_ok h₁
  obtain ⟨hls₂, -⟩ := resolve_eq_ok h₂
  obtain ⟨hout, hfound⟩ := resolve_eq_ok hout
  -- the passes after reading keep the variables each line names
  have hvars₂ : programVariables ls₂ = programVariables ls := by
    rw [hls₂, hls₁, programVariables_map_settle, programVariables_map_settle,
      programVariables_of_map_skeleton (skeleton_labelled ls)]
  have horder : variableOrder out = (programVariables ls).eraseDups := by
    rw [variableOrder, hout, programVariables_map_settle, hvars₂]
  -- the variable map allocates them, and the data space check bounds their count
  obtain ⟨n, hA⟩ := variableMap_allocation h0 (Allocation.nil offset) hvars
  rw [List.nil_append, hvars₂] at hA
  have hfit := checkDataSpace_eq_ok (fun l hl => (hparsed l hl).1) hspace
  rw [← horder] at hfit
  have hbyte : ∀ b ∈ programBytes out, b.holds .variable = true →
      b.constant ∈ variableOrder out ∧
        b.bits = Word.binary (offset + (variableOrder out).idxOf b.constant) 8 := by
    intro b hb hbv
    rw [hout, programBytes_map_mapBytes] at hb
    obtain ⟨b₂, hb₂, rfl⟩ := List.mem_map.mp hb
    have hbv₂ : b₂.holds .variable = true := by simpa using hbv
    obtain ⟨s, hs⟩ := hfound b₂ hb₂ hbv₂
    obtain ⟨hmem, rfl⟩ := find_of_allocation hA hs
    rw [CodeByte.settle_of_ok hbv₂ hs, horder]
    exact ⟨hmem, rfl⟩
  refine ⟨hfit, fun b hb hbv => ?_⟩
  obtain ⟨hmem, hbits⟩ := hbyte b hb hbv
  have hlt := List.idxOf_lt_length_of_mem hmem
  refine ⟨hmem, hbits, by omega, fun b' hb' hbv' => ?_⟩
  obtain ⟨hmem', hbits'⟩ := hbyte b' hb' hbv'
  rw [hbits, hbits']
  constructor
  · -- the addresses are bytes, so equal digits mean equal ranks
    intro heq
    have := Word.binary_injective (by omega) (by omega) heq
    exact (List.idxOf_inj hmem).mp (by omega)
  · intro heq
    rw [heq]

/-- Two variables from the offset 3, one declared, one first used in an instruction. -/
theorem assembleLines_variables_declared_and_used :
    0 ≤ (3 : Int) ∧ ∃ out, assembleLines ["$x", "SET A $y", "LOAD [$x] B"] 3 = .ok out ∧
      3 + ((variableOrder out).length : Int) ≤ 255 ∧
      ∀ b ∈ programBytes out, b.holds .variable = true →
        b.constant ∈ variableOrder out ∧
        b.bits = Word.binary (3 + (variableOrder out).idxOf b.constant) 8 ∧
        3 + ((variableOrder out).idxOf b.constant : Int) ≤ 254 ∧
        ∀ b' ∈ programBytes out, b'.holds .variable = true →
          (b.bits = b'.bits ↔ b.constant = b'.constant) := by
  obtain ⟨out, h⟩ : ∃ out, assembleLines ["$x", "SET A $y", "LOAD [$x] B"] 3 = .ok out :=
    ⟨_, rfl⟩
  exact ⟨by decide, out, h, assembleLines_variables (by decide) h⟩

end Assembly

end ByteMachine
