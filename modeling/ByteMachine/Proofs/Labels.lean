import ByteMachine.Proofs.Pipeline
import Mathlib.Data.List.Nodup
/- Labels. A label stands for the number of the first byte of the first
   instruction line after the line that defines it. Three passes must agree
   on that number: numbering counts the bytes, label assignment waits with
   each label for the next line that has code, and the label map counts the
   bytes again, line by line. This module

   1. says where a label lands (`assignLabels_assigned`): on a line with code,
      with no code between it and the line that defines the label;
   2. says what the label map holds (`mem_labelMap`): for each line given a
      label, the count of the bytes before that line;
   3. proves the whole agreement (`assembleLines_labels`): after a successful
      assembly the bytes are numbered `0, 1, …, n - 1` with `n ≤ 255`, and every
      byte holding a label holds the number of the first byte of the first
      instruction line after the one line that defines it. -/
namespace ByteMachine.Assembly

/-! ## Where a label lands -/

/-- A line that `assignLabels p` gives the label `L` has code, and
either `L` was already waiting with no code before the line, or `L` is defined on an
earlier line with no code between the two. -/
theorem assignLabels_assigned {L : String} :
    ∀ {p : Option String} {ls pre post : List Line} {t : Line},
      (∀ l ∈ ls, l.Parsed ∧ l.assigned = none) →
      assignLabels p ls = pre ++ t :: post → t.assigned = some L →
      t.code.isSome ∧ ((p = some L ∧ ∀ l ∈ pre, l.code = none) ∨
        ∃ pre' d mid, pre = pre' ++ d :: mid ∧ d.label = some L ∧ ∀ l ∈ mid, l.code = none)
  | _, [], pre, _, _, _, h, _ => by simp [assignLabels] at h
  | p, l :: rest, pre, post, t, hp, h, ht => by
    obtain ⟨⟨hlc, -, -⟩, hla⟩ := hp l List.mem_cons_self
    have hrest : ∀ x ∈ rest, x.Parsed ∧ x.assigned = none :=
      fun x hx => hp x (List.mem_cons_of_mem l hx)
    -- the label waiting after line `l`: the one before, or else `l`'s own
    generalize hq : (if p.isNone then (if l.label.isSome then l.label else p) else p) = q
    have hq' : q = p ∨ (p = none ∧ q = l.label) := by
      cases p <;> cases hl : l.label <;> simp_all
    simp only [assignLabels, hq] at h
    split_ifs at h with hc
    · -- `l` has code and takes the waiting label `q`
      cases pre with
      | nil =>
        simp only [List.nil_append, List.cons.injEq] at h
        obtain ⟨rfl, -⟩ := h
        refine ⟨hc.1, .inl ⟨?_, fun _ hl => absurd hl List.not_mem_nil⟩⟩
        rcases hq' with rfl | ⟨-, rfl⟩
        · exact ht
        · -- a line defining a label has no code
          simp [hlc (Option.isSome_of_eq_some ht)] at hc
      | cons x pre =>
        simp only [List.cons_append, List.cons.injEq] at h
        obtain ⟨-, h⟩ := h
        obtain ⟨hcode, hcase⟩ := assignLabels_assigned hrest h ht
        refine ⟨hcode, .inr ?_⟩
        rcases hcase with ⟨hn, -⟩ | ⟨pre', d, mid, rfl, hd, hmid⟩
        · cases hn
        · exact ⟨x :: pre', d, mid, rfl, hd, hmid⟩
    · -- `l` keeps its (empty) assignment, and `q` waits on
      cases pre with
      | nil =>
        simp only [List.nil_append, List.cons.injEq] at h
        obtain ⟨rfl, -⟩ := h
        rw [hla] at ht
        cases ht
      | cons x pre =>
        simp only [List.cons_append, List.cons.injEq] at h
        obtain ⟨rfl, h⟩ := h
        obtain ⟨hcode, hcase⟩ := assignLabels_assigned hrest h ht
        refine ⟨hcode, ?_⟩
        rcases hcase with ⟨rfl, hpre⟩ | ⟨pre', d, mid, rfl, hd, hmid⟩
        · -- `l` has no code, else it would have taken the waiting label
          have hx : l.code = none := by
            simpa using hc
          rcases hq' with rfl | ⟨rfl, hlab⟩
          · exact .inl ⟨rfl, fun y hy => by
              rcases List.mem_cons.mp hy with rfl | hy
              · exact hx
              · exact hpre y hy⟩
          · exact .inr ⟨[], l, pre, rfl, hlab.symm, hpre⟩
        · exact .inr ⟨l :: pre', d, mid, rfl, hd, hmid⟩

/-! ## The label map -/

theorem Line.length_code_getD (l : Line) : (l.code.map List.length).getD 0 = l.bytes.length := by
  cases hc : l.code <;> simp [Line.bytes, hc]

/-- Each entry of the map is an entry it started with, or a label given to
a line together with the bits of the number of bytes before that line. -/
theorem mem_labelMap {L v : String} :
    ∀ {next : Nat} {acc m : List (String × String)} {ls : List Line},
      labelMap next acc ls = .ok m → (L, v) ∈ m →
      (L, v) ∈ acc ∨ ∃ pre t post, ls = pre ++ t :: post ∧ t.assigned = some L ∧
        Word.toBits ((next + (programBytes pre).length : Nat) : Int) 8 = .ok v
  | _, acc, m, [], h, hm => by
    rw [labelMap, Except.ok.injEq] at h
    exact .inl (h ▸ hm)
  | next, acc, m, l :: rest, h, hm => by
    -- an entry after line `l` comes from the lines after it
    have shift : ∀ acc', labelMap (next + l.bytes.length) acc' rest = .ok m →
        (L, v) ∈ acc' ∨ ∃ pre t post, l :: rest = pre ++ t :: post ∧ t.assigned = some L ∧
          Word.toBits ((next + (programBytes pre).length : Nat) : Int) 8 = .ok v := by
      intro acc' h'
      rcases mem_labelMap h' hm with hm | ⟨pre, t, post, rfl, ht, hv⟩
      · exact .inl hm
      · exact .inr ⟨l :: pre, t, post, rfl, ht, by simpa [Nat.add_assoc] using hv⟩
    rw [labelMap] at h
    split at h
    · -- line `l` was given label `lab`: its entry holds the bits of `next`
      next lab hl =>
      obtain ⟨bits, hbits, h⟩ := bind_eq_ok.mp h
      obtain ⟨acc', hacc', h⟩ := bind_eq_ok.mp h
      rw [← pure_eq_ok.mp hacc', Line.length_code_getD] at h
      rcases shift _ h with hm | hrest
      · rcases List.mem_cons.mp hm with heq | hm
        · obtain ⟨rfl, rfl⟩ := Prod.mk.inj heq
          exact .inr ⟨[], l, rest, rfl, hl, by simpa using hbits⟩
        · exact .inl hm
      · exact .inr hrest
    · obtain ⟨acc', hacc', h⟩ := bind_eq_ok.mp h
      rw [← pure_eq_ok.mp hacc', Line.length_code_getD] at h
      exact shift _ h

/-! ## Every label holds the number of the byte it names -/

/-- A label that is defined once is defined on no other line. -/
theorem label_ne_of_nodup {pre post : List Line} {d : Line} {L : String}
    (hnd : ((pre ++ d :: post).filterMap Line.label).Nodup) (hd : d.label = some L) :
    ∀ l ∈ pre ++ post, l.label ≠ some L := by
  simp only [List.filterMap_append, List.filterMap_cons, hd] at hnd
  rw [List.nodup_middle, List.nodup_cons, ← List.filterMap_append] at hnd
  intro l hl hlL
  exact hnd.1 (List.mem_filterMap.mpr ⟨l, hl, hlL⟩)

/-- The bytes of a numbered program stand at the positions their numbers say. -/
theorem index_of_split {ls pre post : List Line} {t : Line} {b₀ : CodeByte} {rest : List CodeByte}
    (hidx : (programBytes ls).map CodeByte.index =
      (List.range (programBytes ls).length).map (fun k : Nat => (k : Int)))
    (hls : ls = pre ++ t :: post) (ht : t.code = some (b₀ :: rest)) :
    b₀.index = (programBytes pre).length := by
  have hpos : (programBytes ls)[(programBytes pre).length]? = some b₀ := by
    simp [hls, Line.bytes, ht]
  have := congrArg (·[(programBytes pre).length]?) hidx
  simp only [List.getElem?_map, hpos, Option.map_some] at this
  rw [List.getElem?_range (by simpa using (List.getElem?_eq_some_iff.mp hpos).1)] at this
  simpa using this

/-- Each entry holds, in eight binary digits, the
number of the first byte of the first line with code after a line that defines the label;
that byte is an instruction byte. -/
theorem labelMap_entry {ls : List Line} {labels : List (String × String)} {L s : String}
    (hparsed : ∀ l ∈ ls, l.Parsed ∧ l.assigned = none) (hsize : (programBytes ls).length ≤ 255)
    (hlab : labelMap 0 [] (assignLabels none (numberBytes 0 ls)) = .ok labels)
    (hmem : (L, s) ∈ labels) :
    ∃ pre d mid t post b₀ rest, assignLabels none (numberBytes 0 ls) = pre ++ d :: mid ++ t :: post ∧
      d.label = some L ∧ (∀ l ∈ mid, l.code = none) ∧ t.code = some (b₀ :: rest) ∧
      b₀.role = .instruction ∧ s = Word.binary b₀.index 8 := by
  -- the entry was made for a line `t` given the label, with the count of the bytes before it
  rcases mem_labelMap hlab hmem with hm | ⟨P, t, post, hPQ, ht, hv⟩
  · cases hm
  obtain ⟨hcode, hcase⟩ := assignLabels_assigned (numberBytes_parsed hparsed) hPQ ht
  rcases hcase with ⟨hn, -⟩ | ⟨pre, d, mid, rfl, hd, hmid⟩
  · cases hn
  obtain ⟨bs, hbs⟩ := Option.isSome_iff_exists.mp hcode
  obtain ⟨b₀, rest, rfl, hb₀⟩ := (parsed_labelled hparsed t (by rw [hPQ]; simp)).code_head bs hbs
  refine ⟨pre, d, mid, t, post, b₀, rest, hPQ, hd, hmid, hbs, hb₀, ?_⟩
  -- the count is below 255, so its bits are its plain binary digits
  have hlt : (programBytes (pre ++ d :: mid)).length < (programBytes ls).length := by
    rw [← length_programBytes_labelled ls, hPQ]
    simp [Line.bytes, hbs]
  rw [Nat.zero_add, Word.toBits_of_byte (by omega) (by omega), Except.ok.injEq] at hv
  rw [← hv, index_of_split (index_labelled ls) hPQ hbs]

/-- After a successful assembly the bytes are numbered `0, 1, …, n - 1`
in order, with `n ≤ 255`; and every byte holding a label `L` holds, in eight binary digits,
the number of the first byte of the first line with code after the one line that defines
`L`. That first byte is an instruction byte. -/
theorem assembleLines_labels {lines : List String} {offset : Int} {out : List Line}
    (h : assembleLines lines offset = .ok out) :
    (programBytes out).map CodeByte.index =
        (List.range (programBytes out).length).map (fun k : Nat => (k : Int)) ∧
      (programBytes out).length ≤ 255 ∧
      ∀ b ∈ programBytes out, b.holds .label = true →
        ∃ pre d mid t post b₀ rest, out = pre ++ d :: mid ++ t :: post ∧
          d.label = some b.constant ∧ (∀ l ∈ pre ++ mid ++ t :: post, l.label ≠ some b.constant) ∧
          (∀ l ∈ mid, l.code = none) ∧ t.code = some (b₀ :: rest) ∧
          b₀.role = .instruction ∧ b.bits = Word.binary b₀.index 8 := by
  obtain ⟨ls, hread, hcheck, labels, hlab, ls₁, h₁, ls₂, h₂, vars, -, hout⟩ :=
    assembleLines_eq_ok h
  obtain ⟨hdefs, -, -, -, -, hsize⟩ := checkStructure_eq_ok hcheck
  have hparsed := readLines_parsed hread
  have hsize := length_le_of_checkProgramSize hsize
  -- the resolving passes only set the bits of bytes, through one map `G` of the bytes
  obtain ⟨rfl, hfound⟩ := resolve_eq_ok h₁
  obtain ⟨rfl, -⟩ := resolve_eq_ok h₂
  obtain ⟨rfl, -⟩ := resolve_eq_ok hout
  simp only [List.map_map] at *
  set G := CodeByte.settle .variable (fun b => find vars b.constant) ∘
    CodeByte.settle .number (fun b => Word.toBits b.value 8) ∘
    CodeByte.settle .label (fun b => find labels b.constant) with hG
  have hmap : (Line.mapBytes (CodeByte.settle .variable fun b => find vars b.constant) ∘
      Line.mapBytes (CodeByte.settle .number fun b => Word.toBits b.value 8) ∘
      Line.mapBytes (CodeByte.settle .label fun b => find labels b.constant)) = Line.mapBytes G := by
    funext l
    simp only [Function.comp_apply, Line.mapBytes_comp, hG]
  rw [hmap]
  have hGidx : ∀ b, (G b).index = b.index := fun b => by simp [hG]
  refine ⟨?_, ?_, ?_⟩
  · simpa [List.map_map, Function.comp_def, hGidx] using index_labelled ls
  · simpa [length_programBytes_labelled] using hsize
  intro b hb hbl
  rw [programBytes_map_mapBytes] at hb
  obtain ⟨b', hb', rfl⟩ := List.mem_map.mp hb
  have hbl' : b'.holds .label = true := by simpa [hG] using hbl
  -- the label map holds bits `s` for the label, and the byte gets them
  obtain ⟨s, hs⟩ := hfound b' hb' hbl'
  have hGb : G b' = { b' with bits := s } := by
    have hset : b'.settle .label (fun b => find labels b.constant) = { b' with bits := s } :=
      CodeByte.settle_of_ok hbl' hs
    have hnum : ({ b' with bits := s } : CodeByte).holds .number = false :=
      CodeByte.holds_of_holds hbl' (by decide)
    have hvar : ({ b' with bits := s } : CodeByte).holds .variable = false :=
      CodeByte.holds_of_holds hbl' (by decide)
    simp only [hG, Function.comp_apply, hset, CodeByte.settle_of_not_holds hnum,
      CodeByte.settle_of_not_holds hvar]
  obtain ⟨pre, d, mid, t, post, b₀, rest, hls', hd, hmid, hbs, hb₀, rfl⟩ :=
    labelMap_entry hparsed hsize hlab (mem_of_find_eq_ok hs)
  -- the labels of the assembled program are those read, each defined once
  have hnd := (checkLabelDefs_eq_ok hdefs).1
  rw [← labels_labelled, hls'] at hnd
  have hnd' : ((pre ++ d :: (mid ++ t :: post)).filterMap Line.label).Nodup := by
    simpa using hnd
  rw [hls']
  refine ⟨pre.map (Line.mapBytes G), d.mapBytes G, mid.map (Line.mapBytes G), t.mapBytes G,
    post.map (Line.mapBytes G), G b₀, rest.map G, by simp, by simpa [hG] using hd,
    ?_, ?_, by simp [hbs], by simp [hG, hb₀], by rw [hGb, hGidx]⟩
  · simpa [hG, or_imp, forall_and] using label_ne_of_nodup hnd' hd
  · intro l hl
    obtain ⟨l₀, hl₀, rfl⟩ := List.mem_map.mp hl
    simp [hmid l₀ hl₀]

/-- A loop that jumps back to a label: the assembly succeeds, and label resolution applies. -/
theorem assembleLines_labels_loop :
    ∃ out, assembleLines ["@start", "SET A #3", "@loop", "ADD A", "JUMP @loop"] 0 = .ok out ∧
      (programBytes out).map CodeByte.index =
          (List.range (programBytes out).length).map (fun k : Nat => (k : Int)) ∧
        (programBytes out).length ≤ 255 ∧
        ∀ b ∈ programBytes out, b.holds .label = true →
          ∃ pre d mid t post b₀ rest, out = pre ++ d :: mid ++ t :: post ∧
            d.label = some b.constant ∧
            (∀ l ∈ pre ++ mid ++ t :: post, l.label ≠ some b.constant) ∧
            (∀ l ∈ mid, l.code = none) ∧ t.code = some (b₀ :: rest) ∧
            b₀.role = .instruction ∧ b.bits = Word.binary b₀.index 8 := by
  obtain ⟨out, h⟩ : ∃ out,
      assembleLines ["@start", "SET A #3", "@loop", "ADD A", "JUMP @loop"] 0 = .ok out :=
    ⟨_, rfl⟩
  exact ⟨out, h, assembleLines_labels h⟩

end ByteMachine.Assembly
