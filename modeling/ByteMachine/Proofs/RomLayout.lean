import ByteMachine.Proofs.Decoding
/- The layout of a full memory. Collapsing the pattern of `n` open positions
   lists the strings of `n` bits, each once and in increasing order, so sorting
   the memory by address leaves it as it is. Filling these addresses from
   templates that cover no address twice gives each address the data of the
   template that covers it, and the default where none does (`Listing`).

   Expanding a pattern takes one nested call per open position, so from
   `expansionLimit` open positions on the memory is never built: the
   construction stops with a recursion fault (`romOver_lists_addresses`). The
   language's templates span the fifteen positions of an address, and its
   memory is their listing over the fifteen-bit addresses, with every control
   line low where no template applies. -/
namespace ByteMachine

open Machine Microcode

namespace Bitdef

/-! ## Collapsing in order -/

theorem pairwise_lt_completions : ∀ cs : List Cell, (completions cs).Pairwise (· < ·)
  | [] => List.pairwise_singleton _ _
  | .wild :: r => by
    have hr := pairwise_lt_completions r
    have hcons : ∀ c : Char, ((completions r).map (c :: ·)).Pairwise (· < ·) := fun c =>
      List.pairwise_map.mpr (hr.imp List.cons_lt_cons_self.mpr)
    simp only [completions]
    refine List.pairwise_append.mpr ⟨hcons '0', hcons '1', ?_⟩
    -- the first half starts with '0', the second with '1'
    simp only [List.mem_map]
    rintro _ ⟨u, -, rfl⟩ _ ⟨v, -, rfl⟩
    exact List.cons_lt_cons_iff.mpr (.inl (by decide))
  | .fixed c :: r => by
    simp only [completions]
    exact List.pairwise_map.mpr ((pairwise_lt_completions r).imp List.cons_lt_cons_self.mpr)

/-- A pattern collapses to its strings in increasing order. -/
theorem pairwise_lt_collapse (b : Bitdef) : b.collapse.Pairwise (· < ·) := by
  rw [collapse, List.pairwise_map]
  refine (pairwise_lt_completions b.cells).imp fun {u v} h => ?_
  show (String.ofList u).toList < (String.ofList v).toList
  rwa [String.toList_ofList, String.toList_ofList]

theorem mem_collapse_dots {n : Nat} {a : String} : a ∈ (dots n).collapse ↔ IsBits a n := by
  have hbin : (dots n).isBinary = true := by simp [isBinary, dots, Cell.isBinary]
  have hopen : ∀ i c, ¬ (dots n).Fixes i c := by simp [Fixes, dots, List.getElem?_replicate]
  have hlen : (dots n).length = n := by simp [length, dots]
  rw [mem_collapse, admits_iff hbin, IsBits, String.length_toList, hlen]
  simp [hopen]

theorem length_collapse_dots (n : Nat) : (dots n).collapse.length = Nat.pow 2 n := by
  rw [collapse, List.length_map, length_completions, dots, List.filter_replicate]
  simp [Cell.isFixed]

/-! ## Expanding -/

@[simp] theorem count_wild_dots (n : Nat) : (dots n).cells.count .wild = n :=
  List.count_replicate_self

theorem expand_of_lt {b : Bitdef} (h : b.cells.count .wild < expansionLimit) :
    b.expand = .ok b.collapse := by
  rw [expand, if_neg (Nat.not_le.mpr h)]

theorem expand_of_le {b : Bitdef} (h : expansionLimit ≤ b.cells.count .wild) :
    b.expand = .error .recursionLimit := by
  rw [expand, if_pos h]

theorem length_merge {bs : List Bitdef} {m : Bitdef} (h : merge bs = .ok m) {b : Bitdef}
    (hb : b ∈ bs) : m.length = b.length := by
  obtain ⟨b₀, -, hall, hm, -⟩ := fixes_merge h
  rw [hm, hall b hb]

end Bitdef

namespace Microcode

/-! ## Filling the addresses -/

theorem mem_collapseTemplates {ts : List Template} {t : Template} (ht : t ∈ ts) {a : String}
    (ha : a ∈ t.range.collapse) : (⟨a, t.data⟩ : RomEntry) ∈ collapseTemplates ts := by
  simp only [collapseTemplates, List.mem_flatMap, List.mem_map]
  exact ⟨t, ht, a, ha, rfl⟩

@[simp] theorem map_address_collapseTemplates (ts : List Template) :
    (collapseTemplates ts).map RomEntry.address = ts.flatMap fun t => t.range.collapse := by
  simp [collapseTemplates, List.map_flatMap, Function.comp_def]

@[simp] theorem map_address_populate (es : List RomEntry) (A : List String) (d : String) :
    (populate es A d).map RomEntry.address = A := by
  simp [populate, List.map_map, Function.comp_def]

theorem populate_covered {ts : List Template}
    (hnd : (ts.flatMap fun t => t.range.collapse).Nodup) {A : List String} {d : String}
    {e : RomEntry} (he : e ∈ populate (collapseTemplates ts) A d) {t : Template} (ht : t ∈ ts)
    (ha : e.address ∈ t.range.collapse) : e.data = t.data := by
  rw [← map_address_collapseTemplates] at hnd
  simp only [populate, List.mem_map] at he
  obtain ⟨a, -, rfl⟩ := he
  exact getD_foldl_insert d {} hnd _ (mem_collapseTemplates ht ha)

theorem populate_uncovered {ts : List Template} {A : List String} {d : String} {e : RomEntry}
    (he : e ∈ populate (collapseTemplates ts) A d)
    (hnone : ∀ t ∈ ts, e.address ∉ t.range.collapse) : e.data = d := by
  simp only [populate, List.mem_map] at he
  obtain ⟨a, -, rfl⟩ := he
  -- no entry of a template names the address, so the table keeps no data for it
  have hfree : ∀ e' ∈ collapseTemplates ts, e'.address ≠ a := by
    intro e' he' heq
    simp only [collapseTemplates, List.mem_flatMap, List.mem_map] at he'
    obtain ⟨t, ht, a', ha', rfl⟩ := he'
    have : a' = a := heq
    subst this
    exact hnone t ht ha'
  exact (getD_foldl_insert_of_not_mem a d _ {} hfree).trans Std.HashMap.getD_empty

/-- Sorting by address leaves entries whose addresses strictly increase as they are. -/
theorem mergeSort_eq_self_of_increasing {es : List RomEntry}
    (h : (es.map RomEntry.address).Pairwise (· < ·)) :
    es.mergeSort (fun a b => decide (a.address ≤ b.address)) = es := by
  have hnd : (es.map RomEntry.address).Nodup := h.nodup
  have hle : es.Pairwise fun a b => decide (a.address ≤ b.address) = true :=
    (List.pairwise_map.mp h).imp fun hab => decide_eq_true (String.not_lt.mp (String.lt_asymm hab))
  have hperm := List.mergeSort_perm es fun a b => decide (a.address ≤ b.address)
  refine hperm.eq_of_pairwise ?_ (List.pairwise_mergeSort ?_ ?_ es) hle
  · -- two entries in either order share their address, and addresses are not repeated
    intro a b ha hb hab hba
    exact List.inj_on_of_nodup_map hnd (hperm.subset ha) hb
      (String.le_antisymm (of_decide_eq_true hab) (of_decide_eq_true hba))
  · intro a b c hab hbc
    exact decide_eq_true (String.le_trans (of_decide_eq_true hab) (of_decide_eq_true hbc))
  · intro a b
    rw [Bool.or_eq_true, decide_eq_true_iff, decide_eq_true_iff]
    exact String.le_total _ _

/-! ## The listing -/

/-- The memory that the templates `ts` fill over the addresses of `n` bits, with `d` where no
template covers an address: the templates are expanded first, then the addresses. -/
def romOver (ts : List Template) (n : Nat) (d : String) : Except Fault (List RomEntry) := do
  let entries ← expandTemplates ts
  let addresses ← (Bitdef.dots n).expand
  pure (populate entries addresses d)

/-- The memory `rom` lists the addresses of `n` bits, each with the data of the template of
`ts` that covers it and with `d` where none does. -/
structure Listing (ts : List Template) (n : Nat) (d : String) (rom : List RomEntry) : Prop where
  addresses : ∀ a, a ∈ rom.map RomEntry.address ↔ IsBits a n
  increasing : (rom.map RomEntry.address).Pairwise (· < ·)
  length : rom.length = Nat.pow 2 n
  covered : ∀ e ∈ rom, ∀ t ∈ ts, e.address ∈ t.range.collapse → e.data = t.data
  uncovered : ∀ e ∈ rom, (∀ t ∈ ts, e.address ∉ t.range.collapse) → e.data = d

/-- Sorting a listing by address leaves it as it is. -/
theorem Listing.mergeSort_eq {ts : List Template} {n : Nat} {d : String} {rom : List RomEntry}
    (h : Listing ts n d rom) : rom.mergeSort (fun a b => decide (a.address ≤ b.address)) = rom :=
  mergeSort_eq_self_of_increasing h.increasing

/-- Filling the addresses of `n` bits from templates that cover no address twice lists them. -/
theorem listing_populate {ts : List Template} (hnd : (ts.flatMap fun t => t.range.collapse).Nodup)
    (n : Nat) (d : String) :
    Listing ts n d (populate (collapseTemplates ts) (Bitdef.dots n).collapse d) where
  addresses a := by
    rw [map_address_populate]
    exact Bitdef.mem_collapse_dots
  increasing := by
    rw [map_address_populate]
    exact Bitdef.pairwise_lt_collapse _
  length := by
    rw [← List.length_map RomEntry.address, map_address_populate, Bitdef.length_collapse_dots]
  covered _ he _ ht ha := populate_covered hnd he ht ha
  uncovered _ he hnone := populate_uncovered he hnone

theorem expandTemplates_of_lt {ts : List Template}
    (h : ∀ t ∈ ts, t.range.cells.count .wild < Bitdef.expansionLimit) :
    expandTemplates ts = .ok (collapseTemplates ts) := by
  rw [expandTemplates, if_neg]
  simp only [List.any_eq_true, decide_eq_true_eq, not_exists, not_and, Nat.not_le]
  exact h

theorem expandTemplates_error {ts : List Template} {f : Fault} (h : expandTemplates ts = .error f) :
    f = .recursionLimit := by
  unfold expandTemplates at h
  split at h
  · cases h
    rfl
  · cases h

theorem romOver_of_lt {ts : List Template} {n : Nat} {d : String}
    (hlen : ∀ t ∈ ts, t.range.length = n) (hn : n < Bitdef.expansionLimit) :
    romOver ts n d = .ok (populate (collapseTemplates ts) (Bitdef.dots n).collapse d) := by
  have hts : expandTemplates ts = .ok (collapseTemplates ts) := by
    refine expandTemplates_of_lt fun t ht => ?_
    -- a range has no more open positions than positions
    calc t.range.cells.count .wild ≤ t.range.length := List.count_le_length
      _ = n := hlen t ht
      _ < Bitdef.expansionLimit := hn
  have hdots : (Bitdef.dots n).expand = .ok (Bitdef.dots n).collapse :=
    Bitdef.expand_of_lt (by rw [Bitdef.count_wild_dots]; exact hn)
  rw [romOver, hts, hdots]
  rfl

theorem romOver_of_le {ts : List Template} {n : Nat} {d : String}
    (hn : Bitdef.expansionLimit ≤ n) : romOver ts n d = .error .recursionLimit := by
  have hdots : (Bitdef.dots n).expand = .error .recursionLimit :=
    Bitdef.expand_of_le (by rw [Bitdef.count_wild_dots]; exact hn)
  cases hts : expandTemplates ts with
  | error f =>
    rw [romOver, hts, expandTemplates_error hts]
    rfl
  | ok es =>
    rw [romOver, hts, hdots]
    rfl

end Microcode

/-! ## The memory of the language -/

/-- Every template of the language spans the fifteen positions of an address. -/
theorem length_range_languageTemplates {lts : List Template} (h : languageTemplates = .ok lts) :
    ∀ t ∈ lts, t.range.length = 15 := by
  obtain ⟨tss, fs, htss, hfs, rfl⟩ := languageTemplates_eq_ok h
  obtain ⟨f₀, f₁, hfetch, h₀, h₁⟩ := fetch_ranges
  rw [hfetch, Except.ok.injEq] at hfs
  subst hfs
  intro t ht
  rcases List.mem_append.mp ht with ht | ht
  · -- a form's template lies on one of its steps from 2 on
    obtain ⟨ts, hts, ht⟩ := List.mem_flatten.mp ht
    obtain ⟨φ, -, hφ⟩ := exists_of_mem_mapM_eq_ok htss ts hts
    obtain ⟨j, hj⟩ := List.mem_iff_getElem?.mp ht
    obtain ⟨_, s, _, -, -, -, hlen, hsix, hstep⟩ := Form.templates_eq_ok hφ
    obtain ⟨-, -, hrange, -⟩ := hstep j t hj
    have hj6 : j < 6 := by
      have := (List.getElem?_eq_some_iff.mp hj).1
      omega
    rw [Bitdef.length_merge hrange (b := step (j + 2)) (by simp), length_step (by omega)]
  · -- the fetch cycle's templates combine the open address with a step
    simp only [List.mem_cons, List.not_mem_nil, or_false] at ht
    rcases ht with rfl | rfl
    · rw [Bitdef.length_merge h₀ (b := emptyAddress) (by simp)]
      rfl
    · rw [Bitdef.length_merge h₁ (b := emptyAddress) (by simp)]
      rfl

/-- The full memory is the listing of the language's templates over the fifteen-bit addresses,
with the control word of every line low where no template applies. -/
theorem fullRom_listing : ∃ lts rom, languageTemplates = .ok lts ∧
    (∀ t ∈ lts, t.range.length = 15) ∧ fullRom = .ok rom ∧
    romOver lts 15 controlsDefault = .ok rom.toList ∧
    Listing lts 15 controlsDefault rom.toList ∧ rom.size = 32768 := by
  obtain ⟨rom, hrom⟩ := fullRom_ok
  obtain ⟨lts, hlts, -, hsorted⟩ := toList_fullRom hrom
  have hlen := length_range_languageTemplates hlts
  have hl := listing_populate (nodup_addresses hlts) 15 controlsDefault
  -- the sort leaves the listing as it is
  have heq :
      rom.toList = populate (collapseTemplates lts) (Bitdef.dots 15).collapse controlsDefault :=
    hsorted.trans hl.mergeSort_eq
  refine ⟨lts, rom, hlts, hlen, hrom, ?_, heq ▸ hl, ?_⟩
  · rw [heq]
    exact romOver_of_lt hlen (by decide)
  · rw [← Array.length_toList, heq, hl.length]

/-- Templates of `n` positions that cover no address twice fill the
addresses of `n` bits, each listed once and in increasing order, with the data of the template
that covers it or `d`, exactly when `n` is below the expansion limit; from the limit on the
construction stops with a recursion fault. The language's memory is this listing over fifteen
bits, 32768 entries. -/
theorem romOver_lists_addresses (ts : List Template) (n : Nat) (d : String)
    (hlen : ∀ t ∈ ts, t.range.length = n)
    (hdisj : ts.Pairwise fun t u => ∀ a ∈ t.range.collapse, a ∉ u.range.collapse) :
    ((∃ rom, romOver ts n d = .ok rom ∧ Listing ts n d rom ∧
        rom.mergeSort (fun a b => decide (a.address ≤ b.address)) = rom) ↔
      n < Bitdef.expansionLimit) ∧
    (Bitdef.expansionLimit ≤ n → romOver ts n d = .error .recursionLimit) ∧
    ∃ lts rom, languageTemplates = .ok lts ∧ (∀ t ∈ lts, t.range.length = 15) ∧
      fullRom = .ok rom ∧ romOver lts 15 controlsDefault = .ok rom.toList ∧
      Listing lts 15 controlsDefault rom.toList ∧ rom.size = 32768 := by
  have hnd : (ts.flatMap fun t => t.range.collapse).Nodup :=
    List.nodup_flatMap.mpr
      ⟨fun t _ => Bitdef.nodup_collapse _, hdisj.imp fun h a ha hb => h a ha hb⟩
  refine ⟨⟨?_, fun hn => ?_⟩, romOver_of_le, fullRom_listing⟩
  · rintro ⟨rom, hrom, -⟩
    refine Nat.lt_of_not_le fun hn => ?_
    rw [romOver_of_le hn] at hrom
    cases hrom
  · have hl := listing_populate hnd n d
    exact ⟨_, romOver_of_lt hlen hn, hl, hl.mergeSort_eq⟩

/-- Two templates of two positions: "0." covers two addresses and "10" one, and "11" keeps the
default. -/
theorem romOver_lists_two_bit_addresses :
    (∀ t ∈ ([⟨.ofString "0.", "a"⟩, ⟨.ofString "10", "b"⟩] : List Template),
      t.range.length = 2) ∧
    ([⟨.ofString "0.", "a"⟩, ⟨.ofString "10", "b"⟩] : List Template).Pairwise
      (fun t u => ∀ a ∈ t.range.collapse, a ∉ u.range.collapse) ∧
    ∃ rom, romOver [⟨.ofString "0.", "a"⟩, ⟨.ofString "10", "b"⟩] 2 "z" = .ok rom ∧
      Listing [⟨.ofString "0.", "a"⟩, ⟨.ofString "10", "b"⟩] 2 "z" rom := by
  have hlen : ∀ t ∈ ([⟨.ofString "0.", "a"⟩, ⟨.ofString "10", "b"⟩] : List Template),
      t.range.length = 2 := by decide
  have hdisj : ([⟨.ofString "0.", "a"⟩, ⟨.ofString "10", "b"⟩] : List Template).Pairwise
      (fun t u => ∀ a ∈ t.range.collapse, a ∉ u.range.collapse) := by decide
  obtain ⟨rom, hrom, hl, -⟩ := (romOver_lists_addresses _ 2 "z" hlen hdisj).1.mpr (by decide)
  exact ⟨hlen, hdisj, rom, hrom, hl⟩

/-- Addresses of two thousand positions are never listed: expanding them stops with a
recursion fault, whatever the templates. -/
theorem romOver_refuses_wide_addresses :
    (Bitdef.dots 2000).expand = .error .recursionLimit ∧
      romOver [] 2000 controlsDefault = .error .recursionLimit :=
  ⟨Bitdef.expand_of_le (by rw [Bitdef.count_wild_dots]; decide), romOver_of_le (by decide)⟩

end ByteMachine
