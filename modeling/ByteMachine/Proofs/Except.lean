import ByteMachine.Fault
import Mathlib.Data.List.Forall2
/- Taking a successful computation apart. A computation of the library that
   may fail is an `Except` value written with `do`; a success is read back one
   bind at a time, and a `mapM` over a list succeeds exactly when every
   element does, the results standing in the same order. A fact of a table of
   computations is stated with `Returns` and decided by running them. -/
namespace ByteMachine

variable {ε α β : Type}

theorem bind_eq_ok {x : Except ε α} {f : α → Except ε β} {c : β} :
    x >>= f = .ok c ↔ ∃ a, x = .ok a ∧ f a = .ok c := by
  cases x <;> simp [bind, Except.bind]

theorem bind_eq_error {x : Except ε α} {f : α → Except ε β} {e : ε} :
    x >>= f = .error e ↔ x = .error e ∨ ∃ a, x = .ok a ∧ f a = .error e := by
  cases x <;> simp [bind, Except.bind]

theorem pure_eq_ok {a c : α} : (pure a : Except ε α) = .ok c ↔ a = c := by
  simp [pure, Except.pure]

theorem throw_ne_ok {e : ε} {c : α} : (throw e : Except ε α) ≠ .ok c := by
  simp [throw, throwThe, MonadExceptOf.throw]

theorem mapM_eq_ok {f : α → Except ε β} :
    ∀ {xs : List α} {ys : List β}, xs.mapM f = .ok ys ↔ List.Forall₂ (fun x y => f x = .ok y) xs ys
  | [], ys => by
    cases ys with
    | nil => simp [pure, Except.pure]
    | cons y ys => simp only [List.mapM_nil, pure_eq_ok]; exact ⟨nofun, nofun⟩
  | x :: xs, ys => by
    rw [List.mapM_cons, bind_eq_ok]
    constructor
    · rintro ⟨y, hy, hrest⟩
      obtain ⟨ys', hys, hys'⟩ := bind_eq_ok.mp hrest
      rw [pure_eq_ok] at hys'
      subst hys'
      exact .cons hy (mapM_eq_ok.mp hys)
    · intro h
      cases h with
      | cons hy hrest => exact ⟨_, hy, bind_eq_ok.mpr ⟨_, mapM_eq_ok.mpr hrest, rfl⟩⟩

/-- A `mapM` whose every success is the value of `g` maps by `g`. -/
theorem eq_map_of_mapM_eq_ok {f : α → Except ε β} {g : α → β} (hg : ∀ x y, f x = .ok y → y = g x)
    {xs : List α} {ys : List β} (h : xs.mapM f = .ok ys) : ys = xs.map g := by
  have hall := mapM_eq_ok.mp h
  clear h
  induction hall with
  | nil => rfl
  | cons hxy _ ih => rw [List.map_cons, hg _ _ hxy, ih]

/-- A `mapM` that succeeds succeeds on every element. -/
theorem ok_of_mapM_eq_ok {f : α → Except ε β} {xs : List α} {ys : List β}
    (h : xs.mapM f = .ok ys) : ∀ x ∈ xs, ∃ y, f x = .ok y := by
  have hall := mapM_eq_ok.mp h
  clear h
  induction hall with
  | nil => simp
  | cons hxy _ ih =>
    intro x hx
    rcases List.mem_cons.mp hx with rfl | hx
    · exact ⟨_, hxy⟩
    · exact ih x hx

/-- Each result of a successful `mapM` is the result of an element. -/
theorem exists_of_mem_mapM_eq_ok {f : α → Except ε β} {xs : List α} {ys : List β}
    (h : xs.mapM f = .ok ys) : ∀ y ∈ ys, ∃ x ∈ xs, f x = .ok y := by
  have hall := mapM_eq_ok.mp h
  clear h
  induction hall with
  | nil => simp
  | cons hxy _ ih =>
    intro y hy
    rcases List.mem_cons.mp hy with rfl | hy
    · exact ⟨_, List.mem_cons_self, hxy⟩
    · obtain ⟨x, hx, hfx⟩ := ih y hy
      exact ⟨x, List.mem_cons_of_mem _ hx, hfx⟩

theorem mapError_eq_ok {ε' : Type} {g : ε → ε'} {x : Except ε α} {a : α} :
    x.mapError g = .ok a ↔ x = .ok a := by
  cases x <;> simp [Except.mapError]

/-- Mapping over a list of groups and flattening the results runs the elements group by group. -/
theorem flatten_mapM_flatMap {γ : Type} (f : β → Except ε (List γ)) (g : α → List β) :
    ∀ l : List α, List.flatten <$> (l.flatMap g).mapM f =
      List.flatten <$> l.mapM (fun a => List.flatten <$> (g a).mapM f)
  | [] => rfl
  | a :: l => by
    -- the tail's results enter only through their flattening
    have ih : ∀ {δ : Type} (k : List γ → Except ε δ),
        ((l.flatMap g).mapM f >>= fun ys => k ys.flatten) =
          (l.mapM (fun a => List.flatten <$> (g a).mapM f) >>= fun ys => k ys.flatten) := by
      intro δ k
      rw [← bind_map_left, flatten_mapM_flatMap f g l, bind_map_left]
    simp only [List.flatMap_cons, List.mapM_append, List.mapM_cons, map_bind, bind_map_left,
      map_pure, List.flatten_append, List.flatten_cons]
    refine congrArg ((g a).mapM f >>= ·) (funext fun x => ?_)
    exact ih fun ys => pure (x.flatten ++ ys)

/-- The result of an element is among the results of a successful `mapM`. -/
theorem mem_of_mapM_eq_ok {f : α → Except ε β} {xs : List α} {ys : List β}
    (h : xs.mapM f = .ok ys) {x : α} (hx : x ∈ xs) {y : β} (hy : f x = .ok y) : y ∈ ys := by
  have hall := mapM_eq_ok.mp h
  clear h
  induction hall with
  | nil => simp at hx
  | cons hxy _ ih =>
    rcases List.mem_cons.mp hx with rfl | hx
    · rw [hxy, Except.ok.injEq] at hy
      subst hy
      exact List.mem_cons_self
    · exact List.mem_cons_of_mem _ (ih hx)

/-- A `mapM` succeeds when every element does. -/
theorem exists_mapM_eq_ok {f : α → Except ε β} :
    ∀ {xs : List α}, (∀ x ∈ xs, ∃ y, f x = .ok y) → ∃ ys, xs.mapM f = .ok ys
  | [], _ => ⟨[], rfl⟩
  | x :: xs, h => by
    obtain ⟨y, hy⟩ := h x List.mem_cons_self
    obtain ⟨ys, hys⟩ := exists_mapM_eq_ok fun x' hx' => h x' (List.mem_cons_of_mem _ hx')
    exact ⟨y :: ys, mapM_eq_ok.mpr (.cons hy (mapM_eq_ok.mp hys))⟩

/-- A `mapM` whose every element succeeds with the value of `g` maps by `g`. -/
theorem mapM_eq_ok_map {f : α → Except ε β} {g : α → β} :
    ∀ {xs : List α}, (∀ x ∈ xs, f x = .ok (g x)) → xs.mapM f = .ok (xs.map g)
  | [], _ => rfl
  | x :: xs, h => by
    rw [List.mapM_cons, h x List.mem_cons_self,
      mapM_eq_ok_map fun y hy => h y (List.mem_cons_of_mem _ hy)]
    rfl

/-- The results of a successful `mapM` are pairwise related where their elements are. -/
theorem pairwise_of_mapM_eq_ok {f : α → Except ε β} {xs : List α} {ys : List β}
    (h : xs.mapM f = .ok ys) {P : α → α → Prop} {Q : β → β → Prop} (hp : xs.Pairwise P)
    (hq : ∀ a b x y, f a = .ok x → f b = .ok y → P a b → Q x y) : ys.Pairwise Q := by
  have hall := mapM_eq_ok.mp h
  clear h
  induction hall with
  | nil => exact .nil
  | cons hxy hrest ih =>
    rw [List.pairwise_cons] at hp ⊢
    refine ⟨fun y' hy' => ?_, ih hp.2⟩
    obtain ⟨x', hx', hfx'⟩ := exists_of_mem_mapM_eq_ok (mapM_eq_ok.mpr hrest) y' hy'
    exact hq _ _ _ _ hxy hfx' (hp.1 x' hx')

/-- A `mapM` fails with the fault of one element. -/
theorem mapM_eq_error {f : α → Except ε β} {e : ε} :
    ∀ {xs : List α}, xs.mapM f = .error e → ∃ x ∈ xs, f x = .error e
  | [], h => by simp [pure, Except.pure] at h
  | x :: xs, h => by
    rw [List.mapM_cons] at h
    cases hx : f x with
    | error e' =>
      rw [hx] at h
      cases h
      exact ⟨x, List.mem_cons_self, hx⟩
    | ok y =>
      rw [hx] at h
      cases hys : xs.mapM f with
      | error e' =>
        rw [hys] at h
        cases h
        obtain ⟨z, hz, hfz⟩ := mapM_eq_error hys
        exact ⟨z, List.mem_cons_of_mem x hz, hfz⟩
      | ok ys =>
        rw [hys] at h
        cases h

/-- A check run over a list passes exactly when it passes on every element. -/
theorem forM_eq_ok {f : α → Except ε Unit} :
    ∀ {xs : List α}, xs.forM f = .ok () ↔ ∀ x ∈ xs, f x = .ok ()
  | [] => by simp [pure, Except.pure]
  | x :: xs => by
    show (f x >>= fun _ => xs.forM f) = _ ↔ _
    rw [bind_eq_ok, List.forall_mem_cons, ← forM_eq_ok]
    exact ⟨fun ⟨⟨⟩, hx, hs⟩ => ⟨hx, hs⟩, fun ⟨hx, hs⟩ => ⟨(), hx, hs⟩⟩

/-- A check run over a list fails with the fault of one element. -/
theorem forM_eq_error {f : α → Except ε Unit} {e : ε} :
    ∀ {xs : List α}, xs.forM f = .error e → ∃ x ∈ xs, f x = .error e
  | [], h => by simp [pure, Except.pure] at h
  | x :: xs, h => by
    change (f x >>= fun _ => xs.forM f) = _ at h
    cases hx : f x with
    | error e' =>
      rw [hx] at h
      cases h
      exact ⟨x, List.mem_cons_self, hx⟩
    | ok u =>
      rw [hx] at h
      obtain ⟨y, hy, hfy⟩ := forM_eq_error h
      exact ⟨y, List.mem_cons_of_mem x hy, hfy⟩

/-- The computation succeeds with a value that satisfies `P`. Facts of a finite table of
computations are stated with it and decided by running them. -/
def Returns (x : Except ε α) (P : α → Prop) : Prop := ∃ a, x = .ok a ∧ P a

instance (x : Except ε α) (P : α → Prop) [DecidablePred P] : Decidable (Returns x P) :=
  match x with
  | .ok a => decidable_of_iff (P a) ⟨fun h => ⟨a, rfl, h⟩, fun ⟨_, hb, h⟩ => by cases hb; exact h⟩
  | .error _ => isFalse (by rintro ⟨_, h, _⟩; cases h)

end ByteMachine
