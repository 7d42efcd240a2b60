import Mathlib.Data.List.Forall2
/-!
Results that are no failure, taken apart along the way in which they came about, searches for a
first result, and optional results of two computations that are related step by step.
-/

namespace WorkflowDispatch

variable {ε α β γ δ : Type}

theorem exists_of_bind_ok {a : Except ε α} {k : α → Except ε β} {y : β}
    (h : a >>= k = .ok y) : ∃ x, a = .ok x ∧ k x = .ok y := by
  cases a with
  | error e => simp [bind, Except.bind] at h
  | ok x => exact ⟨x, rfl, h⟩

theorem error_of_bind {a : Except ε α} {k : α → Except ε β} {e : ε} (h : a >>= k = .error e) :
    a = .error e ∨ ∃ x, a = .ok x ∧ k x = .error e := by
  cases a with
  | error f => exact .inl (congrArg Except.error (Except.error.inj h))
  | ok x => exact .inr ⟨x, rfl, h⟩

theorem exists_of_map_ok {a : Except ε α} {f : α → β} {y : β} (h : a.map f = .ok y) :
    ∃ x, a = .ok x ∧ f x = y := by
  cases a with
  | error e => simp [Except.map] at h
  | ok x => exact ⟨x, rfl, Except.ok.inj h⟩

theorem error_of_map {a : Except ε α} {f : α → β} {e : ε} (h : a.map f = .error e) :
    a = .error e := by
  cases a with
  | error f => exact congrArg Except.error (Except.error.inj h)
  | ok x => cases h

theorem ok_of_mapError_ok {ε' : Type} {a : Except ε α} {f : ε → ε'} {x : α}
    (h : a.mapError f = .ok x) : a = .ok x := by
  cases a with
  | error e => cases h
  | ok y => exact congrArg Except.ok (Except.ok.inj h)

theorem exists_of_mapError_error {ε' : Type} {a : Except ε α} {f : ε → ε'} {e : ε'}
    (h : a.mapError f = .error e) : ∃ e', a = .error e' ∧ f e' = e := by
  cases a with
  | error e' => exact ⟨e', rfl, Except.error.inj h⟩
  | ok x => cases h

theorem findSome?_congr {f g : α → Option β} {xs : List α} (h : ∀ x ∈ xs, f x = g x) :
    xs.findSome? f = xs.findSome? g := by
  induction xs with
  | nil => rfl
  | cons x xs ih =>
    rw [List.findSome?_cons, List.findSome?_cons, h x List.mem_cons_self,
      ih fun y hy => h y (List.mem_cons_of_mem _ hy)]

theorem findSome?_cons (f : α → Option β) (x : α) (xs : List α) :
    (x :: xs).findSome? f = (f x).or (xs.findSome? f) := by
  rw [List.findSome?_cons]
  cases f x with
  | none => rfl
  | some b => rfl

theorem findSome?_pair (f : α → Option β) (x y : α) : [x, y].findSome? f = (f x).or (f y) := by
  rw [findSome?_cons, List.findSome?_singleton]

/-! ## Related results -/

theorem rel_map {R : α → β → Prop} {S : γ → δ → Prop} {f : α → γ} {g : β → δ}
    {a : Option α} {b : Option β} (h : Option.Rel R a b) (hfg : ∀ x y, R x y → S (f x) (g y)) :
    Option.Rel S (a.map f) (b.map g) := by
  cases h with
  | none => exact .none
  | some hx => exact .some (hfg _ _ hx)

theorem rel_getD {R : α → β → Prop} {a : Option α} {b : Option β} {x : α} {y : β}
    (h : Option.Rel R a b) (hxy : R x y) : R (a.getD x) (b.getD y) := by
  cases h with
  | none => exact hxy
  | some hab => exact hab

theorem rel_findSome? {R : β → δ → Prop} {f : α → Option β} {g : γ → Option δ}
    {xs : List α} {ys : List γ} (h : List.Forall₂ (fun x y => Option.Rel R (f x) (g y)) xs ys) :
    Option.Rel R (xs.findSome? f) (ys.findSome? g) := by
  induction h with
  | nil => exact .none
  | @cons x y _ _ hxy _ ih =>
    rw [List.findSome?_cons, List.findSome?_cons]
    generalize f x = a, g y = b at hxy
    cases hxy with
    | none => exact ih
    | some hab => exact .some hab

theorem rel_getLast? {R : α → β → Prop} {xs : List α} {ys : List β}
    (h : List.Forall₂ R xs ys) : Option.Rel R xs.getLast? ys.getLast? := by
  induction h with
  | nil => exact .none
  | cons hx _ ih =>
    rw [List.getLast?_cons, List.getLast?_cons]
    exact .some (rel_getD ih hx)

end WorkflowDispatch
