import Mathlib.Data.List.Forall2

/-!
# Computations that can fail

Every rule of the domain is a function into `Except`. These are the equations that run such
a function forward, and the two facts that read a success backward: a bind succeeds when both
its parts do, and a map over a list succeeds when every element does, pairing each input
with its output.

Loops are read back the same way: a loop whose body only checks succeeds exactly when every
element passes (`forIn_eq_ok_iff`), and a fold keeps whatever each of its steps keeps
(`foldlM_invariant`).
-/

namespace Payout

theorem ok_bind {ε α β : Type} (a : α) (f : α → Except ε β) :
  (Except.ok a >>= f) = f a
  := rfl

theorem error_bind {ε α β : Type} (e : ε) (f : α → Except ε β) :
  (Except.error e >>= f) = Except.error e
  := rfl

theorem pure_except {ε α : Type} (a : α) :
  (pure a : Except ε α) = .ok a
  := rfl

theorem throw_except {ε α : Type} (e : ε) :
  (throw e : Except ε α) = .error e
  := rfl

/-- A bind in `Except` succeeds exactly when both of its parts do. -/
theorem bind_eq_ok {ε α β : Type} {x : Except ε α} {f : α → Except ε β} {c : β} :
  x >>= f = .ok c ↔ ∃ a, x = .ok a ∧ f a = .ok c
  := by
  cases x with
  | error e => simp [error_bind]
  | ok a => simp [ok_bind]

/-- A computation whose optional result is `a` succeeded with `a`: the form in which a success
on a concrete input is decided, since `Except` has no decidable equality. -/
theorem eq_ok_of_toOption {ε α : Type} {x : Except ε α} {a : α} (h : x.toOption = some a) :
  x = .ok a
  := by
  cases x with
  | error e => cases h
  | ok a' => cases h; rfl

/-- A map in `Except` that succeeds has succeeded on every element, in order. -/
theorem forall₂_of_mapM_eq_ok {ε α β : Type} {f : α → Except ε β} {xs : List α} {ys : List β}
    (h : xs.mapM f = .ok ys) :
  List.Forall₂ (fun x y => f x = .ok y) xs ys
  := by
  induction xs generalizing ys with
  | nil =>
    cases h
    exact .nil
  | cons x xs ih =>
    rw [List.mapM_cons] at h
    obtain ⟨y, hy, h⟩ := bind_eq_ok.mp h
    obtain ⟨ys', hys, h⟩ := bind_eq_ok.mp h
    cases h
    exact .cons hy (ih hys)

/-- A map in `Except` succeeds when it does on every element. -/
theorem mapM_eq_ok_of_forall₂ {ε α β : Type} {f : α → Except ε β} {xs : List α} {ys : List β}
    (h : List.Forall₂ (fun x y => f x = .ok y) xs ys) :
  xs.mapM f = .ok ys
  := by
  induction h with
  | nil => rfl
  | cons hxy _ ih => rw [List.mapM_cons, hxy, ok_bind, ih, ok_bind]; rfl

/-- A map in `Except` fails with the failure of the first element it fails on. The proof splits on
whether the head fails. -/
theorem mapM_eq_error_iff {ε α β : Type} {f : α → Except ε β} {xs : List α} {e : ε} :
  xs.mapM f = .error e
    ↔ ∃ pre x post, xs = pre ++ x :: post ∧ (∀ y ∈ pre, ∃ b, f y = .ok b) ∧ f x = .error e
  := by
  induction xs with
  | nil => simp [List.mapM_nil, pure_except]
  | cons x xs ih =>
    rw [List.mapM_cons]
    cases hx : f x with
    | error e' =>
      rw [error_bind]
      constructor
      · intro h
        cases h
        exact ⟨[], x, xs, rfl, by simp, hx⟩
      · rintro ⟨pre, y, post, hxs, hpre, hy⟩
        cases pre with
        | nil =>
          cases hxs
          rw [hx] at hy
          cases hy
          rfl
        | cons z pre =>
          obtain ⟨rfl, -⟩ := List.cons_eq_cons.mp hxs
          obtain ⟨b, hb⟩ := hpre x List.mem_cons_self
          rw [hx] at hb
          cases hb
    | ok b =>
      rw [ok_bind]
      constructor
      · intro h
        cases htail : xs.mapM f with
        | error e' =>
          rw [htail, error_bind] at h
          cases h
          obtain ⟨pre, y, post, hxs, hpre, hy⟩ := ih.mp htail
          refine ⟨x :: pre, y, post, by rw [hxs]; rfl, fun z hz => ?_, hy⟩
          rcases List.mem_cons.mp hz with rfl | hz
          · exact ⟨b, hx⟩
          · exact hpre z hz
        | ok bs =>
          rw [htail, ok_bind] at h
          cases h
      · rintro ⟨pre, y, post, hxs, hpre, hy⟩
        cases pre with
        | nil =>
          cases hxs
          rw [hx] at hy
          cases hy
        | cons z pre =>
          obtain ⟨-, rfl⟩ := List.cons_eq_cons.mp hxs
          rw [ih.mpr ⟨pre, y, post, rfl, fun w hw => hpre w (List.mem_cons_of_mem _ hw), hy⟩,
            error_bind]

/-! ### Loops, folds and failures -/

/-- A bind in `Except` fails when its first part fails, or when the first part succeeds and the
second fails. -/
theorem bind_eq_error {ε α β : Type} {x : Except ε α} {f : α → Except ε β} {e : ε} :
  x >>= f = .error e ↔ x = .error e ∨ ∃ a, x = .ok a ∧ f a = .error e
  := by
  cases x with
  | error e' => simp [error_bind]
  | ok a => simp [ok_bind]

/-- A loop whose body only goes on or fails succeeds exactly when the body does on every
element. -/
theorem forIn_eq_ok_iff {ε α : Type} {xs : List α} {f : α → Unit → Except ε (ForInStep Unit)}
    (hf : ∀ x r, f x () = .ok r → r = .yield ()) :
  forIn xs () f = .ok () ↔ ∀ x ∈ xs, f x () = .ok (.yield ())
  := by
  induction xs with
  | nil => simp [pure_except]
  | cons x xs ih =>
    rw [List.forIn_cons]
    cases hx : f x () with
    | error e => simp [error_bind, hx]
    | ok r =>
      obtain rfl := hf x r hx
      rw [ok_bind]
      simp only [List.forall_mem_cons, hx, true_and]
      exact ih

/-- Work that gives nothing, then more work: both must succeed. -/
theorem unit_bind_eq_ok {ε β : Type} {x : Except ε Unit} {f : Unit → Except ε β} {c : β} :
  x >>= f = .ok c ↔ x = .ok () ∧ f () = .ok c
  := by
  rw [bind_eq_ok]
  exact ⟨fun ⟨(), hx, hf⟩ => ⟨hx, hf⟩, fun ⟨hx, hf⟩ => ⟨(), hx, hf⟩⟩

/-- A map in `Except` succeeds exactly when it does on every element. -/
theorem exists_mapM_eq_ok_iff {ε α β : Type} {f : α → Except ε β} {xs : List α} :
  (∃ ys, xs.mapM f = .ok ys) ↔ ∀ x ∈ xs, ∃ y, f x = .ok y
  := by
  induction xs with
  | nil => simp [pure_except]
  | cons x xs ih =>
    rw [List.mapM_cons, List.forall_mem_cons, ← ih]
    cases hx : f x with
    | error e => simp [error_bind]
    | ok y =>
      cases hxs : xs.mapM f with
      | error e => simp [ok_bind]
      | ok ys => simp [ok_bind, pure_except]

/-- A loop in `Except` keeps what every step keeps. -/
theorem foldlM_invariant {ε α β : Type} (P : β → Prop) {f : β → α → Except ε β}
    (hf : ∀ b a b', P b → f b a = .ok b' → P b') {xs : List α} {b r : β} (hb : P b)
    (h : xs.foldlM f b = .ok r) :
  P r
  := by
  induction xs generalizing b with
  | nil =>
    cases h
    exact hb
  | cons a as ih =>
    rw [List.foldlM_cons] at h
    obtain ⟨b', hb', h⟩ := bind_eq_ok.mp h
    exact ih (hf b a b' hb hb') h

/-! ### Lists related elementwise -/

/-- An element of the right list of a relation pairs with some element of the left list. -/
theorem exists_of_forall₂_of_mem {α β : Type} {R : α → β → Prop} {xs : List α} {ys : List β}
    (h : List.Forall₂ R xs ys) {y : β} (hy : y ∈ ys) :
  ∃ x ∈ xs, R x y
  := by
  induction h with
  | nil => cases hy
  | cons hxy _ ih =>
    rcases List.mem_cons.mp hy with rfl | hy
    · exact ⟨_, List.mem_cons_self, hxy⟩
    · obtain ⟨x, hx, hr⟩ := ih hy
      exact ⟨x, List.mem_cons_of_mem _ hx, hr⟩

/-- An element of a list zipped from two related lists comes from a related pair. -/
theorem exists_of_forall₂_of_mem_zipWith {α β γ : Type} {R : α → β → Prop} {f : α → β → γ}
    {xs : List α} {ys : List β} (h : List.Forall₂ R xs ys) {z : γ} (hz : z ∈ List.zipWith f xs ys) :
  ∃ x y, R x y ∧ z = f x y
  := by
  induction h with
  | nil => cases hz
  | cons hxy _ ih =>
    rcases List.mem_cons.mp hz with rfl | hz
    · exact ⟨_, _, hxy, rfl⟩
    · exact ih hz

/-- A relation between two lists implies another when it does for members of the lists. -/
theorem forall₂_imp_of_mem {α β : Type} {R S : α → β → Prop} {xs : List α} {ys : List β}
    (h : List.Forall₂ R xs ys) (himp : ∀ x y, x ∈ xs → y ∈ ys → R x y → S x y) :
  List.Forall₂ S xs ys
  := by
  induction h with
  | nil => exact .nil
  | cons hxy _ ih =>
    refine .cons (himp _ _ List.mem_cons_self List.mem_cons_self hxy) (ih fun x y hx hy => ?_)
    exact himp x y (List.mem_cons_of_mem _ hx) (List.mem_cons_of_mem _ hy)

/-- Two relations from one list relate the two lists it is related to, element by element. -/
theorem forall₂_of_common_left {α β γ : Type} {R : α → β → Prop} {S : α → γ → Prop}
    {xs : List α} {ys : List β} {zs : List γ} (h : List.Forall₂ R xs ys)
    (h' : List.Forall₂ S xs zs) :
  List.Forall₂ (fun y z => ∃ x, R x y ∧ S x z) ys zs
  := by
  induction h generalizing zs with
  | nil =>
    cases h'
    exact .nil
  | cons hxy _ ih =>
    cases h' with
    | cons hxz h' => exact .cons ⟨_, hxy, hxz⟩ (ih h')

/-- Zipping a list of the same length on the left keeps a relation of the right list. -/
theorem forall₂_zip_right {α β γ : Type} {R : β → γ → Prop} {xs : List α} {ys : List β}
    {zs : List γ} (h : List.Forall₂ R ys zs) (hlen : xs.length = ys.length) :
  List.Forall₂ (fun p z => R p.2 z) (xs.zip ys) zs
  := by
  induction h generalizing xs with
  | nil =>
    rw [List.zip_nil_right]
    exact .nil
  | cons hyz _ ih =>
    cases xs with
    | nil => cases hlen
    | cons x xs => exact .cons hyz (ih (Nat.succ.inj hlen))

/-- Two lists related by "is the image of" are a list and its image. -/
theorem eq_map_of_forall₂ {α β : Type} {f : α → β} {xs : List α} {ys : List β}
    (h : List.Forall₂ (fun x y => y = f x) xs ys) :
  ys = xs.map f
  := by
  induction h with
  | nil => rfl
  | cons hxy _ ih => rw [hxy, ih, List.map_cons]

end Payout
