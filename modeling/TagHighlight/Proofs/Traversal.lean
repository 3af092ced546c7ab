import Mathlib.Data.List.Forall2

/-!
# Reading a list item by item

A reader of items reads a list from its first item on and stops at the first one that it refuses. So
what is read of a list is read of its items one by one (`mapM_eq_ok_iff`), and a list that is refused
has a first item that is (`exists_of_mapM_eq_error`).
-/

namespace TagHighlight

variable {ε α β γ : Type} {f : α → Except ε β}

theorem exists_of_bind_eq_ok {x : Except ε α} {y : β} (h : (x >>= f) = .ok y) :
    ∃ a, x = .ok a ∧ f a = .ok y := by
  cases x with
  | error e => cases h
  | ok a => exact ⟨a, rfl, h⟩

theorem mapM_eq_ok_iff {xs : List α} {ys : List β} :
    xs.mapM f = .ok ys ↔ List.Forall₂ (fun x y => f x = .ok y) xs ys := by
  induction xs generalizing ys with
  | nil =>
    rw [List.mapM_nil, List.forall₂_nil_left_iff]
    exact ⟨fun h => (Except.ok.inj h).symm, fun h => congrArg Except.ok h.symm⟩
  | cons x xs ih =>
    rw [List.mapM_cons, List.forall₂_cons_left_iff]
    cases hx : f x with
    | error e => exact iff_of_false nofun (by simp)
    | ok y =>
      cases hxs : xs.mapM f with
      | error e =>
        refine iff_of_false nofun ?_
        rintro ⟨z, zs, -, hzs, -⟩
        rw [ih.2 hzs] at hxs
        cases hxs
      | ok zs =>
        constructor
        · intro h
          cases h
          exact ⟨y, zs, rfl, ih.1 hxs, rfl⟩
        · rintro ⟨z, zs', hz, hzs', rfl⟩
          cases hz
          rw [ih.2 hzs'] at hxs
          cases hxs
          rfl

theorem mapM_map_eq_ok {f : β → Except ε α} {g : α → β} {xs : List α}
    (h : ∀ x ∈ xs, f (g x) = .ok x) : (xs.map g).mapM f = .ok xs :=
  mapM_eq_ok_iff.2 (List.forall₂_map_left_iff.2 (List.forall₂_same.2 h))

theorem mapM_zipIdx_map_eq_ok {f : β × Nat → Except ε α} {g : α → β} {xs : List α}
    (h : ∀ x ∈ xs, ∀ n, f (g x, n) = .ok x) (first : Nat) :
    ((xs.map g).zipIdx first).mapM f = .ok xs := by
  induction xs generalizing first with
  | nil => rfl
  | cons x xs ih =>
    rw [List.map_cons, List.zipIdx_cons, List.mapM_cons, h x List.mem_cons_self,
      ih fun y hy => h y (List.mem_cons_of_mem _ hy)]
    rfl

theorem exists_of_mem_mapM {xs : List α} {ys : List β} (h : xs.mapM f = .ok ys) {y : β}
    (hy : y ∈ ys) : ∃ x ∈ xs, f x = .ok y := by
  have hall := mapM_eq_ok_iff.1 h
  clear h
  induction hall with
  | nil => cases hy
  | @cons x y' xs ys hx hxs ih =>
    rcases List.mem_cons.1 hy with rfl | hy
    · exact ⟨x, List.mem_cons_self, hx⟩
    · obtain ⟨w, hw, hfw⟩ := ih hy
      exact ⟨w, List.mem_cons_of_mem x hw, hfw⟩

theorem exists_eq_ok_of_mapM_eq_ok {xs : List α} {ys : List β} (h : xs.mapM f = .ok ys) :
    ∀ x ∈ xs, ∃ y, f x = .ok y :=
  ((List.forall₂_and_left xs ys).1 ((mapM_eq_ok_iff.1 h).imp fun _ y hx => ⟨⟨y, hx⟩, hx⟩)).1

theorem exists_of_mapM_eq_error {xs : List α} {e : ε} (h : xs.mapM f = .error e) :
    ∃ before x after, xs = before ++ x :: after ∧ (∀ w ∈ before, ∃ y, f w = .ok y) ∧
      f x = .error e := by
  induction xs with
  | nil => cases h
  | cons x xs ih =>
    rw [List.mapM_cons] at h
    cases hx : f x with
    | error e' =>
      rw [hx] at h
      cases h
      exact ⟨[], x, xs, rfl, by simp, hx⟩
    | ok y =>
      cases hxs : xs.mapM f with
      | ok ys =>
        rw [hx, hxs] at h
        cases h
      | error e' =>
        rw [hx, hxs] at h
        cases h
        obtain ⟨before, w, after, rfl, hbefore, hw⟩ := ih hxs
        refine ⟨x :: before, w, after, rfl, ?_, hw⟩
        rintro v hv
        rcases List.mem_cons.1 hv with rfl | hv
        · exact ⟨y, hx⟩
        · exact hbefore v hv

/-- What holds of each item and what is read of it holds along the list. -/
theorem of_mapM_eq_ok {P : α → Prop} {Q : β → Prop} {g : β → γ} {k : α → γ} {xs : List α}
    {ys : List β} (h : xs.mapM f = .ok ys)
    (hf : ∀ x ∈ xs, ∀ y, f x = .ok y → P x ∧ Q y ∧ g y = k x) :
    (∀ x ∈ xs, P x) ∧ (∀ y ∈ ys, Q y) ∧ ys.map g = xs.map k := by
  induction mapM_eq_ok_iff.1 h with
  | nil => exact ⟨by simp, by simp, rfl⟩
  | @cons x y xs ys hx hxs ih =>
    obtain ⟨hP, hQ, hmap⟩ := hf x List.mem_cons_self y hx
    obtain ⟨hP', hQ', hmap'⟩ := ih (mapM_eq_ok_iff.2 hxs) fun w hw =>
      hf w (List.mem_cons_of_mem x hw)
    refine ⟨List.forall_mem_cons.2 ⟨hP, hP'⟩, List.forall_mem_cons.2 ⟨hQ, hQ'⟩, ?_⟩
    rw [List.map_cons, List.map_cons, hmap, hmap']

theorem exists_mapM_eq_ok {xs : List α} (h : ∀ x ∈ xs, ∃ y, f x = .ok y) :
    ∃ ys, xs.mapM f = .ok ys := by
  cases hxs : xs.mapM f with
  | ok ys => exact ⟨ys, rfl⟩
  | error e =>
    obtain ⟨before, x, after, rfl, -, hx⟩ := exists_of_mapM_eq_error hxs
    obtain ⟨y, hy⟩ := h x (by simp)
    rw [hx] at hy
    cases hy

end TagHighlight
