import Mathlib.Algebra.Group.Int.Defs
import Mathlib.Algebra.Group.Nat.Defs
import Mathlib.Tactic.ByContra
import TagHighlight.Json.Display

/-!
# What a message can show

A failure is told by its own kind exactly when its message can be written, and a message can be
written when the integers that it shows are within the limit. Otherwise the failure that is told is
the one of the integer.
-/

namespace TagHighlight

theorem exists_showing_iff {ns : List Int} {text : String} :
    (∃ shown, showing ns text = .ok shown) ↔ ∀ n ∈ ns, IsWritable n := by
  constructor
  · rintro ⟨shown, h⟩
    by_contra hns
    obtain ⟨e, he⟩ := showing_of_not_writable hns text
    rw [he] at h
    cases h
  · intro h
    exact ⟨text, showing_of_writable h text⟩

/-- A message that shows a value is written when the integers in the value can be. -/
theorem Json.exists_display_bind_iff {α : Type} {v : Json} {f : String → α} :
    (∃ message, (do return f (← v.display) : Except OversizedInteger α) = .ok message) ↔
      ∀ n ∈ v.integers, IsWritable n := by
  have hshown : (∃ text, v.display = .ok text) ↔ ∀ n ∈ v.integers, IsWritable n :=
    exists_showing_iff
  rw [← hshown]
  cases v.display with
  | ok text => exact iff_of_true ⟨f text, rfl⟩ ⟨text, rfl⟩
  | error e => exact iff_of_false (by rintro ⟨message, h⟩; cases h) (by simp)

theorem leastOversized_eq : leastOversized = 10 ^ digitLimit := by
  unfold leastOversized
  generalize digitLimit = n
  exact Nat.pow_eq

theorem isWritable_iff {n : Int} : IsWritable n ↔ n.natAbs < 10 ^ digitLimit := by
  rw [IsWritable, leastOversized_eq]

theorem not_isWritable_pow : ¬IsWritable (10 ^ digitLimit) := by
  have hten : (10 : Int).natAbs = 10 := rfl
  rw [isWritable_iff, Int.natAbs_pow, hten]
  exact Nat.lt_irrefl _

namespace Raised

variable {kind : ErrorKind} {message : Except OversizedInteger LooseText}

theorem kind_of_eq_or (kind : ErrorKind) (message : Except OversizedInteger LooseText) :
    (Raised.of kind message).kind = kind ∨ (Raised.of kind message).kind = .wrongValue := by
  cases message with
  | ok text => exact .inl rfl
  | error e => exact .inr rfl

theorem kind_of_eq_iff (hkind : kind ≠ .wrongValue) :
    (Raised.of kind message).kind = kind ↔ ∃ text, message = .ok text := by
  cases message with
  | ok text => exact iff_of_true rfl ⟨text, rfl⟩
  | error e => exact iff_of_false (fun h => hkind h.symm) (by simp)

end Raised

theorem exists_map_ofString_iff {message : Except OversizedInteger String} :
    (∃ text, message.map LooseText.ofString = .ok text) ↔ ∃ text, message = .ok text := by
  cases message with
  | ok text => exact iff_of_true ⟨_, rfl⟩ ⟨text, rfl⟩
  | error e => exact iff_of_false (by simp [Except.map]) (by simp)

end TagHighlight
