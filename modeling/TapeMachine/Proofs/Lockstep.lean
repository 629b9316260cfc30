import Mathlib.Logic.Function.Iterate

/-! Two deterministic systems that keep in step end together, in related states. -/

namespace TapeMachine

/-- A system that has come to a final state stays there. -/
theorem iterate_of_final {α : Type} {step : α → α} {final : α → Prop}
    (still : ∀ a, final a → step a = a) {a : α} (ended : final a) (n : Nat) : step^[n] a = a :=
  Function.iterate_fixed (still a ended) n

/-- A system ends in only one state. -/
theorem final_unique {α : Type} {step : α → α} {final : α → Prop}
    (still : ∀ a, final a → step a = a) {a : α} {n k : Nat} (first : final (step^[n] a))
    (second : final (step^[k] a)) : step^[n] a = step^[k] a := by
  -- The longer of the two runs passes through the end of the shorter one.
  rcases Nat.le_total n k with fewer | more
  · obtain ⟨rest, rfl⟩ := Nat.exists_eq_add_of_le' fewer
    rw [Function.iterate_add_apply, iterate_of_final still first]
  · obtain ⟨rest, rfl⟩ := Nat.exists_eq_add_of_le' more
    rw [Function.iterate_add_apply, iterate_of_final still second]

/-- A system is followed to its end by another one that gets to a related state again and again,
perhaps without a move of its own. -/
theorem exists_related_end {α β : Type} {left : α → α} {right : β → β} {final : α → Prop}
    {related : α → β → Prop} (still : ∀ a, final a → left a = a)
    (progress : ∀ a b, related a b → ¬ final a →
      ∃ i j, 0 < i ∧ related (left^[i] a) (right^[j] b)) :
    ∀ n a b, related a b → final (left^[n] a) → ∃ k, related (left^[n] a) (right^[k] b) := by
  -- The induction is on the moves that are left, since one round may take several of them.
  intro n
  induction n using Nat.strongRecOn with
  | ind n ih =>
    intro a b paired ended
    by_cases done : final a
    · rw [iterate_of_final still done] at ended ⊢
      exact ⟨0, paired⟩
    · obtain ⟨i, j, here, next⟩ := progress a b paired done
      -- A round that is longer than the run ends where the run ends.
      rcases Nat.lt_or_ge n i with short | long
      · obtain ⟨rest, rfl⟩ := Nat.exists_eq_add_of_le' (Nat.le_of_lt short)
        rw [Function.iterate_add_apply, iterate_of_final still ended] at next
        exact ⟨j, next⟩
      · obtain ⟨rest, rfl⟩ := Nat.exists_eq_add_of_le' long
        rw [Function.iterate_add_apply] at ended ⊢
        obtain ⟨k, last⟩ := ih rest (by omega) _ _ next ended
        exact ⟨k + j, by rwa [Function.iterate_add_apply]⟩

/-- Two systems that keep in step: related states are final together, and from related states that
are not final both get to related states again, each with at least one move. -/
structure Lockstep {α β : Type} (left : α → α) (right : β → β) (leftFinal : α → Prop)
    (rightFinal : β → Prop) (related : α → β → Prop) : Prop where
  /-- The left system does not move in a final state. -/
  leftStill : ∀ a, leftFinal a → left a = a
  /-- The right system does not move in a final state. -/
  rightStill : ∀ b, rightFinal b → right b = b
  /-- Related states are final together. -/
  together : ∀ a b, related a b → (leftFinal a ↔ rightFinal b)
  /-- Related states lead to related states. -/
  progress : ∀ a b, related a b → ¬ leftFinal a →
    ∃ i j, 0 < i ∧ 0 < j ∧ related (left^[i] a) (right^[j] b)

namespace Lockstep

variable {α β : Type} {left : α → α} {right : β → β} {leftFinal : α → Prop}
  {rightFinal : β → Prop} {related : α → β → Prop}

/-- The two systems may change sides. -/
theorem flip (lockstep : Lockstep left right leftFinal rightFinal related) :
    Lockstep right left rightFinal leftFinal (fun b a => related a b) where
  leftStill := lockstep.rightStill
  rightStill := lockstep.leftStill
  together b a paired := (lockstep.together a b paired).symm
  progress b a paired running := by
    obtain ⟨i, j, here, there, next⟩ := lockstep.progress a b paired
      (fun ended => running ((lockstep.together a b paired).mp ended))
    exact ⟨j, i, there, here, next⟩

/-- If the left system ends, the right one ends in a related state. -/
theorem ends_right (lockstep : Lockstep left right leftFinal rightFinal related) :
    ∀ n a b, related a b → leftFinal (left^[n] a) →
      ∃ k, rightFinal (right^[k] b) ∧ related (left^[n] a) (right^[k] b) := by
  intro n a b paired ended
  obtain ⟨k, last⟩ := exists_related_end lockstep.leftStill (fun a b paired running => by
    obtain ⟨i, j, here, -, next⟩ := lockstep.progress a b paired running
    exact ⟨i, j, here, next⟩) n a b paired ended
  exact ⟨k, (lockstep.together _ _ last).mp ended, last⟩

/-- One system ends exactly if the other does, and then they end in related states. -/
theorem ends (lockstep : Lockstep left right leftFinal rightFinal related) {a : α} {b : β}
    (paired : related a b) :
    ((∃ n, leftFinal (left^[n] a)) ↔ ∃ k, rightFinal (right^[k] b)) ∧
      ∀ n k, leftFinal (left^[n] a) → rightFinal (right^[k] b) →
        related (left^[n] a) (right^[k] b) := by
  refine ⟨⟨?_, ?_⟩, ?_⟩
  · rintro ⟨n, ended⟩
    obtain ⟨k, stopped, -⟩ := lockstep.ends_right n a b paired ended
    exact ⟨k, stopped⟩
  · rintro ⟨k, ended⟩
    obtain ⟨n, stopped, -⟩ := lockstep.flip.ends_right k b a paired ended
    exact ⟨n, stopped⟩
  · intro n k ended stopped
    -- The right system has only one final state to be related to.
    obtain ⟨j, reached, last⟩ := lockstep.ends_right n a b paired ended
    rwa [final_unique lockstep.rightStill stopped reached]

end Lockstep

end TapeMachine
