import Mathlib

/-!
# Outcomes of several steps

Steps that may fail are done one after another. The whole succeeds if each of them does, and
otherwise it fails as the first one does that fails (`bind_eq_ok_iff`, `bind_eq_error_iff`). It is
the same if one step is done for each item of a list (`mapM_eq_ok_iff`, `exists_split_of_mapM`).
-/

namespace Gridwalk

variable {ε ε' α β : Type} {x : Except ε α} {a : α} {b : β} {e : ε}

/-! ## Two steps -/

theorem bind_eq_ok_iff {f : α → Except ε β} :
    x >>= f = .ok b ↔ ∃ a, x = .ok a ∧ f a = .ok b := by
  cases x <;> simp [bind, Except.bind]

theorem bind_eq_error_iff {f : α → Except ε β} :
    x >>= f = .error e ↔ x = .error e ∨ ∃ a, x = .ok a ∧ f a = .error e := by
  cases x <;> simp [bind, Except.bind]

/-- A check goes before a step. -/
theorem check_bind_eq_ok_iff {x : Except ε Unit} {f : Unit → Except ε α} :
    x >>= f = .ok a ↔ x = .ok () ∧ f () = .ok a :=
  bind_eq_ok_iff.trans ⟨fun ⟨(), h⟩ => h, fun h => ⟨(), h⟩⟩

theorem check_bind_eq_error_iff {x : Except ε Unit} {f : Unit → Except ε α} :
    x >>= f = .error e ↔ x = .error e ∨ x = .ok () ∧ f () = .error e :=
  bind_eq_error_iff.trans (or_congr_right ⟨fun ⟨(), h⟩ => h, fun h => ⟨(), h⟩⟩)

theorem map_eq_ok_iff {f : α → β} : x.map f = .ok b ↔ ∃ a, x = .ok a ∧ f a = b := by
  cases x <;> simp [Except.map]

theorem map_eq_error_iff {f : α → β} : x.map f = .error e ↔ x = .error e := by
  cases x <;> simp [Except.map]

/-! ## Complaints in other words -/

theorem mapError_eq_ok_iff {f : ε → ε'} : x.mapError f = .ok a ↔ x = .ok a := by
  cases x <;> simp [Except.mapError]

theorem mapError_eq_error_iff {f : ε → ε'} {e' : ε'} :
    x.mapError f = .error e' ↔ ∃ e, e' = f e ∧ x = .error e := by
  cases x <;> simp [Except.mapError, eq_comm]

/-! ## One step for each item -/

section Lists

variable {f : α → Except ε β} {as : List α}

theorem mapM_eq_ok_iff {bs : List β} :
    as.mapM f = .ok bs ↔ List.Forall₂ (fun a b => f a = .ok b) as bs := by
  induction as generalizing bs with
  | nil => cases bs <;> simp [pure, Except.pure]
  | cons a as ih =>
    simp only [List.mapM_cons, bind_eq_ok_iff, ih, List.forall₂_cons_left_iff]
    refine exists_congr fun b => ?_
    simp only [pure, Except.pure, Except.ok.injEq, eq_comm (b := bs), ← exists_and_left]

/-- The whole fails as the first step does that fails. -/
theorem exists_split_of_mapM (h : as.mapM f = .error e) :
    ∃ before a after, as = before ++ a :: after ∧ (∀ a' ∈ before, ∃ b, f a' = .ok b) ∧
      f a = .error e := by
  induction as with
  | nil => cases h
  | cons a as ih =>
    rw [List.mapM_cons, bind_eq_error_iff] at h
    rcases h with ha | ⟨b, ha, h⟩
    · exact ⟨[], a, as, rfl, by simp, ha⟩
    rcases bind_eq_error_iff.1 h with has | ⟨bs, -, hnever⟩
    · obtain ⟨before, a', after, rfl, hbefore, ha'⟩ := ih has
      exact ⟨a :: before, a', after, rfl, List.forall_mem_cons.2 ⟨⟨b, ha⟩, hbefore⟩, ha'⟩
    · cases hnever

end Lists

end Gridwalk
