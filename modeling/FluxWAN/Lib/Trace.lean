/-
  Traces, and what holds at their end.

  A trace is the list of the events so far, the newest last.  Three past-time notions are enough to state what
  monitors watch, and each obeys a law for one more event, so an invariant about traces is proved event by
  event:

  * `Since start stop tr`   — a `start` event has happened, and no `stop` event after it;
  * `AtEach P tr`           — whenever an event happened, `P` held of it and of the trace before it;
  * `countSince reset p tr` — the number of `p` events after the last `reset`.
-/
import Mathlib.Algebra.Group.Int.Defs
import Mathlib.Algebra.Group.Nat.Defs
import Mathlib.Data.Fintype.Card

namespace FluxWAN.Trace

variable {α : Type}

/-- Some event satisfies `start`, and none after it `stop`. -/
def Since (start stop : α → Prop) (tr : List α) : Prop :=
  ∃ before x after, tr = before ++ x :: after ∧ start x ∧ ∀ y ∈ after, ¬ stop y

/-- Every event relates to the trace before it. -/
def AtEach (P : List α → α → Prop) (tr : List α) : Prop :=
  ∀ before x after, tr = before ++ x :: after → P before x

/-- The events with `p` after the last one with `reset`, or since the beginning. -/
def countSince (reset p : α → Bool) (tr : List α) : Nat :=
  (tr.reverse.takeWhile fun x => ! reset x).countP p

section
variable {start stop : α → Prop} {P : List α → α → Prop} {tr : List α} {e : α}

/-- A split of a longer trace is at the new event, or a split of the old one. -/
theorem append_singleton_eq_iff :
    tr ++ [e] = before ++ x :: after ↔
      (after = [] ∧ before = tr ∧ x = e) ∨ ∃ after', after = after' ++ [e] ∧ tr = before ++ x :: after' := by
  constructor
  · intro h
    rcases List.eq_nil_or_concat after with rfl | ⟨after', y, rfl⟩
    · obtain ⟨htr, he⟩ := List.append_inj' h rfl
      exact .inl ⟨rfl, htr.symm, (List.singleton_inj.mp he).symm⟩
    · rw [List.concat_eq_append, ← List.cons_append, ← List.append_assoc] at h
      obtain ⟨htr, he⟩ := List.append_inj' h rfl
      obtain rfl := List.singleton_inj.mp he
      exact .inr ⟨after', List.concat_eq_append, htr⟩
  · rintro (⟨rfl, rfl, rfl⟩ | ⟨after', rfl, rfl⟩)
    · rfl
    · simp

theorem not_since_nil : ¬ Since start stop [] := by
  rintro ⟨before, x, after, h, -⟩
  cases before <;> cases h

theorem since_append_singleton_iff :
    Since start stop (tr ++ [e]) ↔ start e ∨ ¬ stop e ∧ Since start stop tr := by
  constructor
  · rintro ⟨before, x, after, h, hx, hafter⟩
    rcases append_singleton_eq_iff.mp h with ⟨-, -, rfl⟩ | ⟨after', rfl, rfl⟩
    · exact .inl hx
    · refine .inr ⟨hafter e (by simp), before, x, after', rfl, hx, ?_⟩
      exact fun y hy => hafter y (List.mem_append_left _ hy)
  · rintro (he | ⟨he, before, x, after, rfl, hx, hafter⟩)
    · exact ⟨tr, e, [], rfl, he, nofun⟩
    · refine ⟨before, x, after ++ [e], by simp, hx, ?_⟩
      intro y hy
      rcases List.mem_append.mp hy with hy | hy
      · exact hafter y hy
      · obtain rfl := List.mem_singleton.mp hy
        exact he

theorem atEach_nil : AtEach P [] := by
  intro before x after h
  cases before <;> cases h

theorem atEach_append_singleton_iff : AtEach P (tr ++ [e]) ↔ AtEach P tr ∧ P tr e := by
  constructor
  · intro h
    refine ⟨?_, h tr e [] rfl⟩
    intro before x after htr
    exact h before x (after ++ [e]) (by rw [htr]; simp)
  · rintro ⟨h, he⟩ before x after htr
    rcases append_singleton_eq_iff.mp htr with ⟨-, rfl, rfl⟩ | ⟨after', -, rfl⟩
    · exact he
    · exact h before x after' rfl

theorem countSince_append_singleton :
    countSince reset p (tr ++ [e]) = if reset e = true then 0 else countSince reset p tr + if p e = true then 1 else 0 := by
  unfold countSince
  rw [List.reverse_append, List.reverse_singleton, List.singleton_append]
  cases hreset : reset e <;> simp [hreset, List.countP_cons]

end

end FluxWAN.Trace
