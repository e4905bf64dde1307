import Mathlib.Tactic.Common

/-!
# Programs that change things in place

A program changes its state step by step and can fail at any of them.  What it has
written before it fails stays written, so a failure that leaves everything as it was is
something to prove and not part of the definition.

Main results:

- Definition `Program`: such programs.
- Definition `Program.outcome`: what is left if a failure leaves everything as it was.
- Theorem `Program.run_bind`: what follows a part of a program runs on what that part has
  left, unless it has failed.
-/

namespace TrafficQueue

/-- A program on a state of type `σ` that answers with an `α` or fails with an `ε`. -/
abbrev Program (σ ε α : Type) := ExceptT ε (StateM σ) α

namespace Program

variable {σ ε α β : Type}

/-- What a program has to leave if it does the same as a function that answers with the next state:
when the function fails, all is as before. -/
def outcome (x : σ) : Except ε (α × σ) → Except ε α × σ
  | .error e => (.error e, x)
  | .ok (v, y) => (.ok v, y)

/-- What follows a part of a program runs on what that part has left, unless it has failed. -/
theorem run_bind (f : Program σ ε α) (g : α → Program σ ε β) (x : σ) :
    (f >>= g).run x =
      match f.run x with
      | (.error e, y) => (.error e, y)
      | (.ok v, y) => (g v).run y := by
  change (ExceptT.bindCont g (f.run x).1) (f.run x).2 = _
  rcases f.run x with ⟨_ | _, y⟩ <;> rfl

/-- A program whose answer is dropped fails as it does. -/
theorem run_drop_eq_error_iff {f : Program σ ε α} {x y : σ} {e : ε} :
    (do let _ ← f : Program σ ε Unit).run x = (.error e, y) ↔ f.run x = (.error e, y) := by
  rw [run_bind]
  rcases f.run x with ⟨_ | _, z⟩
  · exact ⟨fun h => by cases h; rfl, fun h => by cases h; rfl⟩
  · constructor <;> rintro ⟨⟩

theorem run_get (x : σ) : (get : Program σ ε σ).run x = (.ok x, x) :=
  rfl

theorem run_modify (f : σ → σ) (x : σ) :
    (modify f : Program σ ε PUnit).run x = (.ok ⟨⟩, f x) :=
  rfl

theorem run_ofExcept (e : Except ε α) (x : σ) : (ofExcept e : Program σ ε α).run x = (e, x) := by
  cases e <;> rfl

end Program

end TrafficQueue
