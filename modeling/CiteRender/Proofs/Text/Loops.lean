/-!
# Loops

A loop as what one pass does, with nothing said about whether it ends. A reader that is
written by recursion has to end before it may be written down at all, so that it ends is
nothing one can state about it. A pass can always be written down, and `runFor` makes as
many passes as it is allowed to: it has a result exactly if the loop is left by then.

A loop is left in two ways. Its condition fails before a pass, which costs nothing, or
the pass leaves it. A loop without a condition is only left in the second way.

That a loop ends, and with what, is shown by looking at one pass. `Loop.Yields` collects
what has to be known of it: a number that every pass lowers, and a result that none
changes.

## Main definitions

* `Pass`: How a pass ends.
* `Loop`: A loop by its condition and its passes.
* `Loop.runFor`: What a loop is left with after a number of passes at most.
* `Loop.Keeps`, `Loop.Yields`: What a loop yields, said of one pass.

## Theorems

* `Loop.runFor_of_exit`: The condition fails.
* `Loop.runFor_leave`, `Loop.runFor_again`: One pass.
* `Loop.Yields.runFor`: All passes.
-/

namespace CiteRender

/-- How a pass through a loop ends: the loop is left, or goes on. -/
inductive Pass (σ α : Type) where
  | leave (result : α)
  | again (state : σ)

/-- A loop over some states. Before each pass its condition may fail, and the loop is
    left with a result then. -/
structure Loop (σ α : Type) where
  exit : σ → Option α
  pass : σ → Pass σ α

namespace Loop

variable {σ α : Type} (loop : Loop σ α)

/-- What a loop is left with, if it is left after a number of passes at most. -/
def runFor : Nat → σ → Option α
  | 0, state => loop.exit state
  | n + 1, state =>
    match loop.exit state with
    | some result => some result
    | none =>
      match loop.pass state with
      | .leave result => some result
      | .again next => runFor n next

theorem runFor_of_exit (n : Nat) (state : σ) (result : α) (h : loop.exit state = some result) :
    loop.runFor n state = some result := by
  cases n with
  | zero => exact h
  | succ n => rw [runFor, h]

theorem runFor_leave (n : Nat) (state : σ) (result : α) (hexit : loop.exit state = none)
    (h : loop.pass state = .leave result) : loop.runFor (n + 1) state = some result := by
  rw [runFor, hexit, h]

theorem runFor_again (n : Nat) (state next : σ) (hexit : loop.exit state = none)
    (h : loop.pass state = .again next) : loop.runFor (n + 1) state = loop.runFor n next := by
  rw [runFor, hexit, h]

/-- How a pass from some state ends if the loop yields the same from there as from where
    the pass comes to, and if it lowers the number of passes that may follow. -/
def Keeps (outcome : σ → α) (inv : σ → Prop) (passes : σ → Nat) (state : σ) : Pass σ α → Prop
  | .leave result => outcome state = result
  | .again next => inv next ∧ outcome state = outcome next ∧ passes next < passes state

/-- What a loop yields from all states with a property that its passes keep. -/
structure Yields (outcome : σ → α) (inv : σ → Prop) (passes : σ → Nat) : Prop where
  pos : ∀ state, inv state → loop.exit state = none → 0 < passes state
  exits : ∀ state result, inv state → loop.exit state = some result → outcome state = result
  keeps : ∀ state, inv state → loop.exit state = none →
    Keeps outcome inv passes state (loop.pass state)

/-- A loop is left with what it yields, after no more passes than it may take. -/
theorem Yields.runFor {loop : Loop σ α} {outcome : σ → α} {inv : σ → Prop} {passes : σ → Nat}
    (h : loop.Yields outcome inv passes) (n : Nat) (state : σ) (hinv : inv state)
    (hn : passes state ≤ n) : loop.runFor n state = some (outcome state) := by
  induction n generalizing state with
  | zero =>
      rcases hexit : loop.exit state with _ | result
      · exact absurd (h.pos state hinv hexit) (by omega)
      · rw [loop.runFor_of_exit 0 state result hexit, h.exits state result hinv hexit]
  | succ n ih =>
      rcases hexit : loop.exit state with _ | result
      · have hkeeps := h.keeps state hinv hexit
        rcases hpass : loop.pass state with result | next
        · rw [hpass] at hkeeps
          rw [loop.runFor_leave n state result hexit hpass, ← hkeeps]
        · rw [hpass] at hkeeps
          rcases hkeeps with ⟨hnext, hsame, hfewer⟩
          rw [loop.runFor_again n state next hexit hpass, hsame]
          exact ih next hnext (by omega)
      · rw [loop.runFor_of_exit (n + 1) state result hexit, h.exits state result hinv hexit]

end Loop

end CiteRender
