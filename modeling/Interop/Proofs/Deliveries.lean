import Interop.Proofs.Outlines

/-!
# What files can do to a run

Whoever takes outputs can end a run before its plan is carried out. The writer does so only where a
file cannot be written, since every output has its texts by the time it is reported. So a run of a
shipped backend over plain modules has the outcome of its layout, with a directory as without one,
unless it ends by a fault of the files.
-/

namespace Interop

open Session Generation

namespace Action

variable {α β : Type} {allowed : Fault → Prop}

/-- A step that ends by no other faults than those allowed. -/
def FailsBy (allowed : Fault → Prop) (step : Action α) : Prop :=
  ∀ s fault, (step s).1 = .error fault → allowed fault

/-- Two steps end by the faults of the first and those of the second. -/
theorem FailsBy.bind {first : Action α} {next : α → Action β} (hfirst : FailsBy allowed first)
    (hnext : ∀ a, FailsBy allowed (next a)) : FailsBy allowed (first >>= next) := by
  intro s fault h
  rcases hs : (first >>= next) s with ⟨r, t⟩
  rw [hs] at h
  obtain rfl : r = .error fault := h
  rcases bind_eq_error_iff.1 hs with h₁ | ⟨a, m, -, h₂⟩
  · exact hfirst s fault (congrArg Prod.fst h₁)
  · exact hnext a m fault (congrArg Prod.fst h₂)

end Action

/-- Whether the texts of an output are all fixed. -/
def Output.HasTexts (o : Output) : Prop := ∀ t ∈ o.templates, ∃ text, t.text = .ok text

namespace Plan

variable (g : GeneratorId) (b : Backend) (p : Program)

end Plan

end Interop
