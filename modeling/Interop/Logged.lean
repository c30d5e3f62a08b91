import Interop.Fault
import Interop.Log

/-!
# Logged steps

Steps that read and check something, and change nothing. A logged step gives a result or a fault,
and in both cases the records that were logged on the way.
-/

namespace Interop

/-- A result or a fault, with the records logged on the way. -/
structure Logged (α : Type) where
  /-- The result or the fault. -/
  outcome : Except Fault α
  /-- The records, in order. -/
  records : List LogRecord

namespace Logged

variable {α β : Type}

/-- One step after another; a fault ends both. -/
protected def bind (first : Logged α) (next : α → Logged β) : Logged β :=
  match first.outcome with
  | .ok a => ⟨(next a).outcome, first.records ++ (next a).records⟩
  | .error fault => ⟨.error fault, first.records⟩

instance : Monad Logged where
  pure a := ⟨.ok a, []⟩
  bind := Logged.bind

/-- End a step by a fault. -/
def fail (fault : Fault) : Logged α := ⟨.error fault, []⟩

/-- Log records. -/
def log (records : List LogRecord) : Logged Unit := ⟨.ok (), records⟩

/-- Take over a result or a fault. -/
def ofExcept (r : Except Fault α) : Logged α := ⟨r, []⟩

/-- A fault of the first step is the fault of both. -/
theorem bind_of_error {first : Logged α} {fault : Fault} (h : first.outcome = .error fault)
    (next : α → Logged β) : (first >>= next).outcome = .error fault := by
  simp [Bind.bind, Logged.bind, h]

/-- After a first step that succeeds, the second one decides. -/
theorem bind_of_ok {first : Logged α} {a : α} (h : first.outcome = .ok a)
    (next : α → Logged β) : (first >>= next).outcome = (next a).outcome := by
  simp [Bind.bind, Logged.bind, h]

/-- Logged steps come to what their results come to. -/
theorem outcome_bind (first : Logged α) (next : α → Logged β) :
    (first >>= next).outcome = first.outcome >>= fun a => (next a).outcome := by
  cases h : first.outcome with
  | error fault => exact bind_of_error h next
  | ok a => exact bind_of_ok h next

/-- Logging never fails. -/
@[simp] theorem outcome_log (records : List LogRecord) : (log records).outcome = .ok () := rfl

end Logged

end Interop
