import Interop.Printers
import Interop.Value

/-!
# Scripts over active printers

A script makes printers active, gives them up, prints, fails, and runs blocks inside which a printer
is installed. The trace of a script tells after every step what happened and which printers are
active, and for every print which printer was in force.
-/

namespace Interop.Printers

/-- One step of a script. -/
inductive Step (δ : Type) where
  /-- Make a printer active. -/
  | subscribe (printer : δ)
  /-- Give a printer up. -/
  | unsubscribe (printer : δ)
  /-- Print the type that a datum spells. -/
  | print (spelling : Value)
  /-- Run steps while a printer is installed. -/
  | within (printer : δ) (body : List (Step δ))
  /-- Fail. -/
  | fail

/-- What a step did. -/
inductive Happening (δ : Type) where
  | subscribed
  | unsubscribed (wasActive : Bool)
  | printed (printer : Option δ) (spelling : Value)
  | entered (printer : δ)
  | left
  | failed

/-- What a step did, and the printers active afterwards. -/
structure Entry (δ : Type) where
  /-- What happened. -/
  happening : Happening δ
  /-- The printers active afterwards. -/
  printers : Printers δ

/-- The trace of a script. -/
structure Trace (δ : Type) where
  /-- What happened, in order. -/
  entries : List (Entry δ)
  /-- The printers active in the end. -/
  printers : Printers δ
  /-- Whether the script ended by a failure. -/
  failed : Bool

variable {δ : Type} [DecidableEq δ]

mutual

/-- Run one step. A block gives its printer up on every way out. -/
def Step.run (p : Printers δ) : Step δ → Trace δ
  | .subscribe d => ⟨[⟨.subscribed, p.subscribe d⟩], p.subscribe d, false⟩
  | .unsubscribe d => ⟨[⟨.unsubscribed (p.isActive d), p.unsubscribe d⟩], p.unsubscribe d, false⟩
  | .print spelling => ⟨[⟨.printed p.current? spelling, p⟩], p, false⟩
  | .fail => ⟨[], p, true⟩
  | .within d body =>
    let inner := runSteps (p.subscribe d) body
    let after := inner.printers.unsubscribe d
    ⟨⟨.entered d, p.subscribe d⟩ :: inner.entries ++ [⟨.left, after⟩], after, inner.failed⟩

/-- Run steps in order, up to the first failure. -/
def runSteps (p : Printers δ) : List (Step δ) → Trace δ
  | [] => ⟨[], p, false⟩
  | step :: rest =>
    let first := step.run p
    if first.failed then first
    else
      let more := runSteps first.printers rest
      ⟨first.entries ++ more.entries, more.printers, more.failed⟩

end

/-- Run steps one after the other, each failure being noted and overcome. -/
def runEach (p : Printers δ) : List (Step δ) → List (Entry δ)
  | [] => []
  | step :: rest =>
    let first := step.run p
    first.entries ++ (if first.failed then [⟨.failed, first.printers⟩] else []) ++
      runEach first.printers rest

end Interop.Printers
