import Interop.Printers.Script
import Interop.CType.Printer
import Mathlib.Data.List.Basic

/-!
# Printers of nested blocks

A script that makes printers active in blocks only leaves the active printers as they were, on every
way out. Which printer is in force at a print can be seen in the text of the script: it is the one
of the innermost block around the print.
-/

namespace Interop.Printers

variable {δ : Type}

/-- A step that prints or fails, or a block of such steps. -/
inductive Step.IsScoped : Step δ → Prop
  | print (spelling : Value) : IsScoped (.print spelling)
  | fail : IsScoped .fail
  | within (printer : δ) {body : List (Step δ)} (h : ∀ step ∈ body, IsScoped step) :
      IsScoped (.within printer body)

/-- A place in the text of a script at which it prints or fails. -/
structure Place (δ : Type) where
  /-- The printers of the blocks around the place, outermost first. -/
  around : List δ
  /-- What is printed; nothing if the script fails here. -/
  print? : Option Value

/-- Whether a script fails at a place. -/
def Place.fails (place : Place δ) : Bool := place.print?.isNone

mutual

/-- The places in a step that stands in blocks. -/
def Step.places (around : List δ) : Step δ → List (Place δ)
  | .print spelling => [⟨around, some spelling⟩]
  | .fail => [⟨around, none⟩]
  | .within printer body => placesIn (around ++ [printer]) body
  | .subscribe _ => []
  | .unsubscribe _ => []

/-- The places in steps that stand in blocks, in the order of the text. -/
def placesIn (around : List δ) : List (Step δ) → List (Place δ)
  | [] => []
  | step :: rest => step.places around ++ placesIn around rest

end

/-- A print, with the printers at that moment. -/
structure Print (δ : Type) where
  /-- The printer in force. -/
  printer : Option δ
  /-- What is printed. -/
  spelling : Value
  /-- The active printers. -/
  active : List δ

/-- The print that an entry of a trace is. -/
def Entry.print? (e : Entry δ) : Option (Print δ) :=
  match e.happening with
  | .printed printer spelling => some ⟨printer, spelling, e.printers.active⟩
  | _ => none

/-- The prints of a trace. -/
def Trace.prints (t : Trace δ) : List (Print δ) := t.entries.filterMap Entry.print?

/-- The print at a place of a script that starts with active printers. -/
def Place.print (active : List δ) (place : Place δ) : Option (Print δ) :=
  place.print?.map fun spelling =>
    ⟨place.around.getLast?.or active.getLast?, spelling, active ++ place.around⟩

/-- The prints at the places up to the first failure. -/
def printsAt (active : List δ) (places : List (Place δ)) : List (Print δ) :=
  (places.takeWhile (!·.fails)).filterMap (Place.print active)

section Places

variable {active : List δ}

/-- A place is reached if no place before it fails. -/
theorem printsAt_cons (place : Place δ) (rest : List (Place δ)) :
    printsAt active (place :: rest) =
      if place.fails then [] else (place.print active).toList ++ printsAt active rest := by
  unfold printsAt
  rw [List.takeWhile_cons]
  cases place.fails with
  | true => rfl
  | false => cases h : place.print active <;> simp [h]

/-- Places are reached if no place before them fails. -/
theorem printsAt_append (first more : List (Place δ)) :
    printsAt active (first ++ more) =
      printsAt active first ++ if first.any Place.fails then [] else printsAt active more := by
  induction first with
  | nil => rfl
  | cons place rest ih =>
    rw [List.cons_append, printsAt_cons, printsAt_cons, ih, List.any_cons]
    cases place.fails with
    | true => rfl
    | false => exact (List.append_assoc ..).symm

end Places

variable [DecidableEq δ]

/-- Whether a trace is what the places of a script tell: the active printers are left as they were,
the script fails if one of the places does, and it prints at the places before. -/
structure Trace.Follows (t : Trace δ) (active around : List δ) (places : List (Place δ)) :
    Prop where
  /-- The active printers are what they were. -/
  restored : t.printers = ⟨active ++ around⟩
  /-- The script fails if it fails at a place. -/
  failed : t.failed = places.any Place.fails
  /-- The prints are those at the places up to the first failure. -/
  prints : t.prints = printsAt active places

/-- Steps follow their places if each of them does. -/
theorem follows_runSteps {active : List δ} {steps : List (Step δ)} {around : List δ}
    (h : ∀ step ∈ steps, (step.run ⟨active ++ around⟩).Follows active around (step.places around)) :
    (runSteps ⟨active ++ around⟩ steps).Follows active around (placesIn around steps) := by
  induction steps with
  | nil => exact ⟨rfl, rfl, rfl⟩
  | cons step rest ih =>
    obtain ⟨hstep, hrest⟩ := List.forall_mem_cons.1 h
    rw [runSteps, placesIn]
    dsimp only
    split
    · rename_i hfailed
      have hany : (step.places around).any Place.fails = true := hstep.failed ▸ hfailed
      exact ⟨hstep.restored, by rw [hstep.failed, List.any_append, hany]; rfl,
        by rw [hstep.prints, printsAt_append, hany, if_pos rfl, List.append_nil]⟩
    · rename_i hfailed
      have hany : (step.places around).any Place.fails = false := by
        rw [← hstep.failed, Bool.eq_false_iff]
        exact hfailed
      have hmore := ih hrest
      rw [hstep.restored]
      refine ⟨hmore.restored, ?_, ?_⟩
      · rw [List.any_append, hany, Bool.false_or]
        exact hmore.failed
      · rw [printsAt_append, hany, if_neg Bool.false_ne_true, ← hstep.prints, ← hmore.prints]
        exact List.filterMap_append

/-- A scoped step follows its places, in whatever blocks it stands. Neither entering nor leaving a
block is a print. -/
theorem Step.IsScoped.follows {active : List δ} {step : Step δ} (h : step.IsScoped) :
    ∀ around, (step.run ⟨active ++ around⟩).Follows active around (step.places around) := by
  induction h with
  | print spelling =>
    intro around
    refine ⟨rfl, rfl, ?_⟩
    have hprinter : (Printers.mk (active ++ around)).current? =
        around.getLast?.or active.getLast? := List.getLast?_append
    rw [Step.run, hprinter]
    rfl
  | fail => exact fun around => ⟨rfl, rfl, rfl⟩
  | @within printer body _ ih =>
    intro around
    have hbody := follows_runSteps fun step hstep => ih step hstep (around ++ [printer])
    have hentered : Printers.subscribe printer ⟨active ++ around⟩ =
        ⟨active ++ (around ++ [printer])⟩ := congrArg _ (List.append_assoc ..)
    rw [Step.run, hentered, Step.places]
    refine ⟨?_, hbody.failed, ?_⟩
    · exact (congrArg _ (hbody.restored.trans hentered.symm)).trans (unsubscribe_subscribe ..)
    · rw [← hbody.prints]
      refine (List.filterMap_cons_none rfl).trans ?_
      exact List.filterMap_append.trans (List.append_nil _)

/-- How types are written while a printer is in force, or in C while none is. -/
def writerOf (write : δ → CType.Printer) : Option δ → CType.Printer
  | some printer => write printer
  | none => CType.spelling

/-- How types are written at a place of a script: by the printer of the innermost block around it,
by the one that was in force before the script if it stands in no block, and in C if there was
none. -/
def Place.writer (write : δ → CType.Printer) (active : List δ) (place : Place δ) : CType.Printer :=
  match place.around.getLast?, active.getLast? with
  | some printer, _ => write printer
  | none, some printer => write printer
  | none, none => CType.spelling

/-- A script of prints, failures and blocks leaves the active printers as they were, whether it
fails or not. It fails if it fails at one of its places, and what it prints up to there is printed
at each place by the printer of the innermost block around it, or else by the one in force before,
or else in C. -/
theorem runSteps_scoped {p : Printers δ} {steps : List (Step δ)}
    (h : ∀ step ∈ steps, step.IsScoped) :
    (runSteps p steps).printers = p ∧
    (runSteps p steps).failed = (placesIn [] steps).any Place.fails ∧
    (runSteps p steps).prints = printsAt p.active (placesIn [] steps) ∧
    ∀ write : δ → CType.Printer,
      (runSteps p steps).prints.map (fun r => (writerOf write r.printer, r.spelling)) =
        ((placesIn [] steps).takeWhile (!·.fails)).filterMap fun place =>
          place.print?.map fun spelling => (place.writer write p.active, spelling) := by
  have hp : p = ⟨p.active ++ []⟩ := by rw [List.append_nil]
  have hfollows : (runSteps ⟨p.active ++ []⟩ steps).Follows p.active [] (placesIn [] steps) :=
    follows_runSteps fun step hstep => (h step hstep).follows []
  rw [← hp] at hfollows
  refine ⟨hfollows.restored.trans hp.symm, hfollows.failed, hfollows.prints, fun write => ?_⟩
  rw [hfollows.prints, printsAt, List.map_filterMap]
  refine List.filterMap_congr fun place _ => ?_
  unfold Place.print Place.writer
  cases place.print? with
  | none => rfl
  | some spelling =>
    cases place.around.getLast? <;> cases p.active.getLast? <;> rfl

/-- A script whose blocks have one printer, inside which it fails. -/
def nestedSteps : List (Step Nat) :=
  [.print .null, .within 2 [.print .null, .within 1 [.within 2 [.print .null], .print .null, .fail],
    .print .null], .print .null]

/-- While the printers 1, 2 and 1 are active, this script fails with these three active again, and
its prints are done by 1, by 2 twice, and by 1. -/
theorem runSteps_scoped_nested :
    (∀ step ∈ nestedSteps, step.IsScoped) ∧
    (runSteps ⟨[1, 2, 1]⟩ nestedSteps).printers = ⟨[1, 2, 1]⟩ ∧
    (runSteps ⟨[1, 2, 1]⟩ nestedSteps).failed = true ∧
    (runSteps ⟨[1, 2, 1]⟩ nestedSteps).prints =
      [⟨some 1, .null, [1, 2, 1]⟩, ⟨some 2, .null, [1, 2, 1, 2]⟩,
        ⟨some 2, .null, [1, 2, 1, 2, 1, 2]⟩, ⟨some 1, .null, [1, 2, 1, 2, 1]⟩] := by
  have hscoped : ∀ step ∈ nestedSteps, step.IsScoped := by
    simp only [nestedSteps, List.forall_mem_cons, List.not_mem_nil, false_implies, implies_true,
      and_true]
    refine ⟨.print _, .within _ ?_, .print _⟩
    simp only [List.forall_mem_cons, List.not_mem_nil, false_implies, implies_true, and_true]
    refine ⟨.print _, .within _ ?_, .print _⟩
    simp only [List.forall_mem_cons, List.not_mem_nil, false_implies, implies_true, and_true]
    refine ⟨.within _ ?_, .print _, .fail⟩
    exact List.forall_mem_cons.2 ⟨.print _, nofun⟩
  obtain ⟨hrestored, hfailed, hprints, -⟩ := runSteps_scoped (p := ⟨[1, 2, 1]⟩) hscoped
  exact ⟨hscoped, hrestored, hfailed, hprints⟩

end Interop.Printers
