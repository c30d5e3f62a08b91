import Mathlib.Data.List.TakeWhile
import Interop.Proofs.Plan

/-!
# Units that yield nothing

In the layout by unit, a backend is asked once for every unit that has output of its own, in order.
A unit for which it yields no template is a gap. What becomes of the units after the first gap, and
what is told of gaps, is a matter of policy; without a gap, all policies come to the same.
-/

namespace Interop

open Generation

namespace Backend

variable (b : Backend)

/-- The templates that a backend yields for a unit in the layout by unit. -/
def templatesFor (u : PlacedUnit) : List Template := b.templates .perUnit [u] (unitContext b u.2)

/-- Whether a backend yields anything for a unit. -/
def yields (u : PlacedUnit) : Bool := !(b.templatesFor u).isEmpty

/-- The output for a unit of a program. -/
def outputFor (p : Program) (u : PlacedUnit) : Output :=
  ⟨u.2, (b.templatesFor u).map (·.settled p)⟩

/-- The call for a unit: the unit alone, with the namespace and the library of its own module and
its own directory. -/
def callFor (u : PlacedUnit) : List Nat × GenerationContext :=
  ([u.1], { outputNamespace := (u.2.owner.bind (·.outputNamespace)).getD ""
            printer := b.printer
            library := u.2.owner
            includeDirectory := some u.2.includeDirectory })

/-- The first unit for which a backend yields nothing. -/
def gap? (units : List PlacedUnit) : Option PlacedUnit := units.find? fun u => !b.yields u

/-- The units before the first gap. -/
def front (units : List PlacedUnit) : List PlacedUnit := units.takeWhile b.yields

/-- The units up to the first gap, which is among them. -/
def reached (units : List PlacedUnit) : List PlacedUnit :=
  b.front units ++ (b.gap? units).toList

end Backend

/-- What can be told of generation from outside. -/
structure Account where
  /-- The outputs, or the fault that ended generation. -/
  outcome : Except Fault (List Output)
  /-- The calls of the backend. -/
  calls : List (List Nat × GenerationContext)
  /-- The warnings. -/
  warnings : List LogRecord

namespace Account

/-- What a plan of a generator comes to. -/
def ofPlan (g : GeneratorId) (plan : Plan) : Account :=
  ⟨plan.outcome, plan.entries.filterMap (Event.call? g), plan.entries.filterMap Event.warning?⟩

/-- What generation by unit comes to. Stopping keeps the outputs before the first gap and warns of
that gap alone; skipping leaves all gaps out and warns of each; failing ends at the first gap by a
fault that names it. -/
def byUnit (b : Backend) (p : Program) (units : List PlacedUnit) : EmptyPolicy → Account
  | .stop =>
    { outcome := .ok ((b.front units).map (b.outputFor p))
      calls := (b.reached units).map b.callFor
      warnings := (b.gap? units).toList.map fun u => Plan.stopWarning b u.2 }
  | .skip =>
    { outcome := .ok ((units.filter b.yields).map (b.outputFor p))
      calls := units.map b.callFor
      warnings := (units.filter fun u => !b.yields u).map fun u => Plan.skipWarning b u.2 }
  | .fail =>
    { outcome := match b.gap? units with
        | none => .ok (units.map (b.outputFor p))
        | some u => .error (.emptyOutput b.name u.2.filePath)
      calls := (b.reached units).map b.callFor
      warnings := [] }

end Account

section Steps

variable {g : GeneratorId} {b : Backend} {p : Program} {policy : EmptyPolicy} {u : PlacedUnit}

/-- A unit that yields something is called for, and its output comes first. A record on a processed
template is for debugging, so it is neither a call nor a warning. -/
theorem ofPlan_perUnit_of_yields (hu : p.units[u.1]? = some u.2) (hy : b.yields u = true)
    (hr : ∀ t ∈ b.templatesFor u, t.Renders p) (more : List Nat) :
    Account.ofPlan g (.perUnit g b p .perUnit policy (u.1 :: more)) =
      let rest := Account.ofPlan g (.perUnit g b p .perUnit policy more)
      ⟨(b.outputFor p u :: ·) <$> rest.outcome, b.callFor u :: rest.calls, rest.warnings⟩ := by
  have hprocessed : ∀ ts : List Template,
      (ts.map Plan.processedEntry).filterMap (Event.call? g) = [] ∧
        (ts.map Plan.processedEntry).filterMap Event.warning? = [] := fun ts => by
    constructor <;> simp [Plan.processedEntry]
  cases ht : b.templatesFor u with
  | nil => simp [Backend.yields, ht] at hy
  | cons t ts =>
    have hyield : b.templates .perUnit [(u.1, u.2)] (unitContext b u.2) = t :: ts := ht
    rw [ht] at hr
    have hp := Plan.processing_of_renders hr fun us =>
      Plan.output ⟨u.2, us⟩ (.note [.logged ⟨.debug, "Generated " ++ Nat.repr us.length ++
        " template(s) for " ++ u.2.filePath⟩] (.perUnit g b p .perUnit policy more))
    unfold Account.ofPlan
    rw [Plan.perUnit, hu]
    simp only [Plan.outcome, Plan.entries, hyield, hp.1, hp.2, List.filterMap_append, hprocessed,
      List.nil_append, Backend.outputFor, ht, List.filterMap_cons, List.filterMap_nil,
      Event.call?_requested, Event.call?_logged, Event.warning?_requested, Event.warning?_logged]
    rfl

/-- A unit that yields nothing is called for, and the policy says what comes of it. -/
theorem ofPlan_perUnit_of_gap (hu : p.units[u.1]? = some u.2) (hy : b.yields u = false)
    (more : List Nat) :
    Account.ofPlan g (.perUnit g b p .perUnit policy (u.1 :: more)) =
      match policy with
      | .stop => ⟨.ok [], [b.callFor u], [Plan.stopWarning b u.2]⟩
      | .skip =>
        let rest := Account.ofPlan g (.perUnit g b p .perUnit .skip more)
        ⟨rest.outcome, b.callFor u :: rest.calls, Plan.skipWarning b u.2 :: rest.warnings⟩
      | .fail => ⟨.error (.emptyOutput b.name u.2.filePath), [b.callFor u], []⟩ := by
  have hyield : b.templates .perUnit [(u.1, u.2)] (unitContext b u.2) = [] := by
    simpa [Backend.yields, Backend.templatesFor] using hy
  unfold Account.ofPlan
  rw [Plan.perUnit, hu]
  cases policy <;>
    simp only [Plan.outcome, Plan.entries, hyield, List.filterMap_append, List.filterMap_cons,
      List.filterMap_nil, Event.call?_requested, Event.call?_logged, Event.warning?_requested,
      Event.warning?_logged] <;> rfl

/-- A unit that yields something adds its call and its output to any account. -/
theorem byUnit_cons_of_yields (hy : b.yields u = true) (more : List PlacedUnit) :
    Account.byUnit b p (u :: more) policy =
      let rest := Account.byUnit b p more policy
      ⟨(b.outputFor p u :: ·) <$> rest.outcome, b.callFor u :: rest.calls, rest.warnings⟩ := by
  have hg : b.gap? (u :: more) = b.gap? more := by simp [Backend.gap?, hy]
  have hf : b.front (u :: more) = u :: b.front more := by simp [Backend.front, hy]
  have hq : b.reached (u :: more) = u :: b.reached more := by simp [Backend.reached, hf, hg]
  cases policy with
  | stop => simp only [Account.byUnit, hg, hf, hq, List.map_cons]; rfl
  | skip =>
    have hk : (u :: more).filter b.yields = u :: more.filter b.yields := by simp [hy]
    have hd : ((u :: more).filter fun v => !b.yields v) = more.filter fun v => !b.yields v := by
      simp [hy]
    simp only [Account.byUnit, hk, hd, List.map_cons]
    rfl
  | fail =>
    simp only [Account.byUnit, hg, hq, List.map_cons]
    cases b.gap? more <;> rfl

/-- A unit that yields nothing is the first gap. -/
theorem byUnit_cons_of_gap (hy : b.yields u = false) (more : List PlacedUnit) :
    Account.byUnit b p (u :: more) policy =
      match policy with
      | .stop => ⟨.ok [], [b.callFor u], [Plan.stopWarning b u.2]⟩
      | .skip =>
        let rest := Account.byUnit b p more .skip
        ⟨rest.outcome, b.callFor u :: rest.calls, Plan.skipWarning b u.2 :: rest.warnings⟩
      | .fail => ⟨.error (.emptyOutput b.name u.2.filePath), [b.callFor u], []⟩ := by
  have hg : b.gap? (u :: more) = some u := by simp [Backend.gap?, hy]
  have hf : b.front (u :: more) = [] := by simp [Backend.front, hy]
  have hq : b.reached (u :: more) = [u] := by simp [Backend.reached, hf, hg]
  cases policy with
  | stop => simp only [Account.byUnit, hg, hf, hq]; rfl
  | skip =>
    have hk : (u :: more).filter b.yields = more.filter b.yields := by simp [hy]
    have hd : ((u :: more).filter fun v => !b.yields v) =
        u :: more.filter fun v => !b.yields v := by simp [hy]
    simp only [Account.byUnit, hk, hd, List.map_cons]
  | fail => simp only [Account.byUnit, hg, hq]; rfl

/-- Units one after the other come to what the policy says of the whole list. -/
theorem ofPlan_perUnit (units : List PlacedUnit) (hu : ∀ u ∈ units, p.units[u.1]? = some u.2)
    (hr : ∀ u ∈ units, ∀ t ∈ b.templatesFor u, t.Renders p) :
    Account.ofPlan g (.perUnit g b p .perUnit policy (units.map Prod.fst)) =
      Account.byUnit b p units policy := by
  induction units with
  | nil => cases policy <;> rfl
  | cons u more ih =>
    have hm := ih (fun v hv => hu v (List.mem_cons_of_mem u hv))
      (fun v hv => hr v (List.mem_cons_of_mem u hv))
    have hu' := hu u List.mem_cons_self
    rw [List.map_cons]
    cases hy : b.yields u with
    | true =>
      rw [ofPlan_perUnit_of_yields hu' hy (hr u List.mem_cons_self), hm, byUnit_cons_of_yields hy]
    | false =>
      rw [ofPlan_perUnit_of_gap hu' hy, byUnit_cons_of_gap hy]
      cases policy with
      | stop => rfl
      | skip => rw [hm]
      | fail => rfl

/-- Without a gap, the outcome is the same under all policies: the outputs of all units. -/
theorem outcome_byUnit_of_yields {units : List PlacedUnit} (h : ∀ u ∈ units, b.yields u = true) :
    (Account.byUnit b p units policy).outcome = .ok (units.map (b.outputFor p)) := by
  have hg : b.gap? units = none := List.find?_eq_none.2 fun u hu => by simp [h u hu]
  have hf : b.front units = units := List.takeWhile_eq_self_iff.2 h
  have hk : units.filter b.yields = units := List.filter_eq_self.2 h
  cases policy with
  | stop => simp only [Account.byUnit, hf]
  | skip => simp only [Account.byUnit, hk]
  | fail => simp only [Account.byUnit, hg]

end Steps

/-- Generation by unit, before an onlooker and with templates that can be processed, comes to what
the policy says of the units that have output of their own, in order: the outputs or the fault, the
calls of the backend, one unit at a time, and the warnings. Without a gap the policy makes no
difference to the outputs. -/
theorem generate_perUnit_account {g : GeneratorId} {b : Backend} {notify : Output → Action Unit}
    {s : Session} (hlayout : b.layout s.options = .perUnit) (hnotify : Observer notify)
    (hrender : ∀ u ∈ s.program.eligibleUnits, ∀ t ∈ b.templatesFor u, t.Renders s.program) :
    let units := s.program.eligibleUnits
    let account := Account.byUnit b s.program units s.options.policy
    let r := generate g b notify s
    (r.1 = account.outcome ∧ r.2.calls g = s.calls g ++ account.calls ∧
      r.2.warnings = s.warnings ++ account.warnings) ∧
    ((∀ u ∈ units, b.yields u = true) → r.1 = .ok (units.map (b.outputFor s.program))) := by
  have hplan : Account.ofPlan g (.generation g b s.program s.options) =
      Account.byUnit b s.program s.program.eligibleUnits s.options.policy := by
    rw [Plan.generation, hlayout]
    dsimp only
    rw [Program.eligiblePositions_eq]
    exact ofPlan_perUnit _ (fun u => Program.getElem?_of_mem_eligibleUnits) hrender
  obtain ⟨hout, hcalls, hwarnings⟩ := hnotify.generate g b s
  have h1 := congrArg Account.outcome hplan
  refine ⟨⟨hout.trans h1, ?_, ?_⟩, fun hy => ?_⟩
  · rw [hcalls]
    exact congrArg (s.calls g ++ ·) (congrArg Account.calls hplan)
  · rw [hwarnings]
    exact congrArg (s.warnings ++ ·) (congrArg Account.warnings hplan)
  · exact (hout.trans h1).trans (outcome_byUnit_of_yields hy)

/-- A session with three units, the second of which has nothing to show. -/
def gapSession : Session :=
  .start ⟨.csharp, false, none, .stop⟩ (.ofModules [.ofUnits ⟨"Core", none⟩
    [.ofEnumerations "a.h" ["A"] true, .ofEnumerations "b.h" ["B"] false,
      .ofEnumerations "c.h" ["C"] true]])

/-- Where the second of three units is a gap, stopping leaves one output, two calls and one
warning. -/
theorem generate_perUnit_account_gapSession :
    Backend.csharp.layout gapSession.options = .perUnit ∧
    (∀ u ∈ gapSession.program.eligibleUnits, ∀ t ∈ Backend.csharp.templatesFor u,
      t.Renders gapSession.program) ∧
    let r := generate 0 .csharp (fun _ => pure ()) gapSession
    r.1.toOption.map (·.map (·.unit.filePath)) = some ["a.h"] ∧
    (r.2.calls 0).map Prod.fst = [[0], [1]] ∧
    r.2.warnings = [⟨.warning, "CSharpGenerator produced no templates for 'b.h', " ++
      "stopping generation of the remaining units"⟩] := by
  have hrender : ∀ u ∈ gapSession.program.eligibleUnits, ∀ t ∈ Backend.csharp.templatesFor u,
      t.Renders gapSession.program := by decide +kernel
  have h := (generate_perUnit_account (g := 0) (b := .csharp) (s := gapSession) rfl
    observer_ignore hrender).1
  refine ⟨rfl, hrender, ?_, ?_, ?_⟩
  · rw [h.1]
    decide +kernel
  · rw [h.2.1]
    decide +kernel
  · rw [h.2.2]
    decide +kernel

end Interop
