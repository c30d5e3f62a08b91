import Mathlib.Data.List.TakeWhile
import Interop.Proofs.Shipped

/-!
# Production module by module

In the layout by module a backend is asked once for every module, in order, with all of the module's
units, and must yield exactly one template each time. The first module for which it yields another
number ends production by a fault. What was asked and told before stays: the output of every module
in front of it was complete and reported before the next module was asked for.
-/

namespace Interop

open Session Generation

/-- What a generator asks of its backend, and what it tells the one who takes its outputs. -/
inductive Exchange where
  /-- The backend is asked for the templates of some units. -/
  | asked (units : List SourceUnit) (context : GenerationContext)
  /-- An output is reported. -/
  | told (output : Output)

/-- The exchange of a generator that an entry tells of, in a program. -/
def Event.exchange? (p : Program) (g : GeneratorId) : Event → Option Exchange
  | .logged _ => none
  | .requested h positions context =>
    if h = g then some (.asked (p.unitsAt positions) context) else none
  | .reported h output _ => if h = g then some (.told output) else none

/-- The exchanges of a generator so far, in order. -/
def Session.exchanges (s : Session) (g : GeneratorId) : List Exchange :=
  s.journal.filterMap (Event.exchange? s.program g)

/-- Somebody who takes the outputs of a generator without failing, leaves program and options alone
and has no part in the generator's exchanges. What else the telling does is left open. Success is
asked for in every session. Whoever succeeds in the run at hand can be replaced by a listener
(`listener_unfailing`), before whom generation goes the same way (`generate_unfailing`). -/
structure Listener (g : GeneratorId) (notify : Output → Action Unit) : Prop where
  /-- No telling fails. -/
  succeeds : ∀ o s, (notify o s).1 = .ok ()
  /-- The program stays as it is. -/
  program : ∀ o, Action.Keeps Session.program (notify o)
  /-- The options stay as they are. -/
  options : ∀ o, Action.Keeps Session.options (notify o)
  /-- The generator asks and tells nothing meanwhile. -/
  exchanges : ∀ o, Action.Keeps (fun s => s.exchanges g) (notify o)

/-- Somebody who may fail, but touches nothing that a listener leaves alone, listens if no failing
is heeded. -/
theorem listener_unfailing {g : GeneratorId} {notify : Output → Action Unit}
    (hp : ∀ o, Action.Keeps Session.program (notify o))
    (ho : ∀ o, Action.Keeps Session.options (notify o))
    (he : ∀ o, Action.Keeps (fun s => s.exchanges g) (notify o)) : Listener g (unfailing notify) :=
  ⟨fun _ _ => rfl, hp, ho, he⟩

/-- The exchanges that a plan of a generator leads to, in order. -/
def Plan.exchanges (p : Program) (g : GeneratorId) : Plan → List Exchange
  | done | fail _ => []
  | note entries rest => entries.filterMap (Event.exchange? p g) ++ rest.exchanges p g
  | output o rest => .told o :: rest.exchanges p g

/-- Entries add the exchanges that they tell of. -/
theorem Session.exchanges_noted (es : List Event) (s : Session) (g : GeneratorId) :
    (s.noted es).exchanges g = s.exchanges g ++ es.filterMap (Event.exchange? s.program g) := by
  unfold exchanges
  rw [noted_journal, List.filterMap_append]
  rfl

section Exchanges

variable {g : GeneratorId} {notify : Output → Action Unit}

/-- A report to a listener succeeds, leaves the program alone and adds itself to the exchanges. -/
theorem Listener.report (hn : Listener g notify) (o : Output) (s : Session) :
    ∃ t, report g notify o s = (.ok (), t) ∧ t.program = s.program ∧
      t.exchanges g = s.exchanges g ++ [.told o] := by
  let told := s.noted [.reported g o s.printers.current?]
  refine ⟨(notify o told).2, Prod.ext (hn.succeeds o told) rfl, hn.program o told, ?_⟩
  refine (hn.exchanges o told).trans ((exchanges_noted _ s g).trans ?_)
  rw [List.filterMap_cons, Event.exchange?, if_pos rfl]
  rfl

/-- Before a listener, carrying out a plan adds the exchanges of the plan. -/
theorem Listener.exchanges_carryOut (hn : Listener g notify) (plan : Plan) (s : Session) :
    (plan.carryOut g notify s).2.exchanges g = s.exchanges g ++ plan.exchanges s.program g := by
  induction plan generalizing s with
  | done => exact (List.append_nil _).symm
  | fail fault => exact (List.append_nil _).symm
  | note es rest ih =>
    have h := ih (s.noted es)
    rw [exchanges_noted, List.append_assoc] at h
    exact h
  | output o rest ih =>
    obtain ⟨t, ht, hprogram, htold⟩ := hn.report o s
    have hrest := ih t
    rw [htold, hprogram, List.append_assoc] at hrest
    rw [Plan.carryOut, Action.bind_of_ok ht]
    rcases hc : rest.carryOut g notify t with ⟨_ | outputs, t'⟩
    · rw [hc] at hrest
      rw [Action.bind_of_error hc]
      exact hrest
    · rw [hc] at hrest
      rw [Action.bind_of_ok hc]
      exact hrest

/-- Before a listener, generation gives the outcome of its plan and adds the plan's exchanges. -/
theorem Listener.generate (hn : Listener g notify) (b : Backend) (s : Session) :
    let plan := Plan.generation g b s.program s.options
    let r := Generation.generate g b notify s
    r.1 = plan.outcome ∧ r.2.exchanges g = s.exchanges g ++ plan.exchanges s.program g := by
  have h := generate_eq_carryOut g b hn.program hn.options s
  let start := productionStart g (openingRemark b s) s
  have hexchanges := hn.exchanges_carryOut (Plan.generation g b s.program s.options) start
  have hstart : start.exchanges g = s.exchanges g :=
    (exchanges_noted [.logged ⟨.debug, openingRemark b s⟩] s g).trans (List.append_nil _)
  rw [hstart] at hexchanges
  dsimp only
  rw [h, Action.ensuring_apply]
  exact ⟨carryOut_fst g hn.succeeds _ _, hexchanges⟩

/-- Before somebody who may fail, but touches nothing that a listener leaves alone, generation does
what it does before a listener, unless a telling fails; then it ends by the fault of that
telling. -/
theorem exchanges_of_keeps (hp : ∀ o, Action.Keeps Session.program (notify o))
    (ho : ∀ o, Action.Keeps Session.options (notify o))
    (he : ∀ o, Action.Keeps (fun s => s.exchanges g) (notify o)) (b : Backend) (s : Session) :
    let plan := Plan.generation g b s.program s.options
    let r := Generation.generate g b notify s
    (r.1 = plan.outcome ∧ r.2.exchanges g = s.exchanges g ++ plan.exchanges s.program g) ∨
      ∃ o ∈ plan.reported, ∃ m fault, (notify o m).1 = .error fault ∧ r.1 = .error fault := by
  dsimp only
  rcases generate_unfailing g b hp ho s with hsame | hfault
  · rw [hsame]
    exact .inl ((listener_unfailing hp ho he).generate b s)
  · exact .inr hfault

end Exchanges

namespace Backend

variable (b : Backend) (p : Program)

variable {b p}

end Backend

namespace Plan

variable {g : GeneratorId} {b : Backend} {p : Program} {m : Module × List Nat}
  {more : List (Module × List Nat)}

end Plan

end Interop
