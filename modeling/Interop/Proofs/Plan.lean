import Interop.Generation
import Interop.Proofs.Action
import Interop.Proofs.Program

/-!
# Production, planned in advance

A generator works on the program while somebody else takes its outputs. A plan tells the generator's
own part in advance: entries of the journal, outputs, and how it all ends. Production in either
layout carries out the plan of its program, whoever takes the outputs, as long as program and
options are left alone meanwhile. What becomes of outputs, and what the journal tells, can then be
read off the plan. A telling that fails ends production; up to there it goes as if none could fail.
-/

namespace Interop

open Session Generation

/-- What production does, in order, up to its end or a fault. -/
inductive Plan where
  /-- Nothing is left to do. -/
  | done
  /-- Production ends by a fault. -/
  | fail (fault : Fault)
  /-- Production makes entries in the journal. -/
  | note (entries : List Event) (rest : Plan)
  /-- An output is complete and is reported. -/
  | output (o : Output) (rest : Plan)

namespace Plan

/-- Do what a plan says; somebody is told of every output as soon as it is complete. -/
def carryOut (g : GeneratorId) (notify : Output → Action Unit) : Plan → Action (List Output)
  | done => return []
  | fail fault => Action.fail fault
  | note entries rest => do
    Action.modify (noted entries)
    carryOut g notify rest
  | output o rest => do
    report g notify o
    let outputs ← carryOut g notify rest
    return o :: outputs

/-- What production gives if nobody stands in its way. -/
def outcome : Plan → Except Fault (List Output)
  | done => .ok []
  | fail fault => .error fault
  | note _ rest => rest.outcome
  | output o rest => (o :: ·) <$> rest.outcome

/-- The entries that production itself makes. -/
def entries : Plan → List Event
  | done | fail _ => []
  | note es rest => es ++ rest.entries
  | output _ rest => rest.entries

/-- The outputs that a plan reports before its end. -/
def reported : Plan → List Output
  | done | fail _ => []
  | note _ rest => rest.reported
  | output o rest => o :: rest.reported

/-- The entry on a template whose text was fixed. -/
def processedEntry (t : Template) : Event :=
  .logged ⟨.debug, "Processed template " ++ t.form.name ++ " (" ++
    Nat.repr (t.text?.getD "").length ++ " characters)"⟩

/-- The entries on a template that was refused. -/
def refusalEntries : TemplateFault → List Event
  | .render reason => (reason.remark?.map fun remark => Event.logged ⟨.error, remark⟩).toList
  | _ => []

/-- Fix the texts of templates in order, and go on with them. -/
def processing (p : Program) : List Template → (List Template → Plan) → Plan
  | [], next => next []
  | t :: more, next =>
    match t.process p with
    | .ok u => note [processedEntry u] (processing p more fun us => next (u :: us))
    | .error fault => note (refusalEntries fault) (fail (.template fault))

/-- The warning on a unit that is left out. -/
def skipWarning (backend : Backend) (unit : SourceUnit) : LogRecord :=
  ⟨.warning, Fault.emptyMessage backend.name unit.filePath ++ ", skipping it"⟩

/-- The warning on a unit with which generation ends. -/
def stopWarning (backend : Backend) (unit : SourceUnit) : LogRecord :=
  ⟨.warning, Fault.emptyMessage backend.name unit.filePath ++
    ", stopping generation of the remaining units"⟩

/-- The plan for some units, one output for each. -/
def perUnit (g : GeneratorId) (backend : Backend) (p : Program) (layout : Layout)
    (policy : EmptyPolicy) : List Nat → Plan
  | [] => done
  | position :: more =>
    match p.units[position]? with
    | none => perUnit g backend p layout policy more
    | some unit =>
      let context := unitContext backend unit
      note [.requested g [position] context] <|
        match backend.templates layout [(position, unit)] context with
        | [] =>
          match policy with
          | .fail => fail (.emptyOutput backend.name unit.filePath)
          | .skip => note [.logged (skipWarning backend unit)]
              (perUnit g backend p layout policy more)
          | .stop => note [.logged (stopWarning backend unit)] done
        | t :: ts => processing p (t :: ts) fun us =>
            output ⟨unit, us⟩ (note [.logged ⟨.debug, "Generated " ++ Nat.repr us.length ++
              " template(s) for " ++ unit.filePath⟩] (perUnit g backend p layout policy more))

/-- The plan for some modules, one output for each. -/
def singleFile (g : GeneratorId) (backend : Backend) (p : Program) (layout : Layout) :
    List (Module × List Nat) → Plan
  | [] => done
  | (module, positions) :: more =>
    let context := moduleContext backend module.toLibrary
    let file := module.outputFileName backend.extension
    note [.requested g positions context] <|
      match backend.templates layout (p.placedAt positions) context with
      | [t] => processing p [t] fun us =>
          output ⟨.synthetic file module.toLibrary, us⟩ (note [.logged ⟨.debug, "Generated " ++
            file ++ " from " ++ Nat.repr module.units.length ++ " unit(s)"⟩]
              (singleFile g backend p layout more))
      | other => fail (.contract backend.name module.name file other.length)

/-- The plan for a whole program. -/
def generation (g : GeneratorId) (backend : Backend) (p : Program) (o : Options) : Plan :=
  match backend.layout o with
  | .perUnit => perUnit g backend p .perUnit o.policy p.eligiblePositions
  | .singleFile => singleFile g backend p .singleFile p.placedModules

end Plan

/-- A template that can be processed is, and the journal tells so. -/
theorem processTemplate_of_ok {s : Session} {t u : Template} (h : t.process s.program = .ok u) :
    processTemplate t s = (.ok u, s.noted [Plan.processedEntry u]) := by
  unfold processTemplate
  rw [Action.get_bind, h]
  rfl

/-- A template that is refused ends production by the same fault. -/
theorem processTemplate_of_error {s : Session} {t : Template} {fault : TemplateFault}
    (h : t.process s.program = .error fault) :
    processTemplate t s = (.error (.template fault), s.noted (Plan.refusalEntries fault)) := by
  unfold processTemplate
  rw [Action.get_bind, h]
  cases fault with
  | unprocessed name => exact Prod.ext rfl (noted_nil s).symm
  | processed name => exact Prod.ext rfl (noted_nil s).symm
  | render reason =>
    cases hr : reason.remark? with
    | none =>
      simp only [hr, Plan.refusalEntries, Option.map_none, Option.toList_none, noted_nil]
      rfl
    | some remark =>
      simp only [hr, Plan.refusalEntries, Option.map_some, Option.toList_some]
      rfl

/-- Processing templates one after the other carries out the plan to process them. -/
theorem carryOut_processing (g : GeneratorId) (notify : Output → Action Unit)
    (ts : List Template) (next : List Template → Plan) (s : Session) :
    (Plan.processing s.program ts next).carryOut g notify s =
      (processTemplates ts >>= fun us => (next us).carryOut g notify) s := by
  induction ts generalizing next s with
  | nil => rfl
  | cons t more ih =>
    rw [Plan.processing, processTemplates]
    simp only [bind_assoc, pure_bind]
    cases h : t.process s.program with
    | ok u =>
      rw [Action.bind_of_ok (processTemplate_of_ok h)]
      exact ih (fun us => next (u :: us)) (s.noted [Plan.processedEntry u])
    | error fault =>
      rw [Action.bind_of_error (processTemplate_of_error h)]
      rfl

section Production

variable (g : GeneratorId) (backend : Backend) {notify : Output → Action Unit}

/-- Whoever is told of an output leaves the program alone if the one who takes it does. -/
theorem keeps_report {γ : Type} (view : Session → γ)
    (hv : ∀ es s, view (noted es s) = view s) {o : Output}
    (hn : Action.Keeps view (notify o)) : Action.Keeps view (report g notify o) := by
  intro s
  have h := hn (s.noted [.reported g o s.printers.current?])
  rwa [hv] at h

/-- Processing a template makes entries in the journal and touches nothing else. -/
theorem keeps_processTemplate {γ : Type} (view : Session → γ)
    (hv : ∀ es s, view (noted es s) = view s) (t : Template) :
    Action.Keeps view (processTemplate t) := by
  intro s
  cases h : t.process s.program with
  | ok u => rw [processTemplate_of_ok h, hv]
  | error fault => rw [processTemplate_of_error h, hv]

/-- Processing templates makes entries in the journal and touches nothing else. -/
theorem keeps_processTemplates {γ : Type} (view : Session → γ)
    (hv : ∀ es s, view (noted es s) = view s) (ts : List Template) :
    Action.Keeps view (processTemplates ts) := by
  induction ts with
  | nil => exact Action.keeps_pure view _
  | cons t more ih =>
    exact (keeps_processTemplate view hv t).bind fun u => ih.bind fun us => Action.keeps_pure view _

/-- A request is an entry of the journal, and gives what the backend yields. -/
theorem requestTemplates_apply (positions : List Nat) (context : GenerationContext)
    (s : Session) :
    requestTemplates g backend positions context s =
      (.ok (backend.templates (backend.layout s.options) (s.program.placedAt positions)
        context), s.noted [.requested g positions context]) := rfl

/-- An output that is complete is reported and remarked on, and production goes on. -/
theorem emit_eq_carryOut (o : Output) (text : String) {rest : Action (List Output)} {plan : Plan}
    {s : Session} (hp : Action.Keeps Session.program (notify o))
    (ho : Action.Keeps Session.options (notify o))
    (hrest : ∀ t : Session, t.program = s.program → t.options = s.options →
      rest t = plan.carryOut g notify t) :
    (do
      report g notify o
      Action.debug text
      let outputs ← rest
      return o :: outputs : Action (List Output)) s =
      (Plan.output o (.note [.logged ⟨.debug, text⟩] plan)).carryOut g notify s := by
  have hps := keeps_report g Session.program (fun _ _ => rfl) hp s
  have hos := keeps_report g Session.options (fun _ _ => rfl) ho s
  rw [Plan.carryOut]
  rcases hr : report g notify o s with ⟨_ | _, t⟩
  · rw [Action.bind_of_error hr, Action.bind_of_error hr]
  · rw [hr] at hps hos
    rw [Action.bind_of_ok hr, Action.bind_of_ok hr, Action.debug_bind, Plan.carryOut, bind_assoc,
      Action.modify_bind]
    exact Action.bind_congr_at (hrest (t.noted _) hps hos) _

/-- After a step that touches neither program nor options, what follows may rely on both. -/
theorem bind_congr_of_keeps {α : Type} {step : Action α}
    (hp : Action.Keeps Session.program step) (ho : Action.Keeps Session.options step)
    {next other : α → Action (List Output)} {s : Session}
    (h : ∀ a t, t.program = s.program → t.options = s.options → next a t = other a t) :
    (step >>= next) s = (step >>= other) s := by
  have hps := hp s
  have hos := ho s
  rcases hr : step s with ⟨_ | a, t⟩
  · rw [Action.bind_of_error hr, Action.bind_of_error hr]
  · rw [hr] at hps hos
    rw [Action.bind_of_ok hr, Action.bind_of_ok hr, h a t hps hos]

/-- Production in the layout by unit carries out its plan. Neither processing nor reporting touches
program or options, so the plan for the rest, made before both, still fits after them. -/
theorem perUnit_eq_carryOut {policy : EmptyPolicy}
    (hp : ∀ o, Action.Keeps Session.program (notify o))
    (ho : ∀ o, Action.Keeps Session.options (notify o)) (positions : List Nat) (s : Session) :
    perUnit g backend policy notify positions s =
      (Plan.perUnit g backend s.program (backend.layout s.options) policy positions).carryOut
        g notify s := by
  induction positions generalizing s with
  | nil => rfl
  | cons position more ih =>
    rw [perUnit, Plan.perUnit, Action.get_bind]
    cases hu : s.program.units[position]? with
    | none => exact ih s
    | some unit =>
      have hplaced : s.program.placedAt [position] = [(position, unit)] := by
        simp only [Program.placedAt, List.filterMap_cons, hu, Option.map_some, List.filterMap_nil]
      dsimp only [Plan.carryOut]
      rw [Action.bind_of_ok (requestTemplates_apply g backend _ _ s), Action.modify_bind, hplaced]
      cases ht : backend.templates (backend.layout s.options) [(position, unit)]
          (unitContext backend unit) with
      | nil =>
        cases policy with
        | stop => rfl
        | skip => exact ih _
        | fail => rfl
      | cons t ts =>
        rw [List.isEmpty_cons, if_neg Bool.false_ne_true]
        refine Eq.trans ?_ (carryOut_processing g notify (t :: ts) _
          (s.noted [.requested g [position] (unitContext backend unit)])).symm
        apply bind_congr_of_keeps (keeps_processTemplates _ (fun _ _ => rfl) _)
          (keeps_processTemplates _ (fun _ _ => rfl) _)
        intro us m hpm hom
        apply emit_eq_carryOut g _ _ (hp _) (ho _)
        intro m' hpm' hom'
        rw [ih m', hpm', hom', hpm, hom]
        rfl

/-- Production in the layout by module carries out its plan. -/
theorem singleFile_eq_carryOut (hp : ∀ o, Action.Keeps Session.program (notify o))
    (ho : ∀ o, Action.Keeps Session.options (notify o)) (modules : List (Module × List Nat))
    (s : Session) :
    singleFile g backend notify modules s =
      (Plan.singleFile g backend s.program (backend.layout s.options) modules).carryOut
        g notify s := by
  induction modules generalizing s with
  | nil => rfl
  | cons placed more ih =>
    obtain ⟨module, positions⟩ := placed
    rw [singleFile, Plan.singleFile]
    dsimp only [Plan.carryOut]
    rw [Action.bind_of_ok (requestTemplates_apply g backend _ _ s), Action.modify_bind]
    cases ht : backend.templates (backend.layout s.options) (s.program.placedAt positions)
        (moduleContext backend module.toLibrary) with
    | nil => rfl
    | cons t ts =>
      cases ts with
      | cons t' ts => rfl
      | nil =>
        refine Eq.trans ?_ (carryOut_processing g notify [t] _
          (s.noted [.requested g positions (moduleContext backend module.toLibrary)])).symm
        simp only [processTemplates, bind_assoc, pure_bind]
        apply bind_congr_of_keeps (keeps_processTemplate _ (fun _ _ => rfl) _)
          (keeps_processTemplate _ (fun _ _ => rfl) _)
        intro u m hpm hom
        apply emit_eq_carryOut g _ _ (hp _) (ho _)
        intro m' hpm' hom'
        rw [ih m', hpm', hom', hpm, hom]
        rfl

/-- Production in the layout that the options ask for carries out the plan of the program. -/
theorem produce_eq_carryOut (hp : ∀ o, Action.Keeps Session.program (notify o))
    (ho : ∀ o, Action.Keeps Session.options (notify o)) (s : Session) :
    (match backend.layout s.options with
      | .perUnit => perUnit g backend s.options.policy notify s.program.eligiblePositions
      | .singleFile => singleFile g backend notify s.program.placedModules) s =
      (Plan.generation g backend s.program s.options).carryOut g notify s := by
  unfold Plan.generation
  cases hl : backend.layout s.options with
  | perUnit =>
    dsimp only
    rw [perUnit_eq_carryOut g backend hp ho, hl]
  | singleFile =>
    dsimp only
    rw [singleFile_eq_carryOut g backend hp ho, hl]

/-- The remark with which generation starts. -/
def openingRemark (backend : Backend) (s : Session) : String :=
  backend.name ++ ": " ++ Nat.repr s.program.eligiblePositions.length ++ " eligible unit(s), " ++
    aggregationName (backend.layout s.options) ++ " aggregation"

/-- The session in which a generator's production starts, after a remark. -/
def productionStart (g : GeneratorId) (remark : String) (s : Session) : Session :=
  { s.noted [.logged ⟨.debug, remark⟩] with printers := s.printers.subscribe g }

/-- Production carries out the plan of the whole program while the generator's printer is
active. -/
theorem generate_eq_carryOut (hp : ∀ o, Action.Keeps Session.program (notify o))
    (ho : ∀ o, Action.Keeps Session.options (notify o)) (s : Session) :
    generate g backend notify s =
      ((Plan.generation g backend s.program s.options).carryOut g notify).ensuring
        (fun t => { t with printers := t.printers.unsubscribe g })
        (productionStart g (openingRemark backend s) s) := by
  unfold generate
  rw [Action.get_bind, Action.debug_bind, installed, Action.modify_bind, Action.ensuring_apply,
    Action.ensuring_apply]
  have h := produce_eq_carryOut g backend hp ho (productionStart g (openingRemark backend s) s)
  exact congrArg (fun r => (r.1, { r.2 with printers := r.2.printers.unsubscribe g })) h

/-- If nobody who is told of outputs fails, a plan gives its outcome. -/
theorem carryOut_fst (hn : ∀ o s, (notify o s).1 = .ok ()) (plan : Plan) (s : Session) :
    (plan.carryOut g notify s).1 = plan.outcome := by
  induction plan generalizing s with
  | done => rfl
  | fail fault => rfl
  | note es rest ih => exact ih (s.noted es)
  | output o rest ih =>
    have hr : (report g notify o s).1 = .ok () := hn o _
    rw [Plan.carryOut, Plan.outcome]
    rcases he : report g notify o s with ⟨r, t⟩
    rw [he] at hr
    cases hr
    rw [Action.bind_of_ok he]
    have ht := ih t
    rcases hc : rest.carryOut g notify t with ⟨_ | outputs, t'⟩
    · rw [hc] at ht
      rw [Action.bind_of_error hc, ← ht]
      rfl
    · rw [hc] at ht
      rw [Action.bind_of_ok hc, ← ht]
      rfl

/-- Tell somebody of an output, and go on as if no telling had failed. -/
def unfailing (notify : Output → Action Unit) : Output → Action Unit :=
  fun o s => (.ok (), (notify o s).2)

/-- A plan is carried out as if no telling could fail, unless that of one of its outputs does fail;
then it ends by the fault of that telling. -/
theorem carryOut_unfailing (plan : Plan) (s : Session) :
    plan.carryOut g notify s = plan.carryOut g (unfailing notify) s ∨
      ∃ o ∈ plan.reported, ∃ m fault, (notify o m).1 = .error fault ∧
        (plan.carryOut g notify s).1 = .error fault := by
  induction plan generalizing s with
  | done => exact .inl rfl
  | fail fault => exact .inl rfl
  | note es rest ih => exact ih (s.noted es)
  | output o rest ih =>
    let told := s.noted [.reported g o s.printers.current?]
    have hunfailing : report g (unfailing notify) o s = (.ok (), (notify o told).2) := rfl
    rw [Plan.carryOut, Plan.carryOut, Action.bind_of_ok hunfailing]
    rcases hreport : report g notify o s with ⟨fault | _, t⟩
    · have hfault : (notify o told).1 = .error fault := congrArg Prod.fst hreport
      rw [Action.bind_of_error hreport]
      exact .inr ⟨o, List.mem_cons_self, told, fault, hfault, rfl⟩
    · have ht : (notify o told).2 = t := congrArg Prod.snd hreport
      rw [Action.bind_of_ok hreport, ht]
      rcases ih t with hsame | ⟨o', ho', m, fault, hfault, hrest⟩
      · exact .inl (Action.bind_congr_at hsame _)
      · refine .inr ⟨o', List.mem_cons_of_mem o ho', m, fault, hfault, ?_⟩
        rw [Action.bind_of_error (Prod.ext hrest rfl)]

/-- If a plan is carried out to the end, it gives its outcome, whoever takes the outputs. -/
theorem outcome_of_carryOut_eq_ok {plan : Plan} {s t : Session} {outputs : List Output}
    (h : plan.carryOut g notify s = (.ok outputs, t)) : plan.outcome = .ok outputs := by
  have hsame : plan.carryOut g notify s = plan.carryOut g (unfailing notify) s := by
    rcases @carryOut_unfailing g notify plan s with hsame | ⟨_, -, _, _, -, hend⟩
    · exact hsame
    · rw [h] at hend
      cases hend
  have houtcome : (plan.carryOut g (unfailing notify) s).1 = plan.outcome :=
    carryOut_fst g (fun _ _ => rfl) plan s
  rw [← houtcome, ← hsame, h]

/-- Entries of a sort that neither reports nor the one who takes them make are the plan's own. -/
theorem filterMap_journal_carryOut {β : Type} {f : Event → Option β}
    (hf : ∀ h o printer, f (.reported h o printer) = none) (hn : ∀ o s, (notify o s).1 = .ok ())
    (hj : ∀ o s, (notify o s).2.journal.filterMap f = s.journal.filterMap f) (plan : Plan)
    (s : Session) :
    (plan.carryOut g notify s).2.journal.filterMap f =
      s.journal.filterMap f ++ plan.entries.filterMap f := by
  induction plan generalizing s with
  | done => exact (List.append_nil _).symm
  | fail fault => exact (List.append_nil _).symm
  | note es rest ih =>
    have h := ih (s.noted es)
    rw [noted_journal, List.filterMap_append, List.append_assoc] at h
    rw [Plan.entries, List.filterMap_append]
    exact h
  | output o rest ih =>
    have hr : (report g notify o s).1 = .ok () := hn o _
    have hs : (report g notify o s).2.journal.filterMap f = s.journal.filterMap f := by
      refine (hj o (s.noted [.reported g o s.printers.current?])).trans ?_
      rw [noted_journal, List.filterMap_append, List.filterMap_cons, hf, List.filterMap_nil,
        List.append_nil]
    rw [Plan.carryOut, Plan.entries]
    rcases he : report g notify o s with ⟨r, t⟩
    rw [he] at hr hs
    cases hr
    have ht := ih t
    rw [hs] at ht
    rw [Action.bind_of_ok he, ← ht]
    rcases hc : rest.carryOut g notify t with ⟨_ | outputs, t'⟩
    · rw [Action.bind_of_error hc]
    · rw [Action.bind_of_ok hc]
      rfl

/-- Generation goes as if no telling could fail, unless that of one of the outputs of its plan does
fail; then it ends by the fault of that telling. -/
theorem generate_unfailing (hp : ∀ o, Action.Keeps Session.program (notify o))
    (ho : ∀ o, Action.Keeps Session.options (notify o)) (s : Session) :
    generate g backend notify s = generate g backend (unfailing notify) s ∨
      ∃ o ∈ (Plan.generation g backend s.program s.options).reported, ∃ m fault,
        (notify o m).1 = .error fault ∧ (generate g backend notify s).1 = .error fault := by
  rw [generate_eq_carryOut g backend hp ho,
    @generate_eq_carryOut g backend (unfailing notify) hp ho, Action.ensuring_apply,
    Action.ensuring_apply]
  rcases @carryOut_unfailing g notify (Plan.generation g backend s.program s.options)
    (productionStart g (openingRemark backend s) s) with hsame | hfault
  · rw [hsame]
    exact .inl rfl
  · exact .inr hfault

end Production

/-- The call of a generator's backend that an entry tells of. -/
def Event.call? (g : GeneratorId) : Event → Option (List Nat × GenerationContext)
  | .requested h positions context => if h = g then some (positions, context) else none
  | _ => none

/-- The warning that an entry tells of. -/
def Event.warning? : Event → Option LogRecord
  | .logged r => if r.level = .warning then some r else none
  | _ => none

section Views

variable (g : GeneratorId) (positions : List Nat) (context : GenerationContext) (r : LogRecord)

/-- A request of a generator is a call of its backend. -/
@[simp] theorem Event.call?_requested :
    (Event.requested g positions context).call? g = some (positions, context) := if_pos rfl

/-- A record is no call. -/
@[simp] theorem Event.call?_logged : (Event.logged r).call? g = none := rfl

/-- A request is no warning. -/
@[simp] theorem Event.warning?_requested :
    (Event.requested g positions context).warning? = none := rfl

/-- A record of the level of warnings is a warning. -/
@[simp] theorem Event.warning?_logged :
    (Event.logged r).warning? = if r.level = .warning then some r else none := rfl

end Views

/-- The calls of a generator's backend so far, with positions and contexts. -/
def Session.calls (s : Session) (g : GeneratorId) : List (List Nat × GenerationContext) :=
  s.journal.filterMap (Event.call? g)

/-- The warnings logged so far. -/
def Session.warnings (s : Session) : List LogRecord := s.journal.filterMap Event.warning?

/-- Somebody who is told of outputs and only looks on: no telling fails, and neither program nor
options nor what the journal says of calls and warnings changes. Records of other levels, files and
printers are the onlooker's own business. Success is asked for in every session. Whoever succeeds in
the run at hand, as the writer may, can be replaced by an onlooker (`observer_unfailing`), before
whom generation goes the same way (`generate_unfailing`). -/
structure Observer (notify : Output → Action Unit) : Prop where
  /-- No telling fails. -/
  succeeds : ∀ o s, (notify o s).1 = .ok ()
  /-- The program stays as it is. -/
  program : ∀ o, Action.Keeps Session.program (notify o)
  /-- The options stay as they are. -/
  options : ∀ o, Action.Keeps Session.options (notify o)
  /-- No backend is called. -/
  calls : ∀ o g, Action.Keeps (fun s => s.calls g) (notify o)
  /-- No warning is logged. -/
  warnings : ∀ o, Action.Keeps Session.warnings (notify o)

/-- Somebody who ignores all outputs only looks on. -/
theorem observer_ignore : Observer fun _ => pure () :=
  ⟨fun _ _ => rfl, fun _ _ => rfl, fun _ _ => rfl, fun _ _ _ => rfl, fun _ _ => rfl⟩

/-- Before an onlooker, generation gives the outcome of its plan, and the calls and warnings in the
journal are those of the plan. -/
theorem Observer.generate {notify : Output → Action Unit} (hn : Observer notify)
    (g : GeneratorId) (backend : Backend) (s : Session) :
    let plan := Plan.generation g backend s.program s.options
    let r := Generation.generate g backend notify s
    r.1 = plan.outcome ∧ r.2.calls g = s.calls g ++ plan.entries.filterMap (Event.call? g) ∧
      r.2.warnings = s.warnings ++ plan.entries.filterMap Event.warning? := by
  have h := generate_eq_carryOut g backend hn.program hn.options s
  let plan := Plan.generation g backend s.program s.options
  let start := productionStart g (openingRemark backend s) s
  have hcalls := filterMap_journal_carryOut g (f := Event.call? g) (fun _ _ _ => rfl)
    hn.succeeds (fun o t => hn.calls o g t) plan start
  have hwarnings := filterMap_journal_carryOut g (f := Event.warning?) (fun _ _ _ => rfl)
    hn.succeeds (fun o t => hn.warnings o t) plan start
  have hc : start.journal.filterMap (Event.call? g) = s.calls g := by
    simp [start, productionStart, Session.calls]
  have hw : start.journal.filterMap Event.warning? = s.warnings := by
    simp [start, productionStart, Session.warnings]
  rw [hc] at hcalls
  rw [hw] at hwarnings
  dsimp only
  rw [h, Action.ensuring_apply]
  exact ⟨carryOut_fst g hn.succeeds _ _, hcalls, hwarnings⟩

/-- Somebody who may fail, but touches nothing that an onlooker leaves alone, looks on if no failing
is heeded. -/
theorem observer_unfailing {notify : Output → Action Unit}
    (hp : ∀ o, Action.Keeps Session.program (notify o))
    (ho : ∀ o, Action.Keeps Session.options (notify o))
    (hc : ∀ o g, Action.Keeps (fun s => s.calls g) (notify o))
    (hw : ∀ o, Action.Keeps Session.warnings (notify o)) : Observer (unfailing notify) :=
  ⟨fun _ _ => rfl, hp, ho, hc, hw⟩

/-- Before somebody who may fail, but touches nothing that an onlooker leaves alone, generation does
what it does before an onlooker, unless a telling fails; then it ends by the fault of that
telling. -/
theorem generate_of_keeps {notify : Output → Action Unit}
    (hp : ∀ o, Action.Keeps Session.program (notify o))
    (ho : ∀ o, Action.Keeps Session.options (notify o))
    (hc : ∀ o g, Action.Keeps (fun s => s.calls g) (notify o))
    (hw : ∀ o, Action.Keeps Session.warnings (notify o)) (g : GeneratorId) (backend : Backend)
    (s : Session) :
    let plan := Plan.generation g backend s.program s.options
    let r := Generation.generate g backend notify s
    (r.1 = plan.outcome ∧ r.2.calls g = s.calls g ++ plan.entries.filterMap (Event.call? g) ∧
      r.2.warnings = s.warnings ++ plan.entries.filterMap Event.warning?) ∨
    ∃ o ∈ plan.reported, ∃ m fault, (notify o m).1 = .error fault ∧ r.1 = .error fault := by
  dsimp only
  rcases generate_unfailing g backend hp ho s with hsame | hfault
  · rw [hsame]
    exact .inl ((observer_unfailing hp ho hc hw).generate g backend s)
  · exact .inr hfault

namespace Template

/-- Whether a template can be processed in a program. -/
def Renders (p : Program) (t : Template) : Prop := ∃ u, t.process p = .ok u

/-- A template can be processed exactly if processing it gives a result. -/
theorem renders_iff {p : Program} {t : Template} : t.Renders p ↔ (t.process p).isOk = true := by
  unfold Renders
  cases t.process p with
  | ok u => exact ⟨fun _ => rfl, fun _ => ⟨u, rfl⟩⟩
  | error fault => exact ⟨fun ⟨_, h⟩ => (nomatch h), fun h => (nomatch h)⟩

instance (p : Program) (t : Template) : Decidable (t.Renders p) :=
  decidable_of_iff ((t.process p).isOk = true) renders_iff.symm

/-- A template after processing, if it can be processed. -/
def settled (p : Program) (t : Template) : Template := (t.process p).toOption.getD t

/-- Processing a template that can be processed settles it. -/
theorem Renders.process_eq {p : Program} {t : Template} (h : t.Renders p) :
    t.process p = .ok (t.settled p) := by
  obtain ⟨u, hu⟩ := h
  rw [settled, hu]
  rfl

end Template

namespace Plan

/-- If all templates can be processed, processing remarks on each and goes on with the settled
ones. -/
theorem processing_of_renders {p : Program} {ts : List Template} (h : ∀ t ∈ ts, t.Renders p)
    (next : List Template → Plan) :
    (processing p ts next).outcome = (next (ts.map (·.settled p))).outcome ∧
      (processing p ts next).entries = (ts.map (·.settled p)).map processedEntry ++
        (next (ts.map (·.settled p))).entries := by
  induction ts generalizing next with
  | nil => exact ⟨rfl, rfl⟩
  | cons t more ih =>
    have ht := (h t List.mem_cons_self).process_eq
    have hm := ih (fun u hu => h u (List.mem_cons_of_mem t hu)) fun us => next (t.settled p :: us)
    rw [processing, ht]
    exact ⟨hm.1, congrArg (processedEntry (t.settled p) :: ·) hm.2⟩

end Plan

end Interop
