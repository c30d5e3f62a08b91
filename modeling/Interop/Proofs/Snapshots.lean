import Mathlib.Data.List.Induction
import Interop.Proofs.Includes

/-!
# Snapshots

Whoever holds a template may process it, read its text, and change the program meanwhile, in any
order. The first processing that succeeds fixes the text, as it is rendered from the program of that
moment. Before, every reading is refused; afterwards, every reading gives that text and every
processing is refused. This holds of the templates of all outputs that are reported, since each of
them was processed before.
-/

namespace Interop

open Session Generation

/-- A template in a session, with the positions that its units had when it was made. -/
structure Held where
  /-- The template. -/
  template : Template
  /-- The session. -/
  session : Session

/-- What can be done while a template is held. -/
inductive Use where
  /-- The template is processed. -/
  | process
  /-- The text is read. -/
  | read
  /-- Anything else is done: it changes the session, and maybe what is known of the library that the
  template binds. The template keeps its positions, so it keeps its units only if the change adds
  and removes no unit in front of them. -/
  | elsewhere (change : Session → Session) (relabel : Option Library → Option Library)

namespace Held

/-- What the form of the template renders from the program as it is. -/
def rendering (h : Held) : Except RenderFault String :=
  h.template.form.render (h.session.program.unitsAt h.template.positions) h.template.context

/-- Read the text. -/
def read (h : Held) : Except Fault String := h.template.text.mapError .template

/-- Process the template. If that fails, the template is the one that was held before. -/
def process (h : Held) : Except Fault Unit × Held :=
  match processTemplate h.template h.session with
  | (.ok template, session) => (.ok (), ⟨template, session⟩)
  | (.error fault, session) => (.error fault, ⟨h.template, session⟩)

/-- The template and the session after a use. -/
def perform (h : Held) : Use → Held
  | .process => h.process.2
  | .read => h
  | .elsewhere change relabel =>
    ⟨{ h.template with
        context := { h.template.context with library := relabel h.template.context.library } },
      change h.session⟩

/-- The template and the session after some uses. -/
def after (h : Held) (uses : List Use) : Held := uses.foldl perform h

/-- Whether the next processing after some uses is the first that succeeds, and what is rendered
then. -/
structure FirstSucceeds (start : Held) (before : List Use) (text : String) : Prop where
  /-- The processing succeeds. -/
  succeeds : (start.after before).process.1 = .ok ()
  /-- No processing before it does. -/
  first : ∀ earlier later, before = earlier ++ .process :: later →
    (start.after earlier).process.1 ≠ .ok ()
  /-- This is rendered from the program as it is then. -/
  rendered : (start.after before).rendering = .ok text

/-- Whether the first successful processing among some uses rendered a text. -/
def FixedAs (start : Held) (uses : List Use) (text : String) : Prop :=
  ∃ before later, uses = before ++ .process :: later ∧ start.FirstSucceeds before text

variable {h start : Held} {text : String}

/-- Nothing is left to do after no use. -/
@[simp] theorem after_nil (h : Held) : h.after [] = h := rfl

/-- Uses are made in order. -/
@[simp] theorem after_append (h : Held) (uses more : List Use) :
    h.after (uses ++ more) = (h.after uses).after more := List.foldl_append

/-- The first use is made first. -/
@[simp] theorem after_cons (h : Held) (u : Use) (more : List Use) :
    h.after (u :: more) = (h.perform u).after more := rfl

/-- Reading a fixed text gives it. -/
theorem read_of_fixed (hfixed : h.template.text? = some text) : h.read = .ok text := by
  simp only [read, Template.text, hfixed]
  rfl

/-- Reading is refused while no text is fixed. -/
theorem read_of_unfixed (hunfixed : h.template.text? = none) :
    h.read = .error (.template (.unprocessed h.template.form.name)) := by
  simp only [read, Template.text, hunfixed]
  rfl

/-- Processing is refused once a text is fixed, and the template stays. -/
theorem process_of_fixed (hfixed : h.template.text? = some text) :
    h.process.1 = .error (.template (.processed h.template.form.name)) ∧
      h.process.2.template = h.template := by
  have hrefused : h.template.process h.session.program =
      .error (.processed h.template.form.name) := by
    simp only [Template.process, hfixed]
  unfold process
  rw [processTemplate_of_error hrefused]
  exact ⟨rfl, rfl⟩

/-- What is rendered while no text is fixed becomes the text. -/
theorem process_of_rendering_ok (hunfixed : h.template.text? = none)
    (hrendered : h.rendering = .ok text) :
    h.process.1 = .ok () ∧ h.process.2.template = { h.template with text? := some text } := by
  have hdone : h.template.process h.session.program =
      .ok { h.template with text? := some text } := by
    unfold rendering at hrendered
    simp only [Template.process, hunfixed, hrendered]
  unfold process
  rw [processTemplate_of_ok hdone]
  exact ⟨rfl, rfl⟩

/-- A processing whose rendering fails, fails by the same fault, and the template stays. -/
theorem process_of_rendering_error {fault : RenderFault} (hunfixed : h.template.text? = none)
    (hrendered : h.rendering = .error fault) :
    h.process.1 = .error (.template (.render fault)) ∧ h.process.2.template = h.template := by
  have hrefused : h.template.process h.session.program = .error (.render fault) := by
    unfold rendering at hrendered
    simp only [Template.process, hunfixed, hrendered]
  unfold process
  rw [processTemplate_of_error hrefused]
  exact ⟨rfl, rfl⟩

/-- A processing that succeeds finds no text fixed, and something is rendered. -/
theorem of_process_eq_ok (hdone : h.process.1 = .ok ()) :
    h.template.text? = none ∧ ∃ text, h.rendering = .ok text := by
  cases htext : h.template.text? with
  | some text => exact nomatch (process_of_fixed htext).1.symm.trans hdone
  | none =>
    cases hrendered : h.rendering with
    | ok text => exact ⟨rfl, text, rfl⟩
    | error fault => exact nomatch (process_of_rendering_error htext hrendered).1.symm.trans hdone

/-- No use changes the form, and none changes a text once it is fixed. -/
theorem perform_kept (h : Held) (u : Use) :
    (h.perform u).template.form = h.template.form ∧
      ∀ text, h.template.text? = some text → (h.perform u).template.text? = some text := by
  cases u with
  | read => exact ⟨rfl, fun _ => id⟩
  | elsewhere change relabel => exact ⟨rfl, fun _ => id⟩
  | process =>
    change h.process.2.template.form = h.template.form ∧
      ∀ text, h.template.text? = some text → h.process.2.template.text? = some text
    cases htext : h.template.text? with
    | some text =>
      rw [(process_of_fixed htext).2]
      exact ⟨rfl, fun _ => htext.trans⟩
    | none =>
      refine ⟨?_, fun _ => nofun⟩
      cases hrendered : h.rendering with
      | ok text => rw [(process_of_rendering_ok htext hrendered).2]
      | error fault => rw [(process_of_rendering_error htext hrendered).2]

/-- A use that fixes a text is a processing that renders it. -/
theorem of_perform_fixed {u : Use} (hunfixed : h.template.text? = none)
    (hfixed : (h.perform u).template.text? = some text) :
    u = .process ∧ h.process.1 = .ok () ∧ h.rendering = .ok text := by
  cases u with
  | read => exact nomatch hunfixed.symm.trans hfixed
  | elsewhere change relabel => exact nomatch hunfixed.symm.trans hfixed
  | process =>
    change h.process.2.template.text? = some text at hfixed
    cases hrendered : h.rendering with
    | error fault =>
      rw [(process_of_rendering_error hunfixed hrendered).2, hunfixed] at hfixed
      cases hfixed
    | ok other =>
      obtain ⟨hdone, htemplate⟩ := process_of_rendering_ok hunfixed hrendered
      rw [htemplate] at hfixed
      cases hfixed
      exact ⟨rfl, hdone, rfl⟩

/-- No uses change the form. -/
theorem after_form (h : Held) (uses : List Use) :
    (h.after uses).template.form = h.template.form := by
  induction uses generalizing h with
  | nil => rfl
  | cons u more ih => exact (ih (h.perform u)).trans (h.perform_kept u).1

/-- No uses change a text once it is fixed. -/
theorem after_fixed (hfixed : h.template.text? = some text) (uses : List Use) :
    (h.after uses).template.text? = some text := by
  induction uses generalizing h with
  | nil => exact hfixed
  | cons u more ih => exact ih ((h.perform_kept u).2 text hfixed)

/-- As long as no text is fixed, no processing has succeeded. -/
theorem process_ne_ok_of_unfixed {uses earlier later : List Use}
    (hunfixed : (start.after uses).template.text? = none)
    (huses : uses = earlier ++ .process :: later) : (start.after earlier).process.1 ≠ .ok () := by
  intro hdone
  obtain ⟨hbefore, text, hrendered⟩ := of_process_eq_ok hdone
  have hthen : ((start.after earlier).perform .process).template.text? = some text :=
    congrArg Template.text? (process_of_rendering_ok hbefore hrendered).2
  rw [huses, after_append, after_cons, after_fixed hthen] at hunfixed
  cases hunfixed

/-- What the first successful processing rendered is the text. -/
theorem FixedAs.text? {uses : List Use} (hfixed : start.FixedAs uses text) :
    (start.after uses).template.text? = some text := by
  obtain ⟨before, later, rfl, hfirst⟩ := hfixed
  have hbefore := (of_process_eq_ok hfirst.succeeds).1
  have hthen : ((start.after before).perform .process).template.text? = some text :=
    congrArg Template.text? (process_of_rendering_ok hbefore hfirst.rendered).2
  rw [after_append, after_cons]
  exact after_fixed hthen later

/-- Further uses do not change which processing was the first that succeeded. -/
theorem FixedAs.append {uses : List Use} (hfixed : start.FixedAs uses text) (more : List Use) :
    start.FixedAs (uses ++ more) text := by
  obtain ⟨before, later, rfl, hfirst⟩ := hfixed
  exact ⟨before, later ++ more, by rw [List.append_assoc, List.cons_append], hfirst⟩

/-- A text is fixed exactly by the first processing that succeeds. The last use either finds the
text, or is the processing that fixes it. -/
theorem text?_after_iff (hstart : start.template.text? = none) {uses : List Use} :
    (start.after uses).template.text? = some text ↔ start.FixedAs uses text := by
  refine ⟨fun hfixed => ?_, FixedAs.text?⟩
  induction uses using List.reverseRecOn with
  | nil => exact nomatch hstart.symm.trans hfixed
  | append_singleton uses u ih =>
    rw [after_append, after_cons, after_nil] at hfixed
    cases hbefore : (start.after uses).template.text? with
    | some other =>
      rw [(perform_kept _ u).2 other hbefore] at hfixed
      cases hfixed
      exact (ih hbefore).append [u]
    | none =>
      obtain ⟨rfl, hdone, hrendered⟩ := of_perform_fixed hbefore hfixed
      exact ⟨uses, [], rfl, hdone, fun _ _ => process_ne_ok_of_unfixed hbefore, hrendered⟩

/-- While no processing has succeeded, no text is fixed. -/
theorem unfixed_after (hstart : start.template.text? = none) {uses : List Use}
    (hunfixed : ∀ text, ¬ start.FixedAs uses text) :
    (start.after uses).template.text? = none := by
  cases htext : (start.after uses).template.text? with
  | none => rfl
  | some text => exact absurd ((text?_after_iff hstart).1 htext) (hunfixed text)

/-- Once a text is fixed, it is read after all further uses, and no further processing is
accepted. -/
def IsFixedAs (h : Held) (text : String) : Prop :=
  ∀ more : List Use, (h.after more).read = .ok text ∧
    (h.after more).process.1 = .error (.template (.processed h.template.form.name)) ∧
    (h.after more).process.2.template = (h.after more).template

/-- A fixed text stays through all further uses. -/
theorem isFixedAs_of_text? (hfixed : h.template.text? = some text) : h.IsFixedAs text := by
  intro more
  have hlater := after_fixed hfixed more
  obtain ⟨hrefused, hkept⟩ := process_of_fixed hlater
  exact ⟨read_of_fixed hlater, after_form h more ▸ hrefused, hkept⟩

end Held

/-- Whether the texts of an output are fixed: each was rendered from some program, and no use of its
template in any session changes it. -/
def Output.IsFixed (o : Output) : Prop :=
  ∀ template ∈ o.templates, ∃ (p : Program) (text : String),
    template.form.render (p.unitsAt template.positions) template.context = .ok text ∧
    ∀ s : Session, (Held.mk template s).IsFixedAs text

/-- A template that was processed has a text, as it was rendered. -/
theorem exists_fixed_of_processTemplate {s t : Session} {template u : Template}
    (h : processTemplate template s = (.ok u, t)) :
    ∃ (p : Program) (text : String), u.form.render (p.unitsAt u.positions) u.context = .ok text ∧
      ∀ s : Session, (Held.mk u s).IsFixedAs text := by
  have hprocess := (process_of_processTemplate h).1
  obtain ⟨text, htext, hrendered⟩ := Template.text_process hprocess
  have hu := Template.process_eq_ok hprocess
  refine ⟨s.program, text, ?_, fun _ => Held.isFixedAs_of_text? (Template.text?_of_text htext)⟩
  rw [hu]
  exact hrendered

/-- Templates that were processed have texts, as they were rendered. -/
theorem isFixed_of_processTemplates {unit : SourceUnit} {templates us : List Template}
    {s t : Session} (h : processTemplates templates s = (.ok us, t)) :
    Output.IsFixed ⟨unit, us⟩ := by
  induction templates generalizing s us with
  | nil =>
    cases h
    exact fun _ hmem => absurd hmem List.not_mem_nil
  | cons template more ih =>
    obtain ⟨u, m, hu, h⟩ := Action.bind_eq_ok_iff.1 h
    obtain ⟨others, m', hothers, h⟩ := Action.bind_eq_ok_iff.1 h
    cases h
    exact List.forall_mem_cons.2 ⟨exists_fixed_of_processTemplate hu, ih hothers⟩

/-- Generation reports only outputs whose texts are fixed, in either layout and whatever the backend
yields, if those who take them report no others. -/
theorem onlyReports_isFixed {backend : Backend} {notify : Output → Action Unit}
    (hnotify : ∀ o, Action.OnlyReports Output.IsFixed (notify o)) (g : GeneratorId) :
    Action.OnlyReports Output.IsFixed (generate g backend notify) := by
  refine onlyReports_generate_of_layouts ?_ ?_ hnotify g
  · intro s t position unit us _ _ _ hus
    exact isFixed_of_processTemplates hus
  · intro s t module positions template u _ hu
    exact List.forall_mem_singleton.2 (exists_fixed_of_processTemplate hu)

/-- The text of a template is a snapshot. Whatever is done with it and with the program, reading
gives a text exactly if that is what the first successful processing rendered, from the program as
it was then, and is refused exactly if there was none. Until then, processing succeeds if the text
can be rendered; if it cannot, processing fails and leaves the template as it is. From then on,
nothing changes the text, and every further processing is refused. So nothing changes the texts of
reported outputs. What is rendered is what the positions of the template lead to at that moment:
these are its own units as long as no unit is added or removed in front of them. -/
theorem text_isSnapshot (form : TemplateForm) (positions : List Nat) (context : GenerationContext)
    (session : Session) (uses : List Use) :
    let start : Held := ⟨.make form positions context, session⟩
    let now := start.after uses
    (∀ text, now.read = .ok text ↔ start.FixedAs uses text) ∧
    (now.read = .error (.template (.unprocessed form.name)) ↔
      ∀ text, ¬ start.FixedAs uses text) ∧
    ((∀ text, ¬ start.FixedAs uses text) →
      (∀ text, now.rendering = .ok text → now.process.1 = .ok ()) ∧
      ∀ fault, now.rendering = .error fault →
        now.process.1 = .error (.template (.render fault)) ∧
        now.process.2.template = now.template) ∧
    (∀ text, start.FixedAs uses text → now.IsFixedAs text) ∧
    ∀ (g : GeneratorId) (backend : Backend) (notify : Output → Action Unit) (s : Session),
      (∀ o, Action.OnlyReports Output.IsFixed (notify o)) →
      s.OnlyReports Output.IsFixed (generate g backend notify s).2 := by
  intro start now
  have hstart : start.template.text? = none := rfl
  have hform : now.template.form = form := start.after_form uses
  refine ⟨fun text => ?_, ?_, fun hunfixed => ?_, fun text hfixed => ?_, ?_⟩
  · rw [← Held.text?_after_iff hstart]
    refine ⟨fun hread => ?_, Held.read_of_fixed⟩
    cases htext : now.template.text? with
    | some other =>
      exact congrArg some (Except.ok.inj ((Held.read_of_fixed htext).symm.trans hread))
    | none => exact nomatch (Held.read_of_unfixed htext).symm.trans hread
  · refine ⟨fun hread text hfixed => ?_, fun hunfixed => ?_⟩
    · exact nomatch (Held.read_of_fixed hfixed.text?).symm.trans hread
    · exact hform ▸ Held.read_of_unfixed (Held.unfixed_after hstart hunfixed)
  · have hnone := Held.unfixed_after hstart hunfixed
    exact ⟨fun text hrendered => (Held.process_of_rendering_ok hnone hrendered).1,
      fun fault hrendered => Held.process_of_rendering_error hnone hrendered⟩
  · exact Held.isFixedAs_of_text? hfixed.text?
  · exact fun g backend notify s hnotify => onlyReports_isFixed hnotify g s

/-- A program with names that are reserved words, and with a function whose result has no type,
which may be hidden. -/
def probedProgram (isGenerated : Bool) : Program :=
  .ofModules [.ofUnits ⟨"Core", some "Acme"⟩ [{ SourceUnit.ofReserved "core/event.h" with
    declarations := (SourceUnit.ofReserved "core/event.h").declarations ++
      [{ Label.named (.str "probe") isGenerated with body := .function .missing [] }] }]]

/-- A session over this program. -/
def probedSession (isGenerated : Bool) : Session :=
  .start ⟨.csharp, true, none, .fail⟩ (probedProgram isGenerated)

/-- The template for the program's unit, in the session in which nothing is hidden. -/
def probedTemplate : Held :=
  ⟨.make Template.CSharp.form [0] (moduleContext .csharp ⟨"Core", some "Acme"⟩), probedSession true⟩

/-- The template is read and processed in vain. Then the function is hidden, and the template is
processed again. Then a run renames what has a reserved name, and another library is bound. -/
def probedUses : List Use :=
  [.read, .process, .elsewhere ({ · with program := probedProgram false }) id, .process,
    .elsewhere (fun s => (runTarget .shipped (fun _ => pure ()) s).2)
      (fun _ => some ⟨"Other", none⟩),
    .process]

/-- The template is refused as long as the function has no type, and keeps the text that it gets
once the function is hidden, though it would be rendered otherwise after the run. The output that is
reported for the program has a fixed text, too. -/
theorem text_isSnapshot_probe :
    (probedTemplate.after [.read]).read = .error (.template (.unprocessed "CSharpSourcesTemplate")) ∧
    (probedTemplate.after [.read]).process.1 =
      .error (.template (.render (.type (.unprintable "None" "C#")))) ∧
    (∃ text, probedTemplate.FixedAs probedUses text ∧
      (probedTemplate.after probedUses).rendering.toOption ≠ some text ∧
      (probedTemplate.after probedUses).IsFixedAs text) ∧
    let reporting := (generate 0 .csharp (fun _ => pure ()) (probedSession false)).2
    (reporting.reports 0).length = 1 ∧
      ∀ g o printer, Event.reported g o printer ∈ reporting.journal → o.IsFixed := by
  have hearly := text_isSnapshot Template.CSharp.form [0]
    (moduleContext .csharp ⟨"Core", some "Acme"⟩) (probedSession true) [.read]
  have hlate := text_isSnapshot Template.CSharp.form [0]
    (moduleContext .csharp ⟨"Core", some "Acme"⟩) (probedSession true) probedUses
  obtain ⟨-, hunread, hunfixed, -, hreported⟩ := hearly
  obtain ⟨hread, -, -, hfixed, -⟩ := hlate
  obtain ⟨entries, hjournal, hentries⟩ :=
    hreported 0 .csharp (fun _ => pure ()) (probedSession false) fun _ => Action.onlyReports_pure ()
  have hlater : (probedTemplate.after probedUses).rendering.toOption ≠
      (probedTemplate.after probedUses).read.toOption := by decide +kernel
  have hsome : (probedTemplate.after probedUses).read.toOption.isSome := by decide +kernel
  refine ⟨rfl, ((hunfixed (hunread.1 rfl)).2 _ rfl).1, ?_, by decide +kernel, ?_⟩
  · cases hnow : (probedTemplate.after probedUses).read with
    | error fault =>
      rw [hnow] at hsome
      cases hsome
    | ok text =>
      rw [hnow] at hlater
      have hfirst := (hread text).1 hnow
      exact ⟨text, hfirst, hlater, hfixed text hfirst⟩
  · exact hjournal ▸ hentries

end Interop
