import Interop.Proofs.Writing

/-!
# Subscriptions

The active printers and the open generators change together, when a generator is opened or closed,
and at no other time. While outputs are made, a printer is active once more, and a run has a
generator of its own that it opens and closes; but on every way out of either, all is what it was.
-/

namespace Interop

open Session Generation

namespace Generation

section Keeps

variable {γ : Type} {view : Session → γ} (hnoted : ∀ es s, view (noted es s) = view s)
  (g : GeneratorId) (backend : Backend) {notify : Output → Action Unit}
  (hnotify : ∀ o, Action.Keeps view (notify o))

include hnoted

/-- A record is an entry of the journal. -/
theorem keeps_log (r : LogRecord) : Action.Keeps view (Action.log r) :=
  Action.keeps_modify fun s => hnoted [.logged r] s

/-- Asking a backend for templates makes an entry of the journal. -/
theorem keeps_requestTemplates (positions : List Nat) (context : GenerationContext) :
    Action.Keeps view (requestTemplates g backend positions context) :=
  fun s => hnoted [.requested g positions context] s

include hnotify

/-- In the layout by unit, outputs are made without touching anything but the journal and what the
one who takes them touches. -/
theorem keeps_perUnit (policy : EmptyPolicy) (positions : List Nat) :
    Action.Keeps view (perUnit g backend policy notify positions) := by
  induction positions with
  | nil => exact Action.keeps_pure view _
  | cons position more ih =>
    unfold perUnit
    refine (Action.keeps_get view).bind fun s => ?_
    split
    · exact ih
    · refine (keeps_requestTemplates hnoted g backend _ _).bind fun templates => ?_
      split
      · cases policy with
        | fail => exact fun _ => rfl
        | skip => exact (keeps_log hnoted _).bind fun _ => ih
        | stop => exact (keeps_log hnoted _).bind fun _ => Action.keeps_pure view _
      · exact (keeps_processTemplates view hnoted _).bind fun _ =>
          (keeps_report g view hnoted (hnotify _)).bind fun _ =>
            (keeps_log hnoted _).bind fun _ => ih.bind fun _ => Action.keeps_pure view _

/-- In the layout by module, outputs are made without touching anything but the journal and what the
one who takes them touches. -/
theorem keeps_singleFile (modules : List (Module × List Nat)) :
    Action.Keeps view (singleFile g backend notify modules) := by
  induction modules with
  | nil => exact Action.keeps_pure view _
  | cons entry more ih =>
    unfold singleFile
    refine (keeps_requestTemplates hnoted g backend _ _).bind fun templates => ?_
    split
    · exact (keeps_processTemplate view hnoted _).bind fun _ =>
        (keeps_report g view hnoted (hnotify _)).bind fun _ =>
          (keeps_log hnoted _).bind fun _ => ih.bind fun _ => Action.keeps_pure view _
    · exact fun _ => rfl

end Keeps

end Generation

/-- What is known of subscriptions: the active printers, and which generators are open. -/
def Session.subscriptions (s : Session) : Printers GeneratorId × (GeneratorId → Bool) :=
  (s.printers, s.isOpen)

namespace Session

/-- Subscriptions agree if the active printers do, and the same generators are open. -/
theorem subscriptions_eq_iff {s t : Session} :
    s.subscriptions = t.subscriptions ↔ s.printers = t.printers ∧ s.isOpen = t.isOpen :=
  Prod.ext_iff

variable {s : Session} {g : GeneratorId}

/-- An open generator is one of the session. -/
theorem lt_of_isOpen (h : s.isOpen g = true) : g < s.generators.length := by
  unfold isOpen generator? at h
  by_cases hg : g < s.generators.length
  · exact hg
  · rw [List.getElem?_eq_none (Nat.le_of_not_lt hg)] at h
    cases h

/-- A generator that is marked as open or closed is so from then on; the others stay as they are. -/
theorem isOpen_setOpen (hg : g < s.generators.length) (isOpen : Bool) :
    (s.setOpen g isOpen).isOpen = fun h => if h = g then isOpen else s.isOpen h := by
  funext h
  unfold Session.isOpen generator? setOpen
  dsimp only
  by_cases hh : h = g
  · rw [if_pos hh, hh, List.getElem?_modify_eq, List.getElem?_eq_getElem hg]
    rfl
  · rw [if_neg hh, List.getElem?_modify_ne _ _ (Ne.symm hh)]

/-- A new generator is closed, and the others stay as they are. -/
theorem isOpen_addGenerator (s : Session) (backend : Backend) :
    (addGenerator backend s).2.isOpen = s.isOpen := by
  funext h
  unfold isOpen generator? addGenerator
  dsimp only
  rcases Nat.lt_trichotomy h s.generators.length with hh | rfl | hh
  · rw [List.getElem?_append_left hh]
  · rw [List.getElem?_concat_length, List.getElem?_eq_none (Nat.le_refl _)]
    rfl
  · rw [List.getElem?_eq_none (Nat.le_of_lt hh), List.getElem?_eq_none]
    rw [List.length_append]
    exact hh

/-- Opening a closed generator makes its printer the one in force. -/
theorem subscriptions_openGenerator (hg : g < s.generators.length) (h : s.isOpen g = false) :
    (openGenerator g s).subscriptions =
      (s.printers.subscribe g, fun k => if k = g then true else s.isOpen k) := by
  unfold openGenerator
  rw [if_neg (ne_true_of_eq_false h)]
  exact Prod.ext rfl (isOpen_setOpen hg true)

/-- Closing an open generator gives its printer up. -/
theorem subscriptions_closeGenerator (h : s.isOpen g = true) :
    (closeGenerator g s).subscriptions =
      (s.printers.unsubscribe g, fun k => if k = g then false else s.isOpen k) := by
  unfold closeGenerator
  rw [if_pos h]
  exact Prod.ext rfl (isOpen_setOpen (lt_of_isOpen h) false)

/-- While a step keeps a printer active, it is active a second time at most, and afterwards all is
as it was. -/
theorem keeps_installed {α : Type} (g : GeneratorId) {step : Action α}
    (h : Action.Keeps subscriptions step) : Action.Keeps subscriptions (installed g step) := by
  intro s
  obtain ⟨hprinters, hopen⟩ := subscriptions_eq_iff.1
    (h { s with printers := s.printers.subscribe g })
  refine subscriptions_eq_iff.2 ⟨?_, hopen⟩
  exact (congrArg (Printers.unsubscribe g) hprinters).trans
    (Printers.unsubscribe_subscribe g s.printers)

/-- What a new generator does while it is open, it does on subscriptions that are restored when it
is closed, on every way out. -/
theorem keeps_scope {α : Type} (backend : Backend) {step : GeneratorId → Action α}
    (h : ∀ g, Action.Keeps subscriptions (step g)) :
    Action.Keeps subscriptions (do
      let g ← addGenerator backend
      Action.modify (openGenerator g)
      (step g).ensuring (closeGenerator g)) := by
  intro s
  have hlt : s.generators.length < (addGenerator backend s).2.generators.length := by
    change _ < (s.generators ++ [_]).length
    rw [List.length_append]
    exact Nat.lt_succ_self _
  have hclosed : s.isOpen s.generators.length = false :=
    Bool.eq_false_iff.2 fun ho => Nat.lt_irrefl _ (lt_of_isOpen ho)
  have hopened := subscriptions_openGenerator hlt
    ((congrFun (isOpen_addGenerator s backend) _).trans hclosed)
  have hstep := (h s.generators.length _).trans hopened
  have hopen : ((step s.generators.length) (openGenerator s.generators.length
      (addGenerator backend s).2)).2.isOpen s.generators.length = true :=
    (congrFun (congrArg Prod.snd hstep) _).trans (if_pos rfl)
  refine (subscriptions_closeGenerator hopen).trans (Prod.ext ?_ (funext fun k => ?_))
  · exact (congrArg (Printers.unsubscribe _) (congrArg Prod.fst hstep)).trans
      (Printers.unsubscribe_subscribe _ s.printers)
  · have hk := congrFun (congrArg Prod.snd hstep) k
    dsimp only at hk ⊢
    by_cases hg : k = s.generators.length
    · rw [if_pos hg, hg]
      exact hclosed.symm
    · rw [if_neg hg]
      exact hk.trans ((if_neg hg).trans (congrFun (isOpen_addGenerator s backend) k))

end Session

/-- Someone who takes outputs, and after whom the same generators are open and the same printers
active as before. What they do may fail. Generators may be opened and closed in between, if all is
back as it was in the end; a callback that opens a generator and does not close it again, or closes
one that was open, is left out. -/
structure Callback where
  /-- What is done with an output. -/
  notify : Output → Action Unit
  /-- Whichever way that ends, the subscriptions are what they were. -/
  keeps : ∀ o, Action.Keeps Session.subscriptions (notify o)

namespace Generation

variable (g : GeneratorId) (backend : Backend) (callback : Callback)

/-- The writer is a callback. -/
theorem keeps_subscriptions_write (directory : Path) (o : Output) :
    Action.Keeps subscriptions (discard (Writer.write directory o)) :=
  Writer.keeps_write (fun _ _ => rfl) (fun _ _ => rfl) (fun _ _ => rfl) directory o

/-- Making outputs leaves the subscriptions as they were, whichever way it ends. -/
theorem keeps_subscriptions_generate {notify : Output → Action Unit}
    (h : ∀ o, Action.Keeps subscriptions (notify o)) :
    Action.Keeps subscriptions (generate g backend notify) := by
  have hnoted : ∀ es s, subscriptions (noted es s) = subscriptions s := fun _ _ => rfl
  refine (Action.keeps_get _).bind fun s => (keeps_log hnoted _).bind fun _ =>
    keeps_installed g ?_
  split
  · exact keeps_perUnit hnoted g backend h _ _
  · exact keeps_singleFile hnoted g backend h _

/-- What an open generator does in a run leaves the subscriptions as they were, whichever way it
ends. -/
theorem keeps_subscriptions_runOpen :
    Action.Keeps subscriptions (runOpen g backend callback.notify) := by
  have hlog (r : LogRecord) : Action.Keeps subscriptions (Action.log r) := fun _ => rfl
  have hsetup : Action.Keeps subscriptions (setupPasses backend) := fun _ => rfl
  have hpasses : Action.Keeps subscriptions runPasses := fun _ => rfl
  have hproduction : Action.Keeps subscriptions (production backend callback.notify g) := by
    refine (Action.keeps_get _).bind fun s => Action.Keeps.bind (fun _ => rfl) fun _ =>
      (hlog _).bind fun _ => ?_
    split
    · exact keeps_subscriptions_generate g backend (keeps_subscriptions_write _)
    · exact keeps_subscriptions_generate g backend callback.keeps
  unfold runOpen
  refine (hlog _).bind fun _ => hsetup.bind fun succeeded => ?_
  cases succeeded with
  | false => exact fun _ => rfl
  | true => exact hpasses.bind fun _ => hproduction

/-- A run leaves the subscriptions as they were, whichever way it ends. -/
theorem keeps_subscriptions_run : Action.Keeps subscriptions (run backend callback.notify) := by
  have hlog (r : LogRecord) : Action.Keeps subscriptions (Action.log r) := fun _ => rfl
  have hscope := keeps_scope backend fun g => keeps_subscriptions_runOpen g backend callback
  unfold run
  simp only [← bind_assoc] at hscope ⊢
  refine hscope.bind fun outputs =>
    ((hlog _).bind fun _ => Action.keeps_get subscriptions).bind fun s => ?_
  split
  · exact (hlog _).bind fun _ => Action.keeps_pure _ _
  · exact Action.keeps_pure _ _

/-- Running the backend that the options ask for leaves the subscriptions as they were, whichever
way it ends. -/
theorem keeps_subscriptions_runTarget (table : BackendTable) :
    Action.Keeps subscriptions (runTarget table callback.notify) :=
  (Action.keeps_get _).bind fun _ => (Action.keeps_ofExcept _ _ _).bind fun backend =>
    keeps_subscriptions_run backend callback

end Generation

end Interop
