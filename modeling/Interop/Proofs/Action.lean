import Interop.Session

/-!
# Laws of steps

A step ends by a result or by a fault, and leaves a session behind in both cases. The laws here open
one step after another, tell a fault apart from a result, and follow what a step leaves untouched.
Entries that only lengthen the journal are collected in one place, so no later proof repeats the
record update.
-/

namespace Interop.Action

variable {α β γ : Type}

/-- The step that does nothing gives its value and leaves the session alone. -/
@[simp] theorem pure_apply (a : α) (s : Session) : (pure a : Action α) s = (.ok a, s) := rfl

/-- Doing something on every way out touches the session and not the result. -/
@[simp] theorem ensuring_apply (step : Action α) (change : Session → Session) (s : Session) :
    step.ensuring change s = ((step s).1, change (step s).2) := rfl

/-- A look at the session, and then a step, is that step at the session. -/
@[simp] theorem get_bind (next : Session → Action β) (s : Session) :
    (get >>= next) s = next s s := rfl

/-- A change of the session, and then a step, is that step at the changed session. -/
@[simp] theorem modify_bind (change : Session → Session) (next : Unit → Action β) (s : Session) :
    (modify change >>= next) s = next () (change s) := rfl

/-- A result or fault that is taken over leaves the session alone. -/
theorem ofExcept_apply {ε : Type} (wrap : ε → Fault) (r : Except ε α) (s : Session) :
    ofExcept wrap r s = (r.mapError wrap, s) := by
  cases r <;> rfl

/-- Taking over succeeds exactly with a result. -/
theorem ofExcept_eq_ok_iff {ε : Type} {wrap : ε → Fault} {r : Except ε α} {s t : Session} {a : α} :
    ofExcept wrap r s = (.ok a, t) ↔ r = .ok a ∧ t = s := by
  rw [ofExcept_apply]
  cases r with
  | ok b =>
    refine ⟨fun h => ?_, fun ⟨hb, ht⟩ => ?_⟩
    · cases h
      exact ⟨rfl, rfl⟩
    · rw [hb, ht]
      rfl
  | error fault => exact ⟨fun h => (nomatch h), fun h => (nomatch h.1)⟩

/-- Taking over fails exactly with a fault. -/
theorem ofExcept_eq_error_iff {ε : Type} {wrap : ε → Fault} {r : Except ε α} {s t : Session}
    {fault : Fault} :
    ofExcept wrap r s = (.error fault, t) ↔ ∃ e, r = .error e ∧ fault = wrap e ∧ t = s := by
  rw [ofExcept_apply]
  cases r with
  | ok a => exact ⟨fun h => (nomatch h), fun ⟨_, h, _⟩ => (nomatch h)⟩
  | error e =>
    refine ⟨fun h => ?_, fun ⟨e', he, hfault, ht⟩ => ?_⟩
    · cases h
      exact ⟨e, rfl, rfl, rfl⟩
    · cases he
      rw [hfault, ht]
      rfl

/-- A change succeeds and leaves the changed session. -/
theorem modify_eq_ok_iff {change : Session → Session} {s t : Session} {a : Unit} :
    modify change s = (.ok a, t) ↔ t = change s :=
  ⟨fun h => (congrArg Prod.snd h).symm, fun h => h ▸ rfl⟩

/-- A value is given at once. -/
theorem pure_eq_ok_iff {a b : α} {s t : Session} :
    (pure a : Action α) s = (.ok b, t) ↔ a = b ∧ t = s := by
  refine ⟨fun h => ?_, fun ⟨ha, ht⟩ => by rw [ha, ht]; rfl⟩
  exact ⟨Except.ok.inj (congrArg Prod.fst h), (congrArg Prod.snd h).symm⟩

/-- After a step that succeeds, the next one decides. -/
theorem bind_of_ok {first : Action α} {s t : Session} {a : α} (h : first s = (.ok a, t))
    (next : α → Action β) : (first >>= next) s = next a t := by
  change Action.bind first next s = next a t
  rw [Action.bind, h]

/-- A fault of the first step is the fault of both. -/
theorem bind_of_error {first : Action α} {s t : Session} {fault : Fault}
    (h : first s = (.error fault, t)) (next : α → Action β) :
    (first >>= next) s = (.error fault, t) := by
  change Action.bind first next s = _
  rw [Action.bind, h]

/-- Steps that agree at a session may stand for each other there. -/
theorem bind_congr_at {first other : Action α} {s : Session} (h : first s = other s)
    (next : α → Action β) : (first >>= next) s = (other >>= next) s := by
  change Action.bind first next s = Action.bind other next s
  rw [Action.bind, Action.bind, h]

/-- Three steps may be grouped either way. -/
theorem bind_grouping (first : Action α) (second : α → Action β) (third : β → Action γ) :
    (first >>= second) >>= third = first >>= fun a => second a >>= third := by
  funext s
  rcases h : first s with ⟨_ | a, t⟩
  · rw [bind_of_error (bind_of_error h second), bind_of_error h]
  · rw [bind_of_ok h]
    change Action.bind (Action.bind first second) third s = Action.bind (second a) third t
    rw [Action.bind, Action.bind, h, Action.bind]

/-- A step that hands on its result is that step. -/
theorem bind_result (first : Action α) : (first >>= fun a => pure a) = first := by
  funext s
  rcases h : first s with ⟨_ | a, t⟩
  · rw [bind_of_error h]
  · rw [bind_of_ok h, pure_apply]

/-- Steps obey the laws of sequencing. -/
instance : LawfulMonad Action :=
  LawfulMonad.mk' Action bind_result (fun _ _ => rfl) bind_grouping

/-- Two steps succeed exactly when the first does and then the second does. -/
theorem bind_eq_ok_iff {first : Action α} {next : α → Action β} {s t : Session} {b : β} :
    (first >>= next) s = (.ok b, t) ↔
      ∃ a middle, first s = (.ok a, middle) ∧ next a middle = (.ok b, t) := by
  rcases h : first s with ⟨r, middle⟩
  cases r with
  | ok a =>
    rw [bind_of_ok h]
    exact ⟨fun hn => ⟨a, middle, rfl, hn⟩, fun ⟨a', m', he, hn⟩ => by cases he; exact hn⟩
  | error fault =>
    rw [bind_of_error h]
    exact ⟨fun hn => by simp at hn, fun ⟨a', m', he, _⟩ => by simp at he⟩

/-- Two steps end by a fault exactly when the first does, or it succeeds and then the second
does. -/
theorem bind_eq_error_iff {first : Action α} {next : α → Action β} {s t : Session}
    {fault : Fault} : (first >>= next) s = (.error fault, t) ↔
      first s = (.error fault, t) ∨
        ∃ a middle, first s = (.ok a, middle) ∧ next a middle = (.error fault, t) := by
  rcases h : first s with ⟨r, middle⟩
  cases r with
  | ok a =>
    rw [bind_of_ok h]
    refine ⟨fun hn => .inr ⟨a, middle, rfl, hn⟩, ?_⟩
    rintro (he | ⟨a', m', he, hn⟩)
    · cases he
    · cases he
      exact hn
  | error own =>
    rw [bind_of_error h]
    refine ⟨fun he => .inl ?_, ?_⟩
    · cases he
      rfl
    · rintro (he | ⟨a', m', he, -⟩)
      · cases he
        rfl
      · cases he

/-- Whatever comes of a step, what is seen of the session stays as it was. -/
def Keeps (view : Session → γ) (step : Action α) : Prop := ∀ s, view (step s).2 = view s

/-- What each of two steps leaves untouched, both leave untouched. -/
theorem Keeps.bind {view : Session → γ} {first : Action α} {next : α → Action β}
    (hf : Keeps view first) (hn : ∀ a, Keeps view (next a)) : Keeps view (first >>= next) := by
  intro s
  have hs := hf s
  rcases h : first s with ⟨r, middle⟩
  rw [h] at hs
  cases r with
  | ok a => rw [bind_of_ok h, hn a middle, hs]
  | error fault => rw [bind_of_error h, hs]

/-- Doing nothing touches nothing. -/
theorem keeps_pure (view : Session → γ) (a : α) : Keeps view (pure a : Action α) := fun _ => rfl

/-- Looking touches nothing. -/
theorem keeps_get (view : Session → γ) : Keeps view get := fun _ => rfl

/-- Taking over a result or a fault touches nothing. -/
theorem keeps_ofExcept {ε : Type} (view : Session → γ) (wrap : ε → Fault) (r : Except ε α) :
    Keeps view (ofExcept wrap r) := by
  intro s
  rw [ofExcept_apply]

/-- A change touches only what it changes. -/
theorem keeps_modify {view : Session → γ} {change : Session → Session}
    (h : ∀ s, view (change s) = view s) : Keeps view (modify change) := h

/-- Giving up the result of a step touches nothing more. -/
theorem Keeps.discard {view : Session → γ} {step : Action α} (h : Keeps view step) :
    Keeps view (discard step) :=
  h.bind fun _ => keeps_pure view _

end Interop.Action

namespace Interop.Session

/-- The session with further entries in its journal. -/
def noted (entries : List Event) (s : Session) : Session :=
  { s with journal := s.journal ++ entries }

variable (entries : List Event) (s : Session)

/-- Entries stand at the end of the journal. -/
@[simp] theorem noted_journal : (s.noted entries).journal = s.journal ++ entries := rfl

/-- No entries, no change. -/
@[simp] theorem noted_nil : s.noted [] = s := by
  unfold noted
  rw [List.append_nil]

end Interop.Session

namespace Interop.Action

variable {β : Type}

/-- An entry, and then a step, is that step with the entry made. -/
@[simp] theorem note_bind (e : Event) (next : Unit → Action β) (s : Session) :
    (note e >>= next) s = next () (s.noted [e]) := rfl

/-- A record is an entry of the journal. -/
@[simp] theorem log_bind (r : LogRecord) (next : Unit → Action β) (s : Session) :
    (log r >>= next) s = next () (s.noted [.logged r]) := rfl

/-- Logging succeeds and leaves the record in the journal. -/
theorem log_eq_ok_iff {r : LogRecord} {s t : Session} {a : Unit} :
    log r s = (.ok a, t) ↔ t = s.noted [.logged r] :=
  @modify_eq_ok_iff (Session.noted [.logged r]) s t a

/-- A record for debugging is an entry of the journal. -/
@[simp] theorem debug_bind (text : String) (next : Unit → Action β) (s : Session) :
    (debug text >>= next) s = next () (s.noted [.logged ⟨.debug, text⟩]) := rfl

end Interop.Action
