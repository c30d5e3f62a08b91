import Mathlib.Data.List.Forall2
import Interop.Fault

/-!
# Related lists and steps over lists

Two lists are related if their members are, one by one. Steps over a list give the list of results
that its members are related to by them, or fail by the fault of the first step that fails.
-/

namespace Interop

/-- A property that every member has whose counterpart has one holds of all members. -/
theorem forall_mem_of_forall₂ {α β : Type} {R : α → β → Prop} {P : α → Prop} {Q : β → Prop}
    (hQ : ∀ a b, R a b → P a → Q b) {l : List α} {bs : List β} (h : List.Forall₂ R l bs)
    (hP : ∀ a ∈ l, P a) : ∀ b ∈ bs, Q b := by
  induction h with
  | nil => exact fun b hb => absurd hb List.not_mem_nil
  | cons hab _ ih =>
    obtain ⟨ha, hrest⟩ := List.forall_mem_cons.1 hP
    exact List.forall_mem_cons.2 ⟨hQ _ _ hab ha, ih hrest⟩

/-- Lists that related members hold are put together alike. -/
theorem flatMap_eq_of_forall₂ {α β γ : Type} {R : α → β → Prop} {f : α → List γ} {g : β → List γ}
    (hview : ∀ a b, R a b → g b = f a) {l : List α} {bs : List β} (h : List.Forall₂ R l bs) :
    bs.flatMap g = l.flatMap f := by
  induction h with
  | nil => rfl
  | cons hab _ ih => rw [List.flatMap_cons, List.flatMap_cons, hview _ _ hab, ih]

/-- Members at one position of related lists are related. -/
theorem getElem?_of_forall₂ {α β : Type} {R : α → β → Prop} {l : List α} {bs : List β}
    (h : List.Forall₂ R l bs) {i : Nat} {a : α} (ha : l[i]? = some a) :
    ∃ b, bs[i]? = some b ∧ R a b := by
  induction h generalizing i with
  | nil => cases ha
  | cons hab _ ih =>
    cases i with
    | zero =>
      cases ha
      exact ⟨_, rfl, hab⟩
    | succ i => exact ih ha

/-- A list whose members are made of what other members are related to is made of a list that the
other one is related to. -/
theorem exists_map_of_forall₂ {α β γ : Type} {R : α → γ → Prop} {make : γ → β} {l : List α}
    {bs : List β} (h : List.Forall₂ (fun a b => ∃ c, b = make c ∧ R a c) l bs) :
    ∃ cs, bs = cs.map make ∧ List.Forall₂ R l cs := by
  induction h with
  | nil => exact ⟨[], rfl, .nil⟩
  | cons hfirst _ ih =>
    obtain ⟨c, rfl, hc⟩ := hfirst
    obtain ⟨cs, rfl, hcs⟩ := ih
    exact ⟨c :: cs, rfl, .cons hc hcs⟩

namespace Except

variable {ε α β γ : Type}

/-- A step after which something is made of the result fails by the same faults. -/
theorem map_eq_error_iff {r : Except ε α} {g : α → β} {e : ε} :
    g <$> r = .error e ↔ r = .error e := by
  cases r with
  | error fault =>
    exact ⟨fun h => congrArg _ (Except.error.inj h), fun h => congrArg _ (Except.error.inj h)⟩
  | ok a => exact ⟨fun h => (nomatch h), fun h => (nomatch h)⟩

/-- What is made of a result is given where the result is. -/
theorem map_eq_ok_iff {r : Except ε α} {g : α → β} {b : β} :
    g <$> r = .ok b ↔ ∃ a, r = .ok a ∧ b = g a := by
  cases r with
  | error fault => exact ⟨fun h => (nomatch h), fun ⟨_, h, _⟩ => (nomatch h)⟩
  | ok a =>
    refine ⟨fun h => ⟨a, rfl, (Except.ok.inj h).symm⟩, fun ⟨a', ha, hb⟩ => ?_⟩
    cases ha
    exact congrArg _ hb.symm

/-- A step with its fault put in another way gives the same results. -/
theorem mapError_eq_ok_iff {ε' : Type} {r : Except ε α} {g : ε → ε'} {a : α} :
    r.mapError g = .ok a ↔ r = .ok a := by
  cases r with
  | error fault => exact ⟨fun h => (nomatch h), fun h => (nomatch h)⟩
  | ok a => exact ⟨fun h => congrArg _ (Except.ok.inj h), fun h => congrArg _ (Except.ok.inj h)⟩

/-- A step with its fault put in another way fails where the step fails. -/
theorem mapError_eq_error_iff {ε' : Type} {r : Except ε α} {g : ε → ε'} {e : ε'} :
    r.mapError g = .error e ↔ ∃ fault, r = .error fault ∧ e = g fault := by
  cases r with
  | error fault =>
    refine ⟨fun h => ⟨fault, rfl, (Except.error.inj h).symm⟩, fun ⟨_, h, he⟩ => ?_⟩
    cases h
    exact congrArg _ he.symm
  | ok a => exact ⟨fun h => (nomatch h), fun ⟨_, h, _⟩ => (nomatch h)⟩

/-- Steps over a list come to results if each comes to one. -/
theorem mapM_eq_ok_iff {f : α → Except ε β} {l : List α} {bs : List β} :
    l.mapM f = .ok bs ↔ List.Forall₂ (fun a b => f a = .ok b) l bs := by
  induction l generalizing bs with
  | nil =>
    rw [List.forall₂_nil_left_iff, List.mapM_nil]
    exact ⟨fun h => (Except.ok.inj h).symm, fun h => congrArg _ h.symm⟩
  | cons a rest ih =>
    simp only [List.mapM_cons, bind_eq_ok_iff, List.forall₂_cons_left_iff, ih]
    constructor
    · rintro ⟨b, hb, more, hmore, h⟩
      exact ⟨b, more, hb, hmore, (Except.ok.inj h).symm⟩
    · rintro ⟨b, more, hb, hmore, rfl⟩
      exact ⟨b, hb, more, hmore, rfl⟩

/-- What holds of the result of every step holds of all results of steps over a list. -/
theorem forall_of_mapM_eq_ok {f : α → Except ε β} {P : β → Prop}
    (hstep : ∀ a b, f a = .ok b → P b) {l : List α} {bs : List β} (h : l.mapM f = .ok bs) :
    ∀ b ∈ bs, P b :=
  forall_mem_of_forall₂ (fun a b hab _ => hstep a b hab) (mapM_eq_ok_iff.1 h) fun _ _ => trivial

/-- Steps over a list with something made of each result come to what is made of their results. -/
theorem mapM_map_eq_ok_iff {f : α → Except ε β} {g : β → γ} {l : List α} {cs : List γ} :
    List.map g <$> l.mapM f = .ok cs ↔
      List.Forall₂ (fun a c => ∃ b, f a = .ok b ∧ c = g b) l cs := by
  rw [map_eq_ok_iff]
  constructor
  · rintro ⟨bs, hbs, rfl⟩
    exact List.forall₂_map_right_iff.2 ((mapM_eq_ok_iff.1 hbs).imp fun a b hb => ⟨b, hb, rfl⟩)
  · intro h
    obtain ⟨bs, hmap, hbs⟩ := exists_map_of_forall₂ (h.imp fun a c ⟨b, hb, hc⟩ => ⟨b, hc, hb⟩)
    exact ⟨bs, mapM_eq_ok_iff.2 hbs, hmap⟩

/-- Steps over a list fail by the fault of the first one, or of the others if that one succeeds. -/
theorem mapM_cons_eq_error_iff {f : α → Except ε β} {a : α} {rest : List α} {e : ε} :
    (a :: rest).mapM f = .error e ↔
      f a = .error e ∨ ∃ b, f a = .ok b ∧ rest.mapM f = .error e := by
  rw [List.mapM_cons]
  cases f a with
  | error fault =>
    constructor
    · exact fun h => .inl (congrArg _ (Except.error.inj h))
    · rintro (h | ⟨b, h, -⟩)
      · exact congrArg _ (Except.error.inj h)
      · cases h
  | ok b =>
    refine (map_eq_error_iff (g := (b :: ·))).trans ?_
    constructor
    · exact fun h => .inr ⟨b, rfl, h⟩
    · rintro (h | ⟨c, -, h⟩)
      · cases h
      · exact h

/-- Steps over a list fail by the fault of the first one that fails. -/
theorem mapM_eq_error_iff {f : α → Except ε β} {l : List α} {e : ε} :
    l.mapM f = .error e ↔ ∃ before a after, l = before ++ a :: after ∧
      (∀ x ∈ before, ∃ b, f x = .ok b) ∧ f a = .error e := by
  induction l with
  | nil =>
    refine ⟨fun h => (nomatch h), fun ⟨before, a, after, h, _⟩ => ?_⟩
    exact absurd h.symm (List.append_ne_nil_of_right_ne_nil _ (List.cons_ne_nil _ _))
  | cons a rest ih =>
    rw [mapM_cons_eq_error_iff, ih]
    constructor
    · rintro (ha | ⟨b, hb, before, x, after, rfl, hbefore, hx⟩)
      · exact ⟨[], a, rest, rfl, nofun, ha⟩
      · exact ⟨a :: before, x, after, rfl, List.forall_mem_cons.2 ⟨⟨b, hb⟩, hbefore⟩, hx⟩
    · rintro ⟨before, x, after, hl, hbefore, hx⟩
      cases before with
      | nil =>
        obtain ⟨rfl, -⟩ := List.cons.inj hl
        exact .inl hx
      | cons y more =>
        obtain ⟨rfl, rfl⟩ := List.cons.inj hl
        obtain ⟨⟨b, hb⟩, hmore⟩ := List.forall_mem_cons.1 hbefore
        exact .inr ⟨b, hb, more, x, after, rfl, hmore, hx⟩

/-- Steps over lists one after the other, with something made of the results for each list, fail as
the steps over the concatenated list do. -/
theorem mapM_flatMap_eq_error_iff {δ : Type} {f : β → Except ε γ} {parts : α → List β}
    {make : α → List γ → δ} {l : List α} {e : ε} :
    (l.mapM fun a => make a <$> (parts a).mapM f) = .error e ↔
      (l.flatMap parts).mapM f = .error e := by
  induction l with
  | nil => exact ⟨fun h => (nomatch h), fun h => (nomatch h)⟩
  | cons a rest ih =>
    rw [List.flatMap_cons, List.mapM_append, mapM_cons_eq_error_iff, ih]
    cases (parts a).mapM f with
    | error fault =>
      constructor
      · rintro (h | ⟨d, h, -⟩)
        · exact congrArg _ (Except.error.inj h)
        · cases h
      · exact fun h => .inl (congrArg _ (Except.error.inj h))
    | ok cs =>
      refine Iff.trans ?_ (map_eq_error_iff (g := (cs ++ ·))).symm
      constructor
      · rintro (h | ⟨d, -, h⟩)
        · cases h
        · exact h
      · exact fun h => .inr ⟨_, rfl, h⟩

end Except

end Interop
