import Interop.Proofs.Schema

/-!
# Which configurations are valid

What the schema accepts is valid, and stands for what it describes. What it refuses is invalid, and
the report names at least one problem with it. Of the texts that a problem repeats, only a namespace
may hold half of a character, so nothing else can keep the problems from being told.
-/

namespace Interop

namespace Configuration

open Text.Half

/-- A check tells its problems if it has some whenever it finds nothing, and all of them can be
told. -/
def Check.TellsProblems {α : Type} (p : Check α) : Prop :=
  ∀ problems, p = .error problems → problems ≠ [] ∧ ∀ problem ∈ problems, problem.isTellable = true

/-- A reading tells its complaint if that can be told of any place. -/
def TellsComplaint {α : Type} (r : Except Complaint α) : Prop :=
  ∀ complaint, r = .error complaint → ∀ place, (Problem.mk place complaint).isTellable = true

namespace Check

variable {α β : Type}

/-- A sound part has no problems. -/
theorem tellsProblems_ok (a : α) : TellsProblems (.ok a : Check α) := nofun

/-- A complaint that can be told is a problem that can be. -/
theorem tellsProblems_refuse {place : List String} {complaint : Complaint}
    (h : (Problem.mk place complaint).isTellable = true) :
    TellsProblems (refuse place complaint : Check α) := by
  rintro _ ⟨⟩
  exact ⟨List.cons_ne_nil _ _, fun _ hp => List.mem_singleton.1 hp ▸ h⟩

/-- Two parts together tell their problems if each does. -/
theorem TellsProblems.both {p : Check α} {q : Check β} (hp : p.TellsProblems)
    (hq : q.TellsProblems) : (p.both q).TellsProblems := by
  intro problems h
  cases p with
  | ok a =>
    cases q with
    | ok b => cases h
    | error r => cases h; exact hq _ rfl
  | error r =>
    cases q with
    | ok b => cases h; exact hp _ rfl
    | error r' =>
      cases h
      obtain ⟨hne, htold⟩ := hp r rfl
      refine ⟨fun hnil => hne (List.append_eq_nil_iff.1 hnil).1, fun problem hm => ?_⟩
      exact (List.mem_append.1 hm).elim (htold problem) ((hq r' rfl).2 problem)

/-- Changing what a check finds changes no problem. -/
theorem TellsProblems.map {p : Check α} (hp : p.TellsProblems) (f : α → β) :
    TellsProblems (p.map f) := by
  intro problems h
  cases p with
  | ok a => cases h
  | error r => cases h; exact hp _ rfl

/-- A check that goes on tells its problems if both of its steps do. -/
theorem TellsProblems.bind {p : Check α} {next : α → Check β} (hp : p.TellsProblems)
    (hnext : ∀ a, p = .ok a → (next a).TellsProblems) : TellsProblems (p >>= next) := by
  intro problems h
  cases p with
  | ok a => exact hnext a rfl problems h
  | error r => cases h; exact hp _ rfl

/-- A list tells its problems if its items do. -/
theorem tellsProblems_each {check : Nat → α → Check β} {l : List α}
    (h : ∀ n, ∀ a ∈ l, (check n a).TellsProblems) (first : Nat) :
    (each check first l).TellsProblems := by
  induction l generalizing first with
  | nil => exact tellsProblems_ok []
  | cons a rest ih =>
    exact ((h first a List.mem_cons_self).both
      (ih (fun n b hb => h n b (List.mem_cons_of_mem a hb)) (first + 1))).map _

/-- A complaint is told at its place. -/
theorem tellsProblems_complainAt {r : Except Complaint α} (h : TellsComplaint r)
    (place : List String) : TellsProblems (complainAt place r) := by
  cases r with
  | ok a => exact tellsProblems_ok a
  | error complaint => exact tellsProblems_refuse (h complaint rfl place)

/-- A part that may be left out tells its problems if it does where it stands. -/
theorem tellsProblems_optional {key : String} {entries : List (Scalar × Value)} {fallback : α}
    {check : List String → Value → Check α}
    (h : ∀ v, Value.lookup key entries = some v → (check [key] v).TellsProblems) :
    TellsProblems (optional key entries fallback check) := by
  unfold optional
  cases hv : Value.lookup key entries with
  | none => exact tellsProblems_ok fallback
  | some v => exact h v hv

end Check

section Readings

variable {α β : Type} {place : List String} {v : Value}

/-- A reading that goes on tells its complaint if both of its steps do. -/
theorem TellsComplaint.bind {r : Except Complaint α} {next : α → Except Complaint β}
    (hr : TellsComplaint r) (hnext : ∀ a, r = .ok a → TellsComplaint (next a)) :
    TellsComplaint (r >>= next) := by
  intro complaint h
  cases r with
  | ok a => exact hnext a rfl complaint h
  | error c => cases h; exact hr _ rfl

/-- That a string is not whole can be told. -/
theorem tellsComplaint_whole (s : String) : TellsComplaint (whole s) := by
  unfold whole
  split
  · nofun
  · rintro _ ⟨⟩ place
    rfl

/-- That a value is no string can be told. -/
theorem tellsComplaint_readText (v : Value) : TellsComplaint (readText v) := by
  unfold readText
  split
  · nofun
  · split
    · nofun
    · rintro _ ⟨⟩ place
      rfl
  · rintro _ ⟨⟩ place
    rfl

/-- That a value is no word can be told if its complaint can. -/
theorem tellsComplaint_readWord {find : String → Option α} {complaint : Complaint}
    (h : ∀ place, (Problem.mk place complaint).isTellable = true) :
    TellsComplaint (readWord find complaint v) := by
  unfold readWord
  split
  · refine (tellsComplaint_whole _).bind fun s _ => ?_
    split
    · nofun
    · rintro _ ⟨⟩
      exact h
  · rintro _ ⟨⟩
    exact h

/-- That a value is no truth value can be told. -/
theorem tellsComplaint_readBool (v : Value) : TellsComplaint (readBool v) := by
  have hunclear : ∀ o, TellsComplaint (readBool.orUnclear o) := by
    rintro (_ | _) complaint ⟨⟩ place
    rfl
  unfold readBool
  split
  · nofun
  · exact (tellsComplaint_whole _).bind fun s _ => hunclear _
  · exact hunclear _
  · split
    · exact hunclear _
    · rintro _ ⟨⟩ place
      rfl
  · split
    · exact hunclear _
    · rintro _ ⟨⟩ place
      rfl
  · rintro _ ⟨⟩ place
    rfl

/-- That a value is no name can be told. -/
theorem tellsComplaint_readName (v : Value) : TellsComplaint (readName v) := by
  refine (tellsComplaint_readText v).bind fun s _ => (tellsComplaint_whole s).bind fun t _ => ?_
  split
  · rintro _ ⟨⟩ place
    rfl
  · nofun

/-- That a string is no namespace can be told if it is one of whole characters. -/
theorem tellsComplaint_readNamespace (h : ∀ s, readText v = .ok s → isWritable s = true) :
    TellsComplaint (readNamespace v) := by
  refine (tellsComplaint_readText v).bind fun s hs => ?_
  split
  · nofun
  · split
    · nofun
    · rintro _ ⟨⟩ place
      exact h s hs

end Readings

section Checks

variable {place : List String} {v : Value}

/-- The problems with a text can be told. -/
theorem tellsProblems_checkText (place : List String) (v : Value) :
    (checkText place v).TellsProblems := by
  unfold checkText
  split
  · exact Check.tellsProblems_ok none
  · refine Check.tellsProblems_complainAt ?_ place
    exact (tellsComplaint_readText v).bind fun s _ => nofun

/-- The problems with a target language can be told. -/
theorem tellsProblems_checkTarget (place : List String) (v : Value) :
    (checkTarget place v).TellsProblems :=
  Check.tellsProblems_complainAt (tellsComplaint_readWord fun _ => rfl) place

/-- The problems with a policy can be told. -/
theorem tellsProblems_checkPolicy (place : List String) (v : Value) :
    (checkPolicy place v).TellsProblems :=
  Check.tellsProblems_complainAt (tellsComplaint_readWord fun _ => rfl) place

/-- The problems with a truth value can be told. -/
theorem tellsProblems_checkBool (place : List String) (v : Value) :
    (checkBool place v).TellsProblems :=
  Check.tellsProblems_complainAt (tellsComplaint_readBool v) place

/-- The problems with a namespace can be told if it is a string of whole characters. -/
theorem tellsProblems_checkNamespace (h : ∀ s, readText v = .ok s → isWritable s = true) :
    (checkNamespace place v).TellsProblems := by
  unfold checkNamespace
  split
  · exact Check.tellsProblems_ok none
  · exact Check.tellsProblems_complainAt (tellsComplaint_readNamespace h) place

/-- The problems with a description of a unit can be told. -/
theorem tellsProblems_checkUnit (h : v.IsJson) : (checkUnit place v).TellsProblems := by
  cases h with
  | @scalar s h =>
    cases s with
    | str path => exact Check.tellsProblems_ok _
    | null | bool | int | float =>
      rintro _ ⟨⟩
      exact ⟨List.cons_ne_nil _ _, by simp [Problem.isTellable]⟩
    | date | moment | bytes => exact h.elim
  | list =>
    rintro _ ⟨⟩
    exact ⟨List.cons_ne_nil _ _, by simp [Problem.isTellable]⟩
  | @dict entries names keys distinct values =>
    have hsound : checkUnit place (.dict entries) = .ok (.inline entries) :=
      (checkUnit_eq_ok_iff (.dict keys distinct values)).2 (.inline entries)
    rw [hsound]
    exact Check.tellsProblems_ok _

/-- The problems with units can be told. -/
theorem tellsProblems_checkUnits {o : Option Value} (h : ∀ v, o = some v → v.IsJson) :
    (checkUnits place o).TellsProblems := by
  cases o with
  | none => exact Check.tellsProblems_ok []
  | some v =>
    unfold checkUnits
    dsimp only
    rcases listed?_cases (h v rfl) with ⟨items, rfl, hlisted, hitems⟩ | ⟨hlisted, -⟩ <;>
      rw [hlisted]
    · exact Check.tellsProblems_each (fun n v hv => tellsProblems_checkUnit (hitems v hv)) 0
    · exact Check.tellsProblems_refuse rfl

/-- Where a module gives a namespace, it is a string of whole characters. -/
def HasWholeNamespace (v : Value) : Prop :=
  ∀ entries s, v = .dict entries → Value.lookup "output_namespace" entries = some (.str s) →
    isWritable s = true

/-- The problems with a module can be told if its namespace can. -/
theorem tellsProblems_checkModule (h : v.IsJson) (hwhole : HasWholeNamespace v) :
    (checkModule place v).TellsProblems := by
  cases h with
  | @scalar s h => cases s <;> exact Check.tellsProblems_refuse rfl
  | list => exact Check.tellsProblems_refuse rfl
  | @dict entries names keys distinct values =>
    have hlookup : ∀ key v, Value.lookup key entries = some v → v.IsJson :=
      fun key v hv => (Value.IsJson.dict keys distinct values).of_lookup hv
    have hname : (checkName (place ++ ["library_name"])
        (Value.lookup "library_name" entries)).TellsProblems := by
      unfold checkName
      split
      · exact Check.tellsProblems_refuse rfl
      · exact Check.tellsProblems_complainAt (tellsComplaint_readName _) _
    have hspace : (checkNamespace (place ++ ["output_namespace"])
        ((Value.lookup "output_namespace" entries).getD .null)).TellsProblems := by
      refine tellsProblems_checkNamespace fun s hs => ?_
      cases hv : Value.lookup "output_namespace" entries with
      | none => rw [hv] at hs; cases hs
      | some v =>
        rw [hv] at hs
        obtain rfl := (readText_eq_ok_iff (hlookup _ v hv)).1 hs
        exact hwhole entries s rfl hv
    exact (hname.both (hspace.both (tellsProblems_checkUnits (hlookup "units")))).map _

/-- Where a configuration gives namespaces, they are strings of whole characters. -/
def HasWholeNamespaces (entries : List (Scalar × Value)) : Prop :=
  ∀ items, Value.lookup "modules" entries = some (.list items) → ∀ v ∈ items, HasWholeNamespace v

/-- The problems with modules can be told if their namespaces can. -/
theorem tellsProblems_checkModules {o : Option Value} (h : ∀ v, o = some v → v.IsJson)
    (hwhole : ∀ items, o = some (.list items) → ∀ v ∈ items, HasWholeNamespace v) :
    (checkModules place o).TellsProblems := by
  cases o with
  | none => exact Check.tellsProblems_refuse rfl
  | some v =>
    unfold checkModules
    dsimp only
    rcases listed?_cases (h v rfl) with ⟨items, rfl, hlisted, hitems⟩ | ⟨hlisted, -⟩ <;>
      rw [hlisted]
    · cases items with
      | nil => exact Check.tellsProblems_refuse rfl
      | cons v rest =>
        exact Check.tellsProblems_each
          (fun n w hw => tellsProblems_checkModule (hitems w hw) (hwhole _ rfl w hw)) 0
    · exact Check.tellsProblems_refuse rfl

variable {entries : List (Scalar × Value)}

/-- The problems with a configuration can be told if its namespaces can. -/
theorem tellsProblems_check (h : (Value.dict entries).IsJson)
    (hwhole : HasWholeNamespaces entries) : (check (.dict entries)).TellsProblems := by
  have hmodules : (checkModules ["modules"] (Value.lookup "modules" entries)).TellsProblems :=
    tellsProblems_checkModules (fun v hv => h.of_lookup hv) hwhole
  unfold check
  refine Check.TellsProblems.bind ?_ fun c _ => ?_
  · exact ((Check.tellsProblems_optional fun v _ => tellsProblems_checkTarget _ v).both
      ((Check.tellsProblems_optional fun v _ => tellsProblems_checkText _ v).both
      ((Check.tellsProblems_optional fun v _ => tellsProblems_checkBool _ v).both
      ((Check.tellsProblems_optional fun v _ => tellsProblems_checkPolicy _ v).both
      (hmodules.both
        (Check.tellsProblems_optional fun v _ => tellsProblems_checkText _ v)))))).map _
  · split
    · exact Check.tellsProblems_refuse rfl
    · exact Check.tellsProblems_ok c

/-- What is valid is sound. -/
theorem outcome_validate_eq_ok_iff {v : Value} {file : Option String} {c : Configuration} :
    (validate v file).outcome = .ok c ↔ check v = .ok c := by
  unfold validate
  cases check v with
  | ok d => simp
  | error problems =>
    dsimp only
    split <;> simp [Logged.fail]

/-- What is not sound is invalid, if the problems with it can be told. -/
theorem outcome_validate_of_error {v : Value} {problems : List Problem} (file : Option String)
    (h : check v = .error problems) (htold : ∀ p ∈ problems, p.isTellable = true) :
    (validate v file).outcome = .error (invalid file problems) := by
  unfold validate
  rw [h]
  dsimp only
  rw [if_pos (List.all_eq_true.2 htold)]

end Checks

/-- Exactly the configurations that are described are valid, and each is what it is described as.
Every other one is invalid, with at least one problem, unless half of a character stands in one of
its namespaces. Configurations whose texts hold one of the private characters that stand in for
halves are left out: each is taken for one with halves in its place. -/
theorem outcome_validate_dict {entries : List (Scalar × Value)} (h : (Value.dict entries).IsJson)
    (file : Option String) :
    (∀ c, (validate (.dict entries) file).outcome = .ok c ↔ Describes IsLibraryName entries c) ∧
    ((∀ c, ¬ Describes IsLibraryName entries c) → HasWholeNamespaces entries →
      ∃ problems, problems ≠ [] ∧
        (validate (.dict entries) file).outcome = .error (invalid file problems)) := by
  refine ⟨fun c => outcome_validate_eq_ok_iff.trans (check_eq_ok_iff h), fun hnone hwhole => ?_⟩
  cases hcheck : check (.dict entries) with
  | ok c => exact absurd ((check_eq_ok_iff h).1 hcheck) (hnone c)
  | error problems =>
    obtain ⟨hne, htold⟩ := tellsProblems_check h hwhole problems hcheck
    exact ⟨problems, hne, outcome_validate_of_error file hcheck htold⟩

/-- Two modules, one with a namespace and the descriptions of two units. -/
def sampleEntries : List (Scalar × Value) :=
  [(.str "generate_single_csharp_file", .str "Yes"), (.str "base_dir", .null),
    (.str "modules", .list [
      .dict [(.str "library_name", .str "Core"), (.str "output_namespace", .str "Acme.Core"),
        (.str "units", .list [.str "event.yaml", .dict [(.str "file_path", .str "key.h")]])],
      .dict [(.str "library_name", .str "Gui"), (.str "output_namespace", .str "")]])]

/-- What these entries describe. -/
def sample : Configuration :=
  ⟨.csharp, some "./generated_bindings", true, .stop,
    [⟨⟨"Core", some "Acme.Core"⟩, [.file "event.yaml", .inline [(.str "file_path", .str "key.h")]]⟩,
      ⟨⟨"Gui", none⟩, []⟩], none⟩

/-- These entries are valid, and no entries at all are invalid. -/
theorem outcome_validate_dict_sample :
    (Value.dict sampleEntries).IsJson ∧ Describes IsLibraryName sampleEntries sample ∧
    (validate (.dict sampleEntries) none).outcome = .ok sample ∧
    (∀ c, ¬ Describes IsLibraryName [] c) ∧ HasWholeNamespaces [] ∧
    ∃ problems, problems ≠ [] ∧
      (validate (.dict []) none).outcome = .error (invalid none problems) := by
  have htext : ∀ s, (Value.str s).IsJson := fun _ => .scalar trivial
  have hjson : (Value.dict sampleEntries).IsJson := by
    have hunit : (Value.dict [(.str "file_path", .str "key.h")]).IsJson :=
      @Value.IsJson.dict _ ["file_path"] rfl (by decide)
        (List.forall_mem_cons.2 ⟨htext _, nofun⟩)
    have hunits : (Value.list
        [.str "event.yaml", .dict [(.str "file_path", .str "key.h")]]).IsJson :=
      .list (by simp [htext, hunit])
    refine @Value.IsJson.dict _ ["generate_single_csharp_file", "base_dir", "modules"] rfl
      (by decide) ?_
    simp only [sampleEntries, List.forall_mem_cons, List.not_mem_nil, false_implies, implies_true,
      and_true]
    refine ⟨htext _, .scalar trivial, .list ?_⟩
    simp only [List.forall_mem_cons, List.not_mem_nil, false_implies, implies_true, and_true]
    refine ⟨@Value.IsJson.dict _ ["library_name", "output_namespace", "units"] rfl (by decide) ?_,
      @Value.IsJson.dict _ ["library_name", "output_namespace"] rfl (by decide) ?_⟩
    · simp [htext, hunits]
    · simp [htext]
  have hsample : Describes IsLibraryName sampleEntries sample := by
    refine ⟨rfl, rfl, .yesWord (by decide), rfl, ⟨_, rfl, .list ?_⟩, List.cons_ne_nil _ _,
      by decide, .null⟩
    refine .cons (.dict rfl ⟨by decide, by decide⟩ (.str (by decide)) (.list ?_))
      (.cons (.dict rfl ⟨by decide, by decide⟩ .empty rfl) .nil)
    exact .cons (.file _) (.cons (.inline _) .nil)
  have hempty : (Value.dict []).IsJson := @Value.IsJson.dict _ [] rfl .nil nofun
  have hnone : ∀ c, ¬ Describes IsLibraryName [] c := by
    rintro c h
    obtain ⟨v, hv, -⟩ := h.modules
    cases hv
  exact ⟨hjson, hsample, ((outcome_validate_dict hjson none).1 sample).2 hsample, hnone, nofun,
    (outcome_validate_dict hempty none).2 hnone nofun⟩

/-- One module, whose library has half of a character for its name. -/
def halfEntries : List (Scalar × Value) :=
  [(.str "modules", .list [.dict [(.str "library_name", .str (String.ofList [ofCode 0xD800]))]])]

/-- These entries are not valid, though they describe a configuration if any string but the empty
one may be the name of a library. -/
theorem not_forall_outcome_validate_eq_ok_iff :
    ¬ ∀ entries, (Value.dict entries).IsJson → ∀ file c,
      (validate (.dict entries) file).outcome = .ok c ↔ Describes (· ≠ "") entries c := by
  intro h
  have hmodule :
      (Value.dict [(.str "library_name", .str (String.ofList [ofCode 0xD800]))]).IsJson :=
    @Value.IsJson.dict _ ["library_name"] rfl (by decide)
      (List.forall_mem_cons.2 ⟨.scalar trivial, nofun⟩)
  have hjson : (Value.dict halfEntries).IsJson :=
    @Value.IsJson.dict _ ["modules"] rfl (by decide)
      (List.forall_mem_cons.2 ⟨.list (List.forall_mem_cons.2 ⟨hmodule, nofun⟩), nofun⟩)
  have hdescribes : Describes (· ≠ "") halfEntries ⟨.csharp, some usualOutputDirectory, false, .stop,
      [⟨⟨String.ofList [ofCode 0xD800], none⟩, []⟩], none⟩ := by
    refine ⟨rfl, rfl, rfl, rfl, ⟨_, rfl, .list ?_⟩, List.cons_ne_nil _ _, by decide, rfl⟩
    exact .cons (.dict rfl (by decide) rfl rfl) .nil
  have hinvalid : (validate (.dict halfEntries) none).outcome.isOk = false := by decide
  rw [(h halfEntries hjson none _).2 hdescribes] at hinvalid
  cases hinvalid

end Configuration

end Interop
