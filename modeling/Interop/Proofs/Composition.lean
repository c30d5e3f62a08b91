import Mathlib.Algebra.GroupWithZero.Nat
import Interop.Proofs.Settled

/-!
# Passes in any order

The names that a renaming pass counts are those that it changes. As no name is changed twice, passes
count together the names that are others in the end. What they leave does not depend on their order,
nor on how often one of them occurs.
-/

namespace Interop

/-- The names in a declaration: its own, and those of its members. A name that is no text has no
text. -/
def Declaration.names (d : Declaration) : List (Option String) :=
  d.name.str? :: d.members.map (·.name.str?)

/-- The names in a unit. -/
def SourceUnit.names (u : SourceUnit) : List (Option String) := u.declarations.flatMap (·.names)

/-- The names in a unit that passes look at: none in a file of the system. -/
def SourceUnit.ownNames (u : SourceUnit) : List (Option String) :=
  if u.isSystemHeader then [] else u.names

/-- The names in a program, in order. -/
def Program.names (p : Program) : List (Option String) := p.units.flatMap (·.names)

/-- The names in a program that passes look at. -/
def Program.ownNames (p : Program) : List (Option String) := p.units.flatMap (·.ownNames)

/-- How many names of a program are others in a second program. -/
def Program.changedNames (p q : Program) : Nat := (p.names.zip q.names).countP fun n => n.1 != n.2

namespace Identifier

/-- Whether a name is a text among some words. -/
def isAmong (words : List String) (name : Option String) : Bool := name.any words.contains

/-- A name is another one after going through words exactly if it is among them. -/
theorem bne_escape (words : List String) (name : Option String) :
    (name != name.map (escape words)) = isAmong words name := by
  cases name with
  | none => rfl
  | some n =>
    change (some n != some (escape words n)) = words.contains n
    rw [Bool.eq_iff_iff, bne_iff_ne, List.contains_iff_mem]
    exact (not_congr (Option.some_inj.trans eq_comm)).trans escape_ne_iff

/-- Without words all names stay. -/
theorem map_escape_nil (names : List (Option String)) :
    names.map (Option.map (escape [])) = names :=
  (List.map_congr_left fun n _ => by cases n <;> rfl).trans (List.map_id _)

/-- Without words no name is among them. -/
theorem countP_isAmong_nil (names : List (Option String)) : names.countP (isAmong []) = 0 :=
  List.countP_eq_zero.2 fun n _ => by cases n <;> exact Bool.false_ne_true

/-- The names that are others after going through words are those among them. -/
theorem countP_zip_escape (words : List String) (names : List (Option String)) :
    (names.zip (names.map (Option.map (escape words)))).countP (fun n => n.1 != n.2) =
      names.countP (isAmong words) := by
  induction names with
  | nil => rfl
  | cons n rest ih =>
    rw [List.map_cons, List.zip_cons_cons, List.countP_cons, List.countP_cons, ih]
    dsimp only
    rw [bne_escape]

/-- A name is among all words if it is among the first of them, or comes out among the second, and
it never does both. -/
theorem isAmong_append (first : List String) {second : List String}
    (h : ∀ w ∈ second, isReserved w = false) (n : Option String) :
    ¬(isAmong first n = true ∧ isAmong second (n.map (escape first)) = true) ∧
      (isAmong (first ++ second) n = true ↔
        isAmong first n = true ∨ isAmong second (n.map (escape first)) = true) := by
  cases n with
  | none => exact ⟨fun h => (nomatch h.1), by simp [isAmong]⟩
  | some n =>
    simp only [isAmong, Option.map_some, Option.any_some, List.contains_iff_mem, List.mem_append]
    by_cases hw : n ∈ first
    · have hfree := reserve_not_mem h n
      rw [escape_of_mem hw]
      exact ⟨fun hb => hfree hb.2, ⟨fun _ => .inl hw, fun _ => .inl hw⟩⟩
    · rw [escape_of_not_mem hw]
      exact ⟨fun hb => hw hb.1, Iff.rfl⟩

/-- Names among words, and then names among others that are not made up, are the names among all of
them: no name is counted twice. -/
theorem countP_isAmong_append (first : List String) {second : List String}
    (h : ∀ w ∈ second, isReserved w = false) (names : List (Option String)) :
    names.countP (isAmong first) +
        (names.map (Option.map (escape first))).countP (isAmong second) =
      names.countP (isAmong (first ++ second)) := by
  induction names with
  | nil => rfl
  | cons n rest ih =>
    obtain ⟨hboth, heither⟩ := isAmong_append first h n
    rw [List.map_cons, List.countP_cons, List.countP_cons, List.countP_cons, ← ih]
    by_cases hf : isAmong first n = true
    · rw [if_pos hf, if_neg fun hs => hboth ⟨hf, hs⟩, if_pos (heither.2 (.inl hf))]
      omega
    · by_cases hs : isAmong second (n.map (escape first)) = true
      · rw [if_neg hf, if_pos hs, if_pos (heither.2 (.inr hs))]
        omega
      · rw [if_neg hf, if_neg hs, if_neg fun ha => (heither.1 ha).elim hf hs]
        omega

end Identifier

/-- Renaming is the only thing that happens to the names in a declaration. -/
theorem Declaration.names_renamed (words : List String) (d : Declaration) :
    (d.renamed words).names = d.names.map (Option.map (Identifier.escape words)) := by
  unfold names
  rw [Pass.members_renamed, List.map_map, List.map_cons, List.map_map]
  refine congr (congrArg List.cons ?_) (List.map_congr_left fun m _ => ?_)
  · exact Label.str?_name_renamed words d.toLabel
  · exact Label.str?_name_renamed words m.toLabel

/-- What a pass makes of the names in a declaration. -/
theorem Declaration.names_onDeclaration (pass : Pass) (d : Declaration) :
    (pass.onDeclaration d).names = d.names.map (Option.map (Identifier.escape pass.words)) := by
  cases pass with
  | ignoreUnnamed => exact (Identifier.map_escape_nil _).symm
  | custom name visit => exact (Identifier.map_escape_nil _).symm
  | renameReserved words => exact d.names_renamed words

/-- What a pass makes of the names that it looks at. -/
theorem SourceUnit.ownNames_onUnit (pass : Pass) (u : SourceUnit) :
    (pass.onUnit u).ownNames = u.ownNames.map (Option.map (Identifier.escape pass.words)) := by
  unfold ownNames Pass.onUnit
  by_cases hs : u.isSystemHeader = true
  · rw [if_pos hs, if_pos hs, List.map_nil]
  · rw [if_neg hs, if_neg hs, if_neg hs, names, names, List.map_flatMap, List.flatMap_map]
    simp only [Declaration.names_onDeclaration]

/-- What a pass makes of the names in a program that it looks at. -/
theorem Program.ownNames_mapUnits (pass : Pass) (p : Program) :
    (p.mapUnits pass.onUnit).ownNames =
      p.ownNames.map (Option.map (Identifier.escape pass.words)) := by
  unfold ownNames
  rw [units_mapUnits, List.flatMap_map, List.map_flatMap]
  simp only [SourceUnit.ownNames_onUnit]

/-- In a unit, the words of all passes are what happens to the names that passes look at, and
nothing to the names in a file of the system. -/
theorem SourceUnit.names_settled (passes : List Pass) (u : SourceUnit) :
    (u.settled passes).names = u.names.map
      (Option.map (Identifier.escape (if u.isSystemHeader then [] else Pass.allWords passes))) := by
  unfold settled
  by_cases hs : u.isSystemHeader = true
  · rw [if_pos hs, if_pos hs, Identifier.map_escape_nil]
  · rw [if_neg hs, if_neg hs, names, names, List.flatMap_map, List.map_flatMap]
    exact congrArg (List.flatMap · u.declarations) (funext fun d => d.names_renamed _)

/-- The names of a unit that are others when all passes are through are those among their words that
passes look at. -/
theorem SourceUnit.countP_names_settled (passes : List Pass) (u : SourceUnit) :
    (u.names.zip (u.settled passes).names).countP (fun n => n.1 != n.2) =
      u.ownNames.countP (Identifier.isAmong (Pass.allWords passes)) := by
  rw [names_settled, Identifier.countP_zip_escape, ownNames]
  split
  · exact Identifier.countP_isAmong_nil _
  · rfl

/-- The names of a program that are others when all passes are through are those among their words
that passes look at. -/
theorem Program.changedNames_settled (passes : List Pass) (p : Program) :
    p.changedNames (p.mapUnits (SourceUnit.settled passes)) =
      p.ownNames.countP (Identifier.isAmong (Pass.allWords passes)) := by
  unfold changedNames names ownNames
  rw [units_mapUnits, List.flatMap_map]
  induction p.units with
  | nil => rfl
  | cons u rest ih =>
    have hlength : u.names.length = (u.settled passes).names.length := by
      rw [SourceUnit.names_settled, List.length_map]
    rw [List.flatMap_cons, List.flatMap_cons, List.flatMap_cons, List.zip_append hlength,
      List.countP_append, List.countP_append, SourceUnit.countP_names_settled, ih]

/-- If the first visit does not stop, the names that both change are counted together. -/
theorem Visit.renamed_both {α β γ : Type} (combine : α → β → γ) {first : Visit α}
    (h : first.stopped = false) (unvisited : β) (second : Unit → Visit β) :
    (both combine first unvisited second).renamed = first.renamed + (second ()).renamed := by
  unfold both
  rw [h]
  rfl

/-- If no member of a list stops a visit, all names that the visit changes in it are counted. -/
theorem Visit.renamed_list {α β : Type} (visit : α → Visit α) (names : α → List β)
    {c : β → Bool} {l : List α} (hstopped : ∀ a ∈ l, (visit a).stopped = false)
    (h : ∀ a ∈ l, (visit a).renamed = (names a).countP c) :
    (list visit l).renamed = (l.flatMap names).countP c := by
  induction l with
  | nil => rfl
  | cons a rest ih =>
    obtain ⟨ha, hrest⟩ := List.forall_mem_cons.1 h
    obtain ⟨hs, hstopped⟩ := List.forall_mem_cons.1 hstopped
    rw [list, renamed_both _ hs, ha, ih hstopped hrest, List.flatMap_cons, List.countP_append]

namespace Pass

/-- Renaming a label counts its name if it is among the words. -/
theorem renamed_renameLabel (words : List String) (filePath : String) (l : Label) :
    (renameLabel words filePath l).renamed = [l.name.str?].countP (Identifier.isAmong words) := by
  obtain ⟨name, nativeName, isGenerated⟩ := l
  unfold renameLabel
  dsimp only
  cases name with
  | scalar key =>
    cases key with
    | str n =>
      dsimp only
      rw [List.countP_singleton]
      change _ = if words.contains n then 1 else 0
      cases words.contains n <;> rfl
    | _ => rfl
  | _ => rfl

/-- Renaming a declaration counts the names in it that are among the words. -/
theorem renamed_renameDeclaration (words : List String) (filePath : String) {d : Declaration}
    (h : d.HasKeys) :
    (renameDeclaration words filePath d).renamed =
      d.names.countP (Identifier.isAmong words) := by
  have hmembers := Visit.renamed_list (renameMember words filePath)
    (fun m : Member => [m.name.str?])
    (fun m hm => (renameLabel_of_isKey words filePath (h.members m hm)).2)
    fun m _ => renamed_renameLabel words filePath m.toLabel
  have hlabel := (renameLabel_of_isKey words filePath h.name).2
  unfold renameDeclaration
  rw [Visit.renamed_both _ hlabel, renamed_renameLabel, hmembers, ← List.map_eq_flatMap,
    ← List.countP_append]
  rfl

/-- Hiding counts no name. -/
theorem renamed_hideUnnamed (filePath : String) (d : Declaration) :
    (hideUnnamed filePath d).renamed = 0 := by
  unfold hideUnnamed
  split <;> rfl

/-- What a pass counts in a unit are the names among its words that it looks at. -/
theorem renamed_visit {pass : Pass} (hb : pass.IsBuiltIn) {u : SourceUnit} (hu : u.HasKeys) :
    (pass.visit u).renamed = u.ownNames.countP (Identifier.isAmong pass.words) := by
  unfold visit SourceUnit.ownNames
  by_cases hs : u.isSystemHeader = true
  · rw [if_pos hs, if_pos hs]
    rfl
  · rw [if_neg hs, if_neg hs]
    cases pass with
    | ignoreUnnamed =>
      exact Visit.renamed_list _ _ (fun d _ => (hideUnnamed_eq u.filePath d).2) fun d _ =>
        (renamed_hideUnnamed u.filePath d).trans (Identifier.countP_isAmong_nil _).symm
    | renameReserved words =>
      have hd := hu (Bool.eq_false_iff.2 hs)
      exact Visit.renamed_list _ _
        (fun d hm => (renameDeclaration_of_hasKeys words u.filePath (hd d hm)).2)
        fun d hm => renamed_renameDeclaration words u.filePath (hd d hm)
    | custom name visit => exact hb.elim

/-- What a pass counts in a program are the names among its words that it looks at. -/
theorem renamed_run {pass : Pass} (hb : pass.IsBuiltIn) {p : Program} (hp : p.HasKeys) :
    (pass.run p).renamed = p.ownNames.countP (Identifier.isAmong pass.words) := by
  have hunits (us : List SourceUnit) (hus : ∀ u ∈ us, u.HasKeys) :
      (Visit.list pass.visit us).stopped = false ∧ (Visit.list pass.visit us).renamed =
        (us.flatMap (·.ownNames)).countP (Identifier.isAmong pass.words) :=
    ⟨(Visit.list_of_not_stopped pass.visit us fun u hu => (visit_of_hasKeys hb (hus u hu)).2).2,
      Visit.renamed_list _ _ (fun u hu => (visit_of_hasKeys hb (hus u hu)).2)
        fun u hu => renamed_visit hb (hus u hu)⟩
  have hmodule : ∀ m ∈ p.modules, ∀ u ∈ m.units, u.HasKeys := fun m hm u hu =>
    hp u (List.mem_append_left _ (List.mem_flatMap.2 ⟨m, hm, hu⟩))
  have hloose := hunits p.loose fun u hu => hp u (List.mem_append_right _ hu)
  have hmodules := Visit.list_of_not_stopped
    (fun m : Module => (Visit.list pass.visit m.units).map fun units => { m with units := units })
    p.modules fun m hm => (hunits m.units (hmodule m hm)).1
  have hrenamed := Visit.renamed_list
    (fun m : Module => (Visit.list pass.visit m.units).map fun units => { m with units := units })
    (fun m => m.units.flatMap SourceUnit.ownNames) (c := Identifier.isAmong pass.words)
    (fun m hm => (hunits m.units (hmodule m hm)).1) fun m hm => (hunits m.units (hmodule m hm)).2
  unfold run Program.ownNames Program.units
  rw [Visit.renamed_both _ hmodules.2, hrenamed, hloose.2, List.flatMap_append,
    List.countP_append, List.flatMap_assoc]

end Pass

namespace PassEntry

/-- What a fresh pass counts, and what others count, is counted together. -/
theorem sum_renamedCount?_cons {pass : Pass} (hb : pass.IsBuiltIn) {p : Program} (hp : p.HasKeys)
    (more : List PassEntry) :
    ((⟨pass, 0 + (pass.run p).renamed⟩ :: more).filterMap (·.renamedCount?)).sum =
      (pass.run p).renamed + (more.filterMap (·.renamedCount?)).sum := by
  cases pass with
  | ignoreUnnamed =>
    have hnone : (Pass.ignoreUnnamed.run p).renamed = 0 :=
      (Pass.renamed_run hb hp).trans (Identifier.countP_isAmong_nil _)
    rw [hnone, Nat.zero_add, Nat.zero_add]
    rfl
  | renameReserved words =>
    change 0 + _ + _ = _
    rw [Nat.zero_add]
    rfl
  | custom name visit => exact hb.elim

/-- What fresh passes count all together are the names among all their words that passes look at.
Each pass sees the names as the passes before it leave them. -/
theorem sum_renamedCount?_runAll {passes : List Pass} (hpasses : ∀ pass ∈ passes, pass.IsProper)
    {p : Program} (hp : p.HasKeys) :
    ((runAll p (passes.map .fresh)).result.1.filterMap (·.renamedCount?)).sum =
      p.ownNames.countP (Identifier.isAmong (Pass.allWords passes)) := by
  induction passes generalizing p with
  | nil => exact (Identifier.countP_isAmong_nil _).symm
  | cons pass rest ih =>
    obtain ⟨hpass, hrest⟩ := List.forall_mem_cons.1 hpasses
    obtain ⟨hresult, hstopped⟩ := Pass.run_of_hasKeys hpass.isBuiltIn hp
    have hcons := (runAll_cons_of_not_stopped (e := fresh pass) hstopped (rest.map .fresh)).1
    have hmore := ih hrest (Pass.hasKeys_mapUnits pass hp)
    rw [Program.ownNames_mapUnits, ← hresult] at hmore
    rw [List.map_cons, hcons]
    refine (sum_renamedCount?_cons hpass.isBuiltIn hp _).trans ?_
    rw [Pass.renamed_run hpass.isBuiltIn hp]
    refine (congrArg _ hmore).trans ?_
    exact Identifier.countP_isAmong_append pass.words (Pass.isReserved_of_mem_allWords hrest) _

end PassEntry

/-- Fresh passes, each hiding or renaming, none with the empty text or a made-up name among its
words, go through a program whose own names are texts. They leave it as all of them together do: a
name is made up if it was among the words of any pass, and a declaration is hidden if one of the
passes hides and it had no name. The names that they count are those that became others, and the
same passes in any other order, some of them more than once, leave the same program. -/
theorem PassEntry.runAll_settled {passes : List Pass} (hpasses : ∀ pass ∈ passes, pass.IsProper)
    {p : Program} (hp : ∀ u ∈ p.units, u.isSystemHeader = false → u.HasTextNames) :
    let r := runAll p (passes.map .fresh)
    r.stopped = false ∧
      r.result.2 = p.mapUnits (SourceUnit.settled passes) ∧
      (r.result.1.filterMap (·.renamedCount?)).sum = p.changedNames r.result.2 ∧
      ∀ others : List Pass, (∀ pass, pass ∈ others ↔ pass ∈ passes) →
        (runAll p (others.map .fresh)).result.2 = r.result.2 := by
  intro r
  have hrun {qs : List Pass} (hqs : ∀ q ∈ qs, q.IsProper) :
      (runAll p (qs.map .fresh)).result.2 = p.mapUnits (SourceUnit.settled qs) ∧
        (runAll p (qs.map .fresh)).stopped = false := by
    have h := runAll_eq_settled (qs.map .fresh) (by rwa [map_pass_fresh]) hp
    rwa [map_pass_fresh] at h
  have hcount := sum_renamedCount?_runAll hpasses (Program.hasKeys_of_hasTextNames hp)
  refine ⟨(hrun hpasses).2, (hrun hpasses).1, ?_, fun others hothers => ?_⟩
  · rw [(hrun hpasses).1, Program.changedNames_settled]
    exact hcount
  · have hproper : ∀ q ∈ others, q.IsProper := fun q hq => hpasses q ((hothers q).1 hq)
    rw [(hrun hpasses).1, (hrun hproper).1]
    exact Program.mapUnits_congr fun u _ => u.settled_congr hothers

/-- Two passes that rename, with a word in common, and one that hides: three names of the program
become others, and each counts once. The second unit is hidden, and a longer list of the same passes
changes nothing of this. -/
theorem PassEntry.runAll_settled_core :
    let passes := [Pass.renameReserved ["event", "lock"], .ignoreUnnamed,
      .renameReserved ["object", "event"]]
    let others := [Pass.ignoreUnnamed, .renameReserved ["object", "event"], .ignoreUnnamed,
      .renameReserved ["event", "lock"]]
    let p := Program.ofModules [.core]
    let r := runAll p (passes.map .fresh)
    (∀ pass ∈ passes, pass.IsProper) ∧
      (∀ u ∈ p.units, u.isSystemHeader = false → u.HasTextNames) ∧
      (∀ pass, pass ∈ others ↔ pass ∈ passes) ∧
      r.stopped = false ∧
      r.result.2.names = [some "__event", some "__object", some "__lock", some "text", some ""] ∧
      (r.result.1.filterMap (·.renamedCount?)).sum = 3 ∧
      r.result.2.units.map (·.generatedDeclarations.length) = [2, 0] ∧
      (runAll p (others.map .fresh)).result.2 = r.result.2 := by
  intro passes others p r
  have hproper : ∀ pass ∈ passes, pass.IsProper := by
    intro pass hpass
    simp only [passes, List.mem_cons, List.not_mem_nil, or_false] at hpass
    rcases hpass with rfl | rfl | rfl <;> exact ⟨trivial, by decide, by decide⟩
  have hplain : p.IsPlain := by decide +kernel
  have hnames : ∀ u ∈ p.units, u.isSystemHeader = false → u.HasTextNames := fun u hu _ =>
    (hplain u hu).hasTextNames
  have hsame : ∀ pass, pass ∈ others ↔ pass ∈ passes := fun pass => by
    simp only [others, passes, List.mem_cons, List.not_mem_nil, or_false]
    grind
  obtain ⟨hstopped, hresult, hcount, hothers⟩ := runAll_settled hproper hnames
  refine ⟨hproper, hnames, hsame, hstopped, ?_, hcount.trans ?_, ?_, hothers others hsame⟩
  all_goals
    rw [hresult]
    decide +kernel

end Interop
