import Interop.Proofs.Passes
import Interop.Proofs.Program

/-!
# What passes do all together

A made-up name is never empty, and never a reserved word unless such a word is made up itself. So
renaming renames a name at most once, and neither hides nor shows a declaration; hiding leaves all
names alone. What passes make of a unit therefore depends on the words that they reserve all
together, and on whether one of them hides.
-/

namespace Interop

namespace Identifier

/-- The made-up name for a name among some words, and any other name as it is. -/
def escape (words : List String) (name : String) : String :=
  if words.contains name then reserve name else name

/-- Every word has its made-up name. -/
theorem escape_of_mem {words : List String} {name : String} (h : name ∈ words) :
    escape words name = reserve name :=
  if_pos (List.contains_iff_mem.2 h)

/-- A name that is no word stays. -/
theorem escape_of_not_mem {words : List String} {name : String} (h : name ∉ words) :
    escape words name = name :=
  if_neg fun hc => h (List.contains_iff_mem.1 hc)

/-- A name is changed exactly if it is among the words. -/
theorem escape_ne_iff {words : List String} {name : String} :
    escape words name ≠ name ↔ name ∈ words := by
  by_cases hw : name ∈ words
  · rw [escape_of_mem hw]
    exact ⟨fun _ => hw, fun _ => reserve_ne name⟩
  · rw [escape_of_not_mem hw]
    exact ⟨fun h => absurd rfl h, fun h => absurd h hw⟩

/-- If the empty text is no word, the names that come out empty are those that were. -/
theorem escape_eq_empty_iff {words : List String} (h : "" ∉ words) {name : String} :
    escape words name = "" ↔ name = "" := by
  by_cases hw : name ∈ words
  · rw [escape_of_mem hw]
    exact ⟨fun he => absurd he (reserve_ne_empty name), fun he => absurd (he ▸ hw) h⟩
  · rw [escape_of_not_mem hw]

/-- A made-up name is none of the words that are not made up. -/
theorem reserve_not_mem {words : List String} (h : ∀ w ∈ words, isReserved w = false)
    (name : String) : reserve name ∉ words := by
  intro hw
  have hfree := h _ hw
  rw [isReserved_reserve] at hfree
  cases hfree

/-- Going through words and then through others is going through all of them, if the others are not
made up. -/
theorem escape_escape (first : List String) {second : List String}
    (h : ∀ w ∈ second, isReserved w = false) (name : String) :
    escape second (escape first name) = escape (first ++ second) name := by
  by_cases hw : name ∈ first
  · rw [escape_of_mem hw, escape_of_not_mem (reserve_not_mem h name),
      escape_of_mem (List.mem_append_left second hw)]
  · rw [escape_of_not_mem hw]
    by_cases hw' : name ∈ second
    · rw [escape_of_mem hw', escape_of_mem (List.mem_append_right first hw')]
    · rw [escape_of_not_mem hw', escape_of_not_mem]
      exact fun hm => (List.mem_append.1 hm).elim hw hw'

end Identifier

namespace Pass

/-- The words that a pass reserves. -/
def words : Pass → List String
  | renameReserved words => words
  | _ => []

/-- Whether a pass hides declarations without a name. -/
def hidesUnnamed : Pass → Bool
  | ignoreUnnamed => true
  | _ => false

/-- The words that some passes reserve, all together. -/
def allWords (passes : List Pass) : List String := passes.flatMap words

/-- A pass that backends need, whose words are neither empty nor made up. -/
structure IsProper (pass : Pass) : Prop where
  /-- The pass hides or renames. -/
  isBuiltIn : pass.IsBuiltIn
  /-- The empty text is not reserved. -/
  ne_empty : "" ∉ pass.words
  /-- No made-up name is reserved. -/
  isReserved : ∀ w ∈ pass.words, Identifier.isReserved w = false

/-- No made-up name is among the words of proper passes. -/
theorem isReserved_of_mem_allWords {passes : List Pass} (h : ∀ pass ∈ passes, pass.IsProper) :
    ∀ w ∈ allWords passes, Identifier.isReserved w = false := by
  intro w hw
  obtain ⟨pass, hp, hw⟩ := List.mem_flatMap.1 hw
  exact (h pass hp).isReserved w hw

end Pass

/-- A declaration as some passes leave it: it has a made-up name if its name is one of their words,
and so have its members; it is not generated if it was not, or if one of the passes hides and its
name is empty. -/
def Declaration.settled (passes : List Pass) (d : Declaration) : Declaration :=
  { d.renamed (Pass.allWords passes) with
    isGenerated := d.isGenerated && !(passes.any Pass.hidesUnnamed && d.name.str? == some "") }

/-- A unit as some passes leave it: files of the system stay as they are. -/
def SourceUnit.settled (passes : List Pass) (u : SourceUnit) : SourceUnit :=
  if u.isSystemHeader then u
  else { u with declarations := u.declarations.map (·.settled passes) }

namespace Label

variable (words : List String) {l : Label}

/-- A label whose name is no text stays. -/
theorem renamed_of_str?_eq_none (h : l.name.str? = none) : l.renamed words = l := by
  unfold renamed
  split
  · rename_i n hn
    rw [hn] at h
    cases h
  · rfl

/-- Renaming touches nothing of a label but its name. -/
theorem renamed_of_str?_eq_some {n : String} (h : l.name.str? = some n) :
    l.renamed words = { l with name := .str (Identifier.escape words n) } := by
  obtain ⟨m, hm⟩ := Value.isSome_str?_iff.1 (h ▸ rfl : l.name.str?.isSome = true)
  rw [hm] at h
  unfold renamed
  rw [hm, ← Option.some.inj h]
  rfl

/-- The text of a renamed label's name. -/
theorem str?_name_renamed (l : Label) :
    (l.renamed words).name.str? = l.name.str?.map (Identifier.escape words) := by
  cases h : l.name.str? with
  | none => rw [renamed_of_str?_eq_none words h, h, Option.map_none]
  | some n =>
    rw [renamed_of_str?_eq_some words h]
    rfl

/-- Renaming is not concerned with the flag of a label. -/
theorem renamed_withGenerated (l : Label) (isGenerated : Bool) :
    ({ l with isGenerated := isGenerated } : Label).renamed words =
      { l.renamed words with isGenerated := isGenerated } := by
  cases h : l.name.str? with
  | none =>
    rw [renamed_of_str?_eq_none words h]
    exact renamed_of_str?_eq_none words h
  | some n =>
    rw [renamed_of_str?_eq_some words h]
    exact renamed_of_str?_eq_some words h

/-- Without words a label stays. -/
theorem renamed_nil (l : Label) : l.renamed [] = l := by
  cases h : l.name.str? with
  | none => exact renamed_of_str?_eq_none [] h
  | some n =>
    obtain ⟨m, hm⟩ := Value.isSome_str?_iff.1 (h ▸ rfl : l.name.str?.isSome = true)
    have hs : l.name.str? = some m := by rw [hm]; rfl
    rw [renamed_of_str?_eq_some [] hs]
    exact congrArg (fun v => { l with name := v }) hm.symm

/-- Going through words and then through others is going through all of them, if the others are not
made up. -/
theorem renamed_renamed {second : List String}
    (hsecond : ∀ w ∈ second, Identifier.isReserved w = false) (l : Label) :
    (l.renamed words).renamed second = l.renamed (words ++ second) := by
  cases h : l.name.str? with
  | none =>
    rw [renamed_of_str?_eq_none words h, renamed_of_str?_eq_none _ h,
      renamed_of_str?_eq_none _ h]
  | some n =>
    rw [renamed_of_str?_eq_some words h, renamed_of_str?_eq_some _ h,
      renamed_of_str?_eq_some second rfl, Identifier.escape_escape words hsecond]

end Label

/-- The members that a body has can be put in without any change. -/
theorem Body.withMembers_members (body : Body) : body.withMembers body.members = body := by
  cases body <;> rfl

/-- Of members that are put in twice, the second ones stay. -/
theorem Body.withMembers_withMembers (body : Body) (first second : List Member) :
    (body.withMembers first).withMembers second = body.withMembers second := by
  cases body <;> rfl

namespace Declaration

/-- Without words a declaration stays. -/
theorem renamed_nil (d : Declaration) : d.renamed [] = d := by
  have hmembers : d.members.map (·.renamed []) = d.members := by
    refine (List.map_congr_left fun m _ => ?_).trans (List.map_id _)
    exact congrArg (fun l => { m with toLabel := l }) m.toLabel.renamed_nil
  unfold renamed
  rw [hmembers, Label.renamed_nil]
  exact congrArg (fun b => { d with body := b }) d.body.withMembers_members

/-- Going through words and then through others is going through all of them, if the others are not
made up. -/
theorem renamed_renamed (first : List String) {second : List String}
    (h : ∀ w ∈ second, Identifier.isReserved w = false) (d : Declaration) :
    (d.renamed first).renamed second = d.renamed (first ++ second) := by
  have hmembers : (d.members.map (·.renamed first)).map (·.renamed second) =
      d.members.map (·.renamed (first ++ second)) := by
    rw [List.map_map]
    refine List.map_congr_left fun m _ => ?_
    exact congrArg (fun l => { m with toLabel := l }) (m.toLabel.renamed_renamed first h)
  change ({
    toLabel := (d.toLabel.renamed first).renamed second
    body := (d.body.withMembers (d.members.map (·.renamed first))).withMembers
      ((d.renamed first).members.map (·.renamed second)) } : Declaration) = _
  rw [Pass.members_renamed, hmembers, Label.renamed_renamed first h, Body.withMembers_withMembers]
  rfl

/-- Without passes a declaration stays as it is. -/
theorem settled_nil (d : Declaration) : d.settled [] = d := by
  have hgenerated : (d.isGenerated && !([].any Pass.hidesUnnamed && d.name.str? == some "")) =
      d.isGenerated := Bool.and_true _
  unfold settled Pass.allWords
  rw [List.flatMap_nil, hgenerated, renamed_nil]

/-- Renaming first, and then going on with other passes, is going through all of them. -/
theorem settled_renamed {words : List String} (hempty : "" ∉ words) {passes : List Pass}
    (h : ∀ w ∈ Pass.allWords passes, Identifier.isReserved w = false) (d : Declaration) :
    (d.renamed words).settled passes = d.settled (.renameReserved words :: passes) := by
  have hname : ((d.renamed words).name.str? == some "") = (d.name.str? == some "") := by
    change ((d.toLabel.renamed words).name.str? == some "") = _
    rw [Label.str?_name_renamed]
    cases d.name.str? with
    | none => rfl
    | some n =>
      rw [Bool.eq_iff_iff]
      simp [Identifier.escape_eq_empty_iff hempty]
  unfold settled
  rw [hname, Pass.isGenerated_renamed, renamed_renamed words h]
  rfl

/-- Hiding first, and then going on with other passes, is going through all of them. -/
theorem settled_hidden (passes : List Pass) {d : Declaration} (h : ∃ n, d.name = .str n) :
    d.hidden.settled passes = d.settled (.ignoreUnnamed :: passes) := by
  obtain ⟨n, hn⟩ := h
  have htruthy : d.name.isTruthy = !(d.name.str? == some "") := by
    rw [hn]
    change (!n.isEmpty) = !(some n == some "")
    congr 1
    exact Bool.eq_iff_iff.2 (String.isEmpty_iff.trans (by simp))
  have hrenamed : d.hidden.renamed (Pass.allWords passes) =
      { d.renamed (Pass.allWords passes) with isGenerated := d.hidden.isGenerated } :=
    congrArg (fun l => ({ toLabel := l, body := (d.renamed (Pass.allWords passes)).body } :
      Declaration)) (d.toLabel.renamed_withGenerated _ _)
  have hflag : (d.hidden.isGenerated && !(passes.any Pass.hidesUnnamed && d.name.str? == some "")) =
      (d.isGenerated && !((Pass.ignoreUnnamed :: passes).any Pass.hidesUnnamed &&
        d.name.str? == some "")) := by
    change (d.isGenerated && d.name.isTruthy && _) = (d.isGenerated && !((true || _) && _))
    rw [htruthy]
    cases d.isGenerated <;> cases (d.name.str? == some "") <;> simp
  unfold settled
  rw [hrenamed]
  exact congrArg (fun b => { d.renamed (Pass.allWords passes) with isGenerated := b }) hflag

/-- What a pass makes of a declaration keeps a text as its name. -/
theorem exists_name_onDeclaration (pass : Pass) {d : Declaration} (h : ∃ n, d.name = .str n) :
    ∃ n, (pass.onDeclaration d).name = .str n := by
  cases pass with
  | ignoreUnnamed => exact h
  | custom name visit => exact h
  | renameReserved words =>
    obtain ⟨n, hn⟩ := h
    have hs : d.toLabel.name.str? = some n := by rw [hn]; rfl
    exact ⟨Identifier.escape words n,
      congrArg Label.name (Label.renamed_of_str?_eq_some words hs)⟩

/-- One pass, and then all others, is all passes. -/
theorem settled_onDeclaration {pass : Pass} (hpass : pass.IsProper) {passes : List Pass}
    (hpasses : ∀ q ∈ passes, q.IsProper) {d : Declaration} (h : ∃ n, d.name = .str n) :
    (pass.onDeclaration d).settled passes = d.settled (pass :: passes) := by
  cases pass with
  | ignoreUnnamed => exact settled_hidden passes h
  | renameReserved words =>
    exact settled_renamed hpass.ne_empty (Pass.isReserved_of_mem_allWords hpasses) d
  | custom name visit => exact hpass.isBuiltIn.elim

end Declaration

namespace Pass

/-- What a pass makes of a unit keeps texts as names of its declarations. -/
theorem exists_name_onUnit (pass : Pass) {u : SourceUnit}
    (h : u.isSystemHeader = false → ∀ d ∈ u.declarations, ∃ n, d.name = .str n) :
    (pass.onUnit u).isSystemHeader = false →
      ∀ d ∈ (pass.onUnit u).declarations, ∃ n, d.name = .str n := by
  unfold onUnit
  split
  · exact h
  · intro hs d hd
    obtain ⟨e, he, rfl⟩ := List.mem_map.1 hd
    exact Declaration.exists_name_onDeclaration pass (h hs e he)

/-- Passes that run one after the other do to a unit what they do all together. -/
theorem onUnitAll_eq_settled {passes : List Pass} (hpasses : ∀ pass ∈ passes, pass.IsProper)
    {u : SourceUnit}
    (h : u.isSystemHeader = false → ∀ d ∈ u.declarations, ∃ n, d.name = .str n) :
    onUnitAll passes u = u.settled passes := by
  induction passes generalizing u with
  | nil =>
    have hall : u.declarations.map (·.settled []) = u.declarations :=
      (List.map_congr_left fun d _ => d.settled_nil).trans (List.map_id _)
    change u = _
    unfold SourceUnit.settled
    rw [hall]
    exact (ite_self u).symm
  | cons pass rest ih =>
    obtain ⟨hpass, hrest⟩ := List.forall_mem_cons.1 hpasses
    refine (ih hrest (exists_name_onUnit pass h)).trans ?_
    unfold SourceUnit.settled onUnit
    by_cases hs : u.isSystemHeader = true
    · rw [if_pos hs, if_pos hs, if_pos hs]
    · have hd := h (Bool.eq_false_iff.2 hs)
      rw [if_neg hs, if_neg hs, if_neg hs, List.map_map]
      refine congrArg (fun ds => { u with declarations := ds }) (List.map_congr_left fun d hm => ?_)
      exact Declaration.settled_onDeclaration hpass hrest (hd d hm)

end Pass

/-- What happens to a label depends on which words there are, not on their order. -/
theorem Label.renamed_congr {first second : List String} (h : ∀ w, w ∈ first ↔ w ∈ second)
    (l : Label) : l.renamed first = l.renamed second := by
  have hcontains : first.contains = second.contains := funext fun w =>
    Bool.eq_iff_iff.2 (List.contains_iff_mem.trans ((h w).trans List.contains_iff_mem.symm))
  unfold renamed
  rw [hcontains]

/-- What happens to a declaration depends on which words there are, not on their order. -/
theorem Declaration.renamed_congr {first second : List String} (h : ∀ w, w ∈ first ↔ w ∈ second)
    (d : Declaration) : d.renamed first = d.renamed second := by
  have hmembers : d.members.map (·.renamed first) = d.members.map (·.renamed second) :=
    List.map_congr_left fun m _ =>
      congrArg (fun l => { m with toLabel := l }) (m.toLabel.renamed_congr h)
  unfold renamed
  rw [hmembers, Label.renamed_congr h]

/-- What happens to a unit depends on which passes there are, neither on their order nor on how
often one occurs. -/
theorem SourceUnit.settled_congr {first second : List Pass} (h : ∀ q, q ∈ first ↔ q ∈ second)
    (u : SourceUnit) : u.settled first = u.settled second := by
  have hwords : ∀ w, w ∈ Pass.allWords first ↔ w ∈ Pass.allWords second := fun w => by
    simp only [Pass.allWords, List.mem_flatMap, h]
  have hhides : first.any Pass.hidesUnnamed = second.any Pass.hidesUnnamed :=
    Bool.eq_iff_iff.2 (by simp only [List.any_eq_true, h])
  unfold settled Declaration.settled
  simp only [Declaration.renamed_congr hwords, hhides]

/-- The names of a plain unit are texts. -/
theorem SourceUnit.IsPlain.hasTextNames {u : SourceUnit} (h : u.IsPlain) : u.HasTextNames :=
  fun d hd => ⟨(h d hd).label.1, fun m hm => ((h d hd).members m hm).1.1⟩

/-- The names in a plain program of modules are texts. -/
theorem Program.IsPlain.hasTextNames {modules : List Module}
    (h : (Program.ofModules modules).IsPlain) : ∀ m ∈ modules, ∀ u ∈ m.units, u.HasTextNames := by
  intro m hm u hu
  refine (h u ?_).hasTextNames
  rw [units_ofModules]
  exact List.mem_flatMap.2 ⟨m, hm, hu⟩

/-- A program whose own names are texts has names that can be looked up. -/
theorem Program.hasKeys_of_hasTextNames {p : Program}
    (h : ∀ u ∈ p.units, u.isSystemHeader = false → u.HasTextNames) : p.HasKeys := by
  have hkey {v : Value} : (∃ n, v = .str n) → v.IsKey := by
    rintro ⟨n, rfl⟩
    exact trivial
  exact fun u hu hs d hd =>
    ⟨hkey (h u hu hs d hd).1, fun m hm => hkey ((h u hu hs d hd).2 m hm)⟩

/-- Proper passes that run one after the other leave a program with text names as all of them
together do. -/
theorem PassEntry.runAll_eq_settled (entries : List PassEntry)
    (hpasses : ∀ pass ∈ entries.map (·.pass), pass.IsProper) {p : Program}
    (hp : ∀ u ∈ p.units, u.isSystemHeader = false → u.HasTextNames) :
    (runAll p entries).result.2 = p.mapUnits (SourceUnit.settled (entries.map (·.pass))) ∧
      (runAll p entries).stopped = false := by
  have hbuiltIn : ∀ e ∈ entries, e.pass.IsBuiltIn := fun e he =>
    (hpasses e.pass (List.mem_map_of_mem he)).isBuiltIn
  have hrun := runAll_of_hasKeys hbuiltIn (Program.hasKeys_of_hasTextNames hp)
  refine ⟨hrun.1.trans (Program.mapUnits_congr fun u hu => ?_), hrun.2⟩
  exact Pass.onUnitAll_eq_settled hpasses fun hs d hd => (hp u hu hs d hd).1

/-- Passes leave names that can be looked up. -/
theorem Program.HasKeys.onUnitAll {p : Program} (h : p.HasKeys) (passes : List Pass) :
    (p.mapUnits (Pass.onUnitAll passes)).HasKeys := by
  induction passes generalizing p with
  | nil => exact (Program.mapUnits_id p).symm ▸ h
  | cons pass rest ih =>
    have hrest := ih (Pass.hasKeys_mapUnits pass h)
    rwa [Program.mapUnits_mapUnits] at hrest

/-- On a program that proper passes have left, the same passes in any order change nothing, however
often they occur. One run after the other is one run of all passes, which are those of the first run
again. -/
theorem PassEntry.runAll_again {entries again : List PassEntry}
    (hpasses : ∀ pass ∈ entries.map (·.pass), pass.IsProper)
    (hagain : ∀ pass ∈ again.map (·.pass), pass ∈ entries.map (·.pass)) {p : Program}
    (hp : ∀ u ∈ p.units, u.isSystemHeader = false → u.HasTextNames) :
    (runAll (runAll p entries).result.2 again).result.2 = (runAll p entries).result.2 ∧
      (runAll (runAll p entries).result.2 again).stopped = false := by
  have hkeys := Program.hasKeys_of_hasTextNames hp
  have hbuiltIn : ∀ e ∈ entries, e.pass.IsBuiltIn := fun e he =>
    (hpasses e.pass (List.mem_map_of_mem he)).isBuiltIn
  have hbuiltIn' : ∀ e ∈ again, e.pass.IsBuiltIn := fun e he =>
    (hpasses e.pass (hagain e.pass (List.mem_map_of_mem he))).isBuiltIn
  have hsame : ∀ pass, pass ∈ entries.map (·.pass) ++ again.map (·.pass) ↔
      pass ∈ entries.map (·.pass) := fun pass =>
    List.mem_append.trans ⟨fun h => h.elim id (hagain pass), .inl⟩
  have hall : ∀ pass ∈ entries.map (·.pass) ++ again.map (·.pass), pass.IsProper := fun pass h =>
    hpasses pass ((hsame pass).1 h)
  rw [(runAll_of_hasKeys hbuiltIn hkeys).1]
  obtain ⟨hresult, hstopped⟩ := runAll_of_hasKeys hbuiltIn' (hkeys.onUnitAll (entries.map (·.pass)))
  refine ⟨?_, hstopped⟩
  rw [hresult, Program.mapUnits_mapUnits]
  refine Program.mapUnits_congr fun u hu => ?_
  have hname : u.isSystemHeader = false → ∀ d ∈ u.declarations, ∃ n, d.name = .str n :=
    fun hs d hd => (hp u hu hs d hd).1
  calc Pass.onUnitAll (again.map (·.pass)) (Pass.onUnitAll (entries.map (·.pass)) u)
      = Pass.onUnitAll (entries.map (·.pass) ++ again.map (·.pass)) u := List.foldl_append.symm
    _ = u.settled (entries.map (·.pass) ++ again.map (·.pass)) :=
        Pass.onUnitAll_eq_settled hall hname
    _ = u.settled (entries.map (·.pass)) := u.settled_congr hsame
    _ = Pass.onUnitAll (entries.map (·.pass)) u := (Pass.onUnitAll_eq_settled hpasses hname).symm

/-- Running passes keeps which passes there are. -/
theorem PassEntry.map_pass_runAll (p : Program) (entries : List PassEntry) :
    (runAll p entries).result.1.map (·.pass) = entries.map (·.pass) := by
  induction entries generalizing p with
  | nil => rfl
  | cons e rest ih =>
    unfold runAll Visit.both
    dsimp only
    split
    · rfl
    · exact congrArg (e.pass :: ·) (ih _)

end Interop
