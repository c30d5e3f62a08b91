import Mathlib.Data.List.Nodup
import Interop.Proofs.Declared

/-!
# Names that collide

Made-up names differ from each other, but nothing keeps a made-up name apart from the names that a
program gives itself. So names that differ in a scope still differ after renaming, unless a reserved
word stands in the scope beside its own made-up name; then the two become one. A scope that renaming
does not reach, since a name somewhere else ends the pass, is left as it is, or renamed in part.
-/

namespace Interop

/-- The scopes of a unit, as the names in them: that of the declarations, and for every declaration
that of its fields or parameters. -/
def SourceUnit.scopes (u : SourceUnit) : List (List Value) :=
  u.declarations.map (·.name) :: u.declarations.map fun d => d.members.map (·.name)

namespace Identifier

variable {words names renamed : List String}

/-- Whether some word among names stands beside its own made-up name. -/
def Clash (words names : List String) : Prop := ∃ w ∈ words, w ∈ names ∧ reserve w ∈ names

/-- What may become of a name: it stays, or has a made-up name if it is among some words. -/
def BecomesUnder (words : List String) (name renamed : String) : Prop :=
  renamed = name ∨ name ∈ words ∧ renamed = reserve name

/-- If the same becomes of two names, one of them is a word and the other one its made-up name. -/
theorem clash_of_becomes {a b c : String} (hne : a ≠ b) (ha : BecomesUnder words a c)
    (hb : BecomesUnder words b c) (hamem : a ∈ names) (hbmem : b ∈ names) : Clash words names := by
  rcases ha with rfl | ⟨haword, rfl⟩
  · rcases hb with rfl | ⟨hbword, rfl⟩
    · exact absurd rfl hne
    · exact ⟨b, hbword, hbmem, hamem⟩
  · rcases hb with rfl | ⟨hbword, hsame⟩
    · exact ⟨a, haword, hamem, hbmem⟩
    · exact absurd (reserve_injective hsame) hne

/-- Names that differ still differ when some of the words among them have their made-up names, if
none of these words stands beside its own made-up name. If a name became the same as another one,
one of the two would be the made-up name of the other. -/
theorem nodup_of_becomes (h : List.Forall₂ (BecomesUnder words) names renamed)
    (hclash : ¬ Clash words names) (hnames : names.Nodup) : renamed.Nodup := by
  induction h with
  | nil => exact List.nodup_nil
  | @cons name new names renamed hfirst hrest ih =>
    obtain ⟨hfresh, hnames⟩ := List.nodup_cons.1 hnames
    refine List.nodup_cons.2 ⟨fun hmem => ?_, ih (fun ⟨w, hw, hmem, hreserve⟩ => hclash
      ⟨w, hw, List.mem_cons_of_mem _ hmem, List.mem_cons_of_mem _ hreserve⟩) hnames⟩
    obtain ⟨other, hother, hsame⟩ := forall_mem_of_forall₂ (P := (· ∈ names))
      (Q := fun b => ∃ a ∈ names, BecomesUnder words a b) (fun a b hab ha => ⟨a, ha, hab⟩) hrest
      (fun _ ha => ha) new hmem
    have hne : name ≠ other := fun heq => hfresh (heq ▸ hother)
    exact hclash (clash_of_becomes hne hfirst hsame List.mem_cons_self
      (List.mem_cons_of_mem _ hother))

/-- If a word that is not made up stands beside its own made-up name, the two become one. -/
theorem not_nodup_map_escape (hwords : ∀ w ∈ words, isReserved w = false)
    (hclash : Clash words names) : ¬ (names.map (escape words)).Nodup := by
  obtain ⟨w, hw, hmem, hreserve⟩ := hclash
  intro hnodup
  have hsame : escape words w = escape words (reserve w) := by
    rw [escape_of_mem hw, escape_of_not_mem (reserve_not_mem hwords w)]
  exact reserve_ne w (List.inj_on_of_nodup_map hnodup hmem hreserve hsame).symm

end Identifier

/-- What may become of a name that is any value: a text may be renamed, and all else stays. -/
def Value.BecomesUnder (words : List String) (name renamed : Value) : Prop :=
  renamed = name ∨ ∃ w ∈ words, name = .str w ∧ renamed = .str (Identifier.reserve w)

/-- Texts become texts. -/
theorem Value.exists_becomes {words names : List String} {renamed : List Value}
    (h : List.Forall₂ (BecomesUnder words) (names.map Value.str) renamed) :
    ∃ texts, renamed = texts.map Value.str ∧
      List.Forall₂ (Identifier.BecomesUnder words) names texts := by
  refine exists_map_of_forall₂ ((List.forall₂_map_left_iff.1 h).imp fun name v hv => ?_)
  rcases hv with rfl | ⟨w, hw, hname, rfl⟩
  · exact ⟨name, rfl, .inl rfl⟩
  · cases hname
    exact ⟨Identifier.reserve name, rfl, .inr ⟨hw, rfl⟩⟩

/-- What may become of a declaration: its own name may be made up, and those of its members. -/
structure Declaration.BecomesUnder (words : List String) (d e : Declaration) : Prop where
  /-- Its own name. -/
  name : d.name.BecomesUnder words e.name
  /-- The names of its members. -/
  members : List.Forall₂ (fun m n : Member => m.name.BecomesUnder words n.name) d.members e.members

/-- What may become of a unit: each of its declarations may be renamed. -/
def SourceUnit.BecomesUnder (words : List String) (u v : SourceUnit) : Prop :=
  List.Forall₂ (Declaration.BecomesUnder words) u.declarations v.declarations

/-- A declaration may stay as it is. -/
theorem Declaration.BecomesUnder.refl (words : List String) (d : Declaration) :
    d.BecomesUnder words d :=
  ⟨.inl rfl, List.forall₂_same.2 fun _ _ => .inl rfl⟩

/-- A unit may stay as it is. -/
theorem SourceUnit.BecomesUnder.refl (words : List String) (u : SourceUnit) :
    u.BecomesUnder words u :=
  List.forall₂_same.2 fun d _ => .refl words d

/-- The scopes of a unit become those of what becomes of it, name by name. -/
theorem SourceUnit.BecomesUnder.scopes {words : List String} {u v : SourceUnit}
    (h : u.BecomesUnder words v) :
    List.Forall₂ (List.Forall₂ (Value.BecomesUnder words)) u.scopes v.scopes := by
  refine .cons ?_ ?_
  · rw [List.forall₂_map_left_iff, List.forall₂_map_right_iff]
    exact h.imp fun d e hde => hde.name
  · rw [List.forall₂_map_left_iff, List.forall₂_map_right_iff]
    refine h.imp fun d e hde => ?_
    rw [List.forall₂_map_left_iff, List.forall₂_map_right_iff]
    exact hde.members

namespace Visit

variable {α β γ : Type}

/-- A visit of two things goes through if it goes through both of them. -/
theorem stopped_both_iff {combine : α → β → γ} {first : Visit α} {unvisited : β}
    {second : Unit → Visit β} : (both combine first unvisited second).stopped = false ↔
      first.stopped = false ∧ (second ()).stopped = false := by
  unfold both
  cases h : first.stopped with
  | false => simp
  | true => simp [map, h]

/-- A visit of a list goes through if it goes through all members. -/
theorem stopped_list_iff {visit : α → Visit α} {l : List α} :
    (list visit l).stopped = false ↔ ∀ a ∈ l, (visit a).stopped = false := by
  induction l with
  | nil => exact ⟨fun _ => nofun, fun _ => rfl⟩
  | cons a rest ih => rw [list, stopped_both_iff, ih, List.forall_mem_cons]

/-- Of two things the first is visited, and the second is visited or stays as it is. -/
theorem result_both (combine : α → β → γ) (first : Visit α) (unvisited : β)
    (second : Unit → Visit β) :
    (both combine first unvisited second).result = combine first.result unvisited ∨
      (both combine first unvisited second).result =
        combine first.result (second ()).result := by
  unfold both
  split
  · exact .inl rfl
  · exact .inr rfl

/-- Wherever a visit of a list stops, each member is visited or stays as it is. -/
theorem forall₂_list {R : α → α → Prop} {visit : α → Visit α} (hrefl : ∀ a, R a a)
    (hvisit : ∀ a, R a (visit a).result) (l : List α) :
    List.Forall₂ R l (list visit l).result := by
  induction l with
  | nil => exact .nil
  | cons a rest ih =>
    rw [list]
    rcases result_both List.cons (visit a) rest fun _ => list visit rest with h | h <;> rw [h]
    · exact .cons (hvisit a) (List.forall₂_same.2 fun b _ => hrefl b)
    · exact .cons (hvisit a) ih

end Visit

/-- Members that are put in place of as many others are the members. -/
theorem Body.members_withMembers_of_length {body : Body} {members : List Member}
    (h : members.length = body.members.length) : (body.withMembers members).members = members := by
  cases body with
  | enumeration items => exact (List.length_eq_zero_iff.1 h).symm
  | record isStruct fields => rfl
  | function result parameters => rfl

namespace Pass

variable (words : List String) (filePath : String)

/-- The name in a visited label may be made up. -/
theorem becomes_renameLabel (l : Label) :
    l.name.BecomesUnder words (renameLabel words filePath l).result.name := by
  unfold renameLabel
  split
  · rename_i name hname
    dsimp only
    split
    · rename_i hword
      exact .inr ⟨name, List.contains_iff_mem.1 hword, hname, rfl⟩
    · exact .inl rfl
  · exact .inl rfl
  · exact .inl rfl
  · exact .inl rfl

/-- The names in a visited declaration may be made up. -/
theorem becomes_renameDeclaration (d : Declaration) :
    d.BecomesUnder words (renameDeclaration words filePath d).result := by
  have hbody : ∀ members,
      List.Forall₂ (fun m n : Member => m.name.BecomesUnder words n.name) d.members members →
      List.Forall₂ (fun m n : Member => m.name.BecomesUnder words n.name) d.members
        (d.body.withMembers members).members := fun members h => by
    rwa [Body.members_withMembers_of_length h.length_eq.symm]
  have hname := becomes_renameLabel words filePath d.toLabel
  have hmembers : List.Forall₂ (fun m n : Member => m.name.BecomesUnder words n.name) d.members
      (Visit.list (renameMember words filePath) d.members).result :=
    Visit.forall₂_list (fun _ => .inl rfl) (fun m => becomes_renameLabel words filePath m.toLabel)
      d.members
  have hsame : List.Forall₂ (fun m n : Member => m.name.BecomesUnder words n.name) d.members
      d.members := List.forall₂_same.2 fun _ _ => .inl rfl
  unfold renameDeclaration
  rcases Visit.result_both _ _ d.members _ with h | h <;> rw [h]
  · exact ⟨hname, hbody _ hsame⟩
  · exact ⟨hname, hbody _ hmembers⟩

/-- The names in a visited unit may be made up. -/
theorem becomes_visit (u : SourceUnit) :
    u.BecomesUnder words ((renameReserved words).visit u).result := by
  unfold visit
  split
  · exact .refl words u
  · exact Visit.forall₂_list (.refl words) (becomes_renameDeclaration words u.filePath)
      u.declarations

/-- The names in a program through which renaming goes, wherever it stops, may be made up. -/
theorem becomes_run (p : Program) :
    List.Forall₂ (SourceUnit.BecomesUnder words) p.units
      ((renameReserved words).run p).result.units := by
  have hunits : ∀ units : List SourceUnit, List.Forall₂ (SourceUnit.BecomesUnder words) units
      (Visit.list (renameReserved words).visit units).result :=
    Visit.forall₂_list (.refl words) (becomes_visit words)
  have hmodules : List.Forall₂
      (fun m n : Module => List.Forall₂ (SourceUnit.BecomesUnder words) m.units n.units) p.modules
      (Visit.list (fun m : Module => (Visit.list (renameReserved words).visit m.units).map
        fun units => { m with units := units }) p.modules).result := by
    refine Visit.forall₂_list (fun m => ?_) (fun m => ?_) p.modules
    · exact List.forall₂_same.2 fun u _ => .refl words u
    · exact hunits m.units
  have hloose : List.Forall₂ (SourceUnit.BecomesUnder words) p.loose p.loose :=
    List.forall₂_same.2 fun u _ => .refl words u
  have hflat := List.rel_flatMap hmodules fun _ _ h => h
  unfold run
  rcases Visit.result_both _ _ p.loose _ with h | h <;> rw [h]
  · exact List.rel_append hflat hloose
  · exact List.rel_append hflat (hunits p.loose)

/-- Renaming goes through a label exactly if its name can be looked up. -/
theorem stopped_renameLabel_iff {l : Label} :
    (renameLabel words filePath l).stopped = false ↔ l.name.IsKey := by
  refine ⟨fun h => ?_, fun h => (renameLabel_of_isKey words filePath h).2⟩
  unfold renameLabel at h
  split at h
  · rename_i hname
    rw [hname]
    exact trivial
  · rename_i hname
    rw [hname]
    exact trivial
  · rename_i hname
    rw [hname]
    exact trivial
  · cases h

/-- Renaming goes through a declaration exactly if the names in it can be looked up. -/
theorem stopped_renameDeclaration_iff {d : Declaration} :
    (renameDeclaration words filePath d).stopped = false ↔ d.HasKeys := by
  have hmember : ∀ m : Member,
      (renameMember words filePath m).stopped = false ↔ m.name.IsKey :=
    fun m => stopped_renameLabel_iff words filePath
  unfold renameDeclaration
  rw [Visit.stopped_both_iff, Visit.stopped_list_iff, stopped_renameLabel_iff]
  simp only [hmember]
  exact ⟨fun h => ⟨h.1, h.2⟩, fun h => ⟨h.name, h.members⟩⟩

/-- Renaming goes through a unit exactly if it can look up the names that it meets there. -/
theorem stopped_visit_iff {u : SourceUnit} :
    ((renameReserved words).visit u).stopped = false ↔ u.HasKeys := by
  unfold visit SourceUnit.HasKeys
  cases hsystem : u.isSystemHeader with
  | true => exact ⟨fun _ h => (nomatch h), fun _ => rfl⟩
  | false =>
    refine Visit.stopped_list_iff.trans ?_
    simp only [stopped_renameDeclaration_iff, true_implies]

/-- Renaming goes through a program exactly if it can look up the names that it meets there. -/
theorem stopped_run_iff {p : Program} :
    ((renameReserved words).run p).stopped = false ↔ p.HasKeys := by
  have hmodule : ∀ m : Module, ((Visit.list (renameReserved words).visit m.units).map
      fun units => { m with units := units }).stopped = false ↔ ∀ u ∈ m.units, u.HasKeys :=
    fun m => Visit.stopped_list_iff.trans (forall₂_congr fun u _ => stopped_visit_iff words)
  unfold run Program.HasKeys Program.units
  rw [Visit.stopped_both_iff, Visit.stopped_list_iff, Visit.stopped_list_iff]
  simp only [hmodule, stopped_visit_iff, List.mem_append, List.mem_flatMap]
  grind

end Pass

/-- A name that is renamed if it is a text among some words. -/
def Value.escaped (words : List String) : Value → Value
  | .str n => .str (Identifier.escape words n)
  | name => name

/-- Texts are renamed text by text. -/
theorem Value.map_escaped_str (words names : List String) :
    (names.map Value.str).map (escaped words) = (names.map (Identifier.escape words)).map .str := by
  rw [List.map_map, List.map_map]
  rfl

/-- The name of a renamed label. -/
theorem Label.name_renamed (words : List String) (l : Label) :
    (l.renamed words).name = l.name.escaped words := by
  unfold Label.renamed
  split
  · rename_i n hname
    rw [hname]
    rfl
  · rename_i hname
    unfold Value.escaped
    split
    · rename_i n htext
      exact (hname n htext).elim
    · rfl

/-- Where renaming goes through, it renames all names in the scopes of a unit of the program
itself. -/
theorem SourceUnit.scopes_onUnit (words : List String) {u : SourceUnit}
    (hsystem : u.isSystemHeader = false) :
    ((Pass.renameReserved words).onUnit u).scopes =
      u.scopes.map (List.map (Value.escaped words)) := by
  have hmembers : ∀ d : Declaration, (d.renamed words).members.map (·.name) =
      (d.members.map (·.name)).map (Value.escaped words) := fun d => by
    rw [Pass.members_renamed, List.map_map, List.map_map]
    exact List.map_congr_left fun m _ => Label.name_renamed words m.toLabel
  unfold Pass.onUnit scopes
  rw [hsystem, if_neg Bool.false_ne_true, List.map_cons, List.map_map, List.map_map, List.map_map,
    List.map_map]
  refine congr (congrArg List.cons ?_) ?_
  · exact List.map_congr_left fun d _ => Label.name_renamed words d.toLabel
  · exact List.map_congr_left fun d _ => hmembers d

/-- Renaming for a target language leaves every scope of a unit of the program itself, whose names
are texts that differ, with texts for names. These differ again if no reserved word stood in the
scope beside its own made-up name, wherever the pass ends; and if the pass goes through, they do not
differ otherwise. -/
theorem renameReserved_scope (target : Target) {p : Program} {i k : Nat} {u : SourceUnit}
    {names : List String} (hu : p.units[i]? = some u) (hsystem : u.isSystemHeader = false)
    (hscope : u.scopes[k]? = some (names.map .str)) (hnames : names.Nodup) :
    let words := Keywords.ofTarget target
    let r := (Pass.renameReserved words).run p
    ∃ (v : SourceUnit) (renamed : List String),
      r.result.units[i]? = some v ∧ v.scopes[k]? = some (renamed.map .str) ∧
      (¬ Identifier.Clash words names → renamed.Nodup) ∧
      (r.stopped = false → (renamed.Nodup ↔ ¬ Identifier.Clash words names)) := by
  intro words r
  have hwords : ∀ w ∈ words, Identifier.isReserved w = false :=
    (Backend.isProper_ofTarget target (.renameReserved words)
      (by rw [Backend.passes_ofTarget]; simp [words])).isReserved
  obtain ⟨v, hv, hunit⟩ := getElem?_of_forall₂ (Pass.becomes_run words p) hu
  obtain ⟨scope, hscope', hbecomes⟩ := getElem?_of_forall₂ hunit.scopes hscope
  obtain ⟨renamed, rfl, htexts⟩ := Value.exists_becomes hbecomes
  have hdistinct : ¬ Identifier.Clash words names → renamed.Nodup :=
    fun hclash => Identifier.nodup_of_becomes htexts hclash hnames
  refine ⟨v, renamed, hv, hscope', hdistinct, fun hstopped => ⟨fun hnodup hclash => ?_, hdistinct⟩⟩
  have hkeys := (Pass.stopped_run_iff words).1 hstopped
  have hresult := (Pass.run_of_visit fun u hu => Pass.visit_renameReserved words (hkeys u hu)).1
  have hunits : r.result.units[i]? = some ((Pass.renameReserved words).onUnit u) := by
    rw [hresult, Program.units_mapUnits, List.getElem?_map, hu, Option.map_some]
  rw [hv, Option.some.injEq] at hunits
  rw [hunits, SourceUnit.scopes_onUnit words hsystem, List.getElem?_map, hscope, Option.map_some,
    Option.some.injEq, Value.map_escaped_str] at hscope'
  have hrenamed : names.map (Identifier.escape words) = renamed :=
    List.map_injective_iff.2 (fun _ _ h => Scalar.str.inj (Value.scalar.inj h)) hscope'
  exact Identifier.not_nodup_map_escape hwords hclash (hrenamed ▸ hnodup)

/-- A function with a parameter `params` and one that has its made-up name, and another function
with a reserved word among its parameters. -/
def SourceUnit.crowdedSum : SourceUnit where
  filePath := "sum.h"
  owner := none
  declarations := [
    { Label.named (.str "sum") true with
      body := .function (.builtin .int) [parameter "params", parameter "__params"] },
    { Label.named (.str "difference") true with
      body := .function (.builtin .int) [parameter "event", parameter "params"] }]
  isGenerated := true
  isSystemHeader := false
  isValid := true
  isSynthetic := false
where
  /-- A number. -/
  parameter (name : String) : Member := { Label.named (.str name) true with type := .builtin .int }

/-- The two parameters of the first function have one name after renaming for C#, and those of the
second function still differ. -/
theorem renameReserved_scope_params :
    let p := Program.ofModules [.ofUnits ⟨"Core", none⟩ [.crowdedSum]]
    ["params", "__params"].Nodup ∧ ["event", "params"].Nodup ∧
    ∃ (v : SourceUnit) (renamed others : List String),
      ((Pass.renameReserved Keywords.csharp).run p).result.units[0]? = some v ∧
      v.scopes[1]? = some (renamed.map .str) ∧ ¬ renamed.Nodup ∧
      v.scopes[2]? = some (others.map .str) ∧ others.Nodup := by
  intro p
  have hu : p.units[0]? = some { SourceUnit.crowdedSum with owner := some ⟨"Core", none⟩ } := rfl
  have hcrowded : SourceUnit.crowdedSum.scopes[1]? =
    some (["params", "__params"].map .str) := rfl
  have hplain : SourceUnit.crowdedSum.scopes[2]? = some (["event", "params"].map .str) := rfl
  obtain ⟨v, renamed, hv, hscope, -, hdistinct⟩ :=
    renameReserved_scope .csharp hu rfl hcrowded (by decide)
  obtain ⟨v', others, hv', hscope', hothers, -⟩ :=
    renameReserved_scope .csharp hu rfl hplain (by decide)
  obtain rfl : v' = v := Option.some.inj (hv'.symm.trans hv)
  have hclash : Identifier.Clash Keywords.csharp ["params", "__params"] :=
    ⟨"params", by decide +kernel, by decide, by decide +kernel⟩
  refine ⟨by decide, by decide, v', renamed, others, hv, hscope,
    fun hnodup => (hdistinct (by decide +kernel)).1 hnodup hclash, hscope', hothers ?_⟩
  rintro ⟨w, -, hw, hreserve⟩
  revert w
  decide +kernel

end Interop
