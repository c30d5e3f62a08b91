import Interop.Keywords
import Interop.Proofs.Layers
import Interop.Proofs.Passes
import Interop.Proofs.Program

/-!
# References by name

A type refers to a class or an enumeration by its name alone. Renaming gives declarations other
names and leaves all types as they are. So what referred to a declaration under a reserved word
refers to it no longer, and every other reference stays.
-/

namespace Interop

/-- The name of the class or enumeration that a type is made of, if it is made of one. -/
def CType.tagName? (t : CType) : Option String :=
  match t.leaf with
  | .tag name => some name
  | _ => none

namespace Declaration

/-- Whether types may refer to a declaration: it is one of a class or an enumeration. -/
def isReferable (d : Declaration) : Bool :=
  match d.body with
  | .function .. => false
  | _ => true

/-- The types that a declaration mentions: those of its members, and that of what a function gives
back. -/
def types (d : Declaration) : List CType := d.members.map (·.type) ++ d.body.result?.toList

end Declaration

/-- Whether a type refers to a declaration, by the name that both have. -/
structure CType.RefersTo (t : CType) (d : Declaration) : Prop where
  /-- The declaration is one that types may refer to. -/
  isReferable : d.isReferable = true
  /-- The type is made of the name of the declaration. -/
  name : ∃ n, t.tagName? = some n ∧ d.name = .str n

section Renaming

variable (words : List String) (d : Declaration)

/-- Renaming leaves the types that a declaration mentions. -/
theorem Declaration.types_renamed : (d.renamed words).types = d.types := by
  have htypes : ∀ members : List Member,
      (members.map (·.renamed words)).map (·.type) = members.map (·.type) := fun members =>
    List.map_map ..
  obtain ⟨label, body⟩ := d
  cases body with
  | record isStruct fields => exact congrArg (· ++ []) (htypes fields)
  | function result parameters => exact congrArg (· ++ [result]) (htypes parameters)
  | enumeration items => rfl

/-- Renaming leaves classes, functions and enumerations what they are. -/
theorem Declaration.isReferable_renamed : (d.renamed words).isReferable = d.isReferable := by
  obtain ⟨label, body⟩ := d
  cases body <;> rfl

variable {d}

/-- A declaration under a text is renamed if the text is reserved. -/
theorem Declaration.name_renamed {n : String} (h : d.name = .str n) :
    (d.renamed words).name =
      .str (if words.contains n then Identifier.reserve n else n) := by
  change (d.toLabel.renamed words).name = _
  unfold Label.renamed
  rw [h]

/-- What referred to a declaration refers to the renamed one exactly if the name is not reserved. -/
theorem CType.RefersTo.renamed_iff {t : CType} (h : t.RefersTo d) :
    t.RefersTo (d.renamed words) ↔ ∀ n ∈ t.tagName?, n ∉ words := by
  obtain ⟨hreferable, n, htag, hname⟩ := h
  have hrenamed := Declaration.name_renamed words hname
  rw [htag]
  constructor
  · rintro ⟨-, m, hm, hsame⟩ k hk hword
    rw [htag] at hm
    cases hm
    cases hk
    rw [hrenamed, if_pos (List.contains_iff_mem.2 hword)] at hsame
    exact Identifier.reserve_ne n (Scalar.str.inj (Value.scalar.inj hsame))
  · intro hfree
    have hword : words.contains n ≠ true := fun hc =>
      hfree n rfl (List.contains_iff_mem.1 hc)
    rw [if_neg hword] at hrenamed
    exact ⟨(Declaration.isReferable_renamed words d).trans hreferable, n, htag, hrenamed⟩

end Renaming

/-- Renaming leaves the types that the declarations of a unit mention. -/
theorem Pass.types_onUnit (words : List String) (u : SourceUnit) :
    ((renameReserved words).onUnit u).declarations.map (·.types) =
      u.declarations.map (·.types) := by
  unfold onUnit
  split
  · rfl
  · rw [List.map_map]
    exact List.map_congr_left fun d _ => d.types_renamed words

/-- Renaming goes through a program whose names can be looked up. It leaves every type as it is, and
a type that referred to a class or an enumeration of the program itself refers to it afterwards
exactly if its name is not reserved. -/
theorem refersTo_renameReserved {p : Program} (hkeys : p.HasKeys) (words : List String) :
    let r := (Pass.renameReserved words).run p
    r.stopped = false ∧
    (r.result.units.map fun u => u.declarations.map (·.types)) =
      (p.units.map fun u => u.declarations.map (·.types)) ∧
    ∀ (i j : Nat) (u : SourceUnit) (d : Declaration), p.units[i]? = some u →
      u.isSystemHeader = false → u.declarations[j]? = some d →
      ∃ v e, r.result.units[i]? = some v ∧ v.declarations[j]? = some e ∧
        ∀ t : CType, t.RefersTo d → (t.RefersTo e ↔ ∀ n ∈ t.tagName?, n ∉ words) := by
  intro r
  obtain ⟨hresult, hstopped⟩ := Pass.run_of_visit fun u hu =>
    Pass.visit_renameReserved words (hkeys u hu)
  have hunits : r.result.units = p.units.map (Pass.renameReserved words).onUnit := by
    rw [hresult, Program.units_mapUnits]
  refine ⟨hstopped, ?_, fun i j u d hu hsystem hd => ?_⟩
  · rw [hunits, List.map_map]
    exact List.map_congr_left fun u _ => Pass.types_onUnit words u
  · refine ⟨(Pass.renameReserved words).onUnit u, d.renamed words, ?_, ?_, fun t ht => ?_⟩
    · rw [hunits, List.getElem?_map, hu, Option.map_some]
    · unfold Pass.onUnit
      rw [if_neg (by rw [hsystem]; exact Bool.false_ne_true), List.getElem?_map, hd]
      rfl
    · exact ht.renamed_iff words

/-- The class `event` has a field that points to the class itself. Once the class is renamed for C#,
the type of the field refers to it no longer. -/
theorem refersTo_renameReserved_event :
    (Program.ofModules [.core]).HasKeys ∧
    ∃ v e, ((Pass.renameReserved Keywords.csharp).run (.ofModules [.core])).result.units[0]? =
        some v ∧ v.declarations[0]? = some e ∧
      e.types = [.pointer (.tag "event") false true] ∧
      ¬ (CType.pointer (.tag "event") false true).RefersTo e := by
  have hkeys : (Program.ofModules [.core]).HasKeys := Program.IsPlain.hasKeys (by decide +kernel)
  have hword : "event" ∈ Keywords.csharp := by decide +kernel
  obtain ⟨-, htypes, hreferences⟩ := refersTo_renameReserved hkeys Keywords.csharp
  obtain ⟨v, e, hv, he, hrefers⟩ := hreferences 0 0 _ _ rfl rfl rfl
  have hevent := hrefers (.pointer (.tag "event") false true) ⟨rfl, "event", rfl, rfl⟩
  have htype := congrArg (fun types => types[0]?.bind (·[0]?)) htypes
  rw [List.getElem?_map, hv, Option.map_some, Option.bind_some, List.getElem?_map, he] at htype
  exact ⟨hkeys, v, e, hv, he, Option.some.inj htype, fun h => hevent.1 h "event" rfl hword⟩

end Interop
