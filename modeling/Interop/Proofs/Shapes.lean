import Interop.Proofs.Loaded

/-!
# Descriptions of the wrong shape

A description can be read as far as its parts can be walked: what stands for a list must have items,
and what stands for a member must be something that can be asked for a key. Every reader here gives
a result, a defect that carries its source, or one of two other faults: a part of the wrong shape,
which only descriptions with such a part have, or a whole number that is too long to be shown. A
description with a part of the wrong shape is never read.
-/

namespace Interop

namespace Value

mutual

/-- What has a text has one when a collection with a text is put in. -/
theorem hasText_fill (id : Nat) {whole : Value} (hw : whole.hasText = true) :
    ∀ v : Value, v.hasText = true → (fill id whole v).hasText = true
  | scalar s, h => by simpa only [fill] using h
  | list items, h => by
    simp only [fill, hasText] at h ⊢
    exact haveText_fillItems id hw items h
  | dict entries, h => by
    simp only [fill, hasText] at h ⊢
    exact haveEntryText_fillEntries id hw entries h
  | set members, h => by simpa only [fill] using h
  | pair a b, h => by
    simp only [fill, hasText, Bool.and_eq_true] at h ⊢
    exact ⟨hasText_fill id hw a h.1, hasText_fill id hw b h.2⟩
  | tied other v, h => by
    simp only [fill]
    split
    · exact h
    · simp only [hasText] at h ⊢
      exact hasText_fill id hw v h
  | again other isMapping, h => by
    simp only [fill]
    split
    · exact hw
    · exact h

/-- The same for all items of a list. -/
theorem haveText_fillItems (id : Nat) {whole : Value} (hw : whole.hasText = true) :
    ∀ items : List Value, haveText items = true → haveText (fillItems id whole items) = true
  | [], _ => rfl
  | item :: rest, h => by
    simp only [fillItems, haveText, Bool.and_eq_true] at h ⊢
    exact ⟨hasText_fill id hw item h.1, haveText_fillItems id hw rest h.2⟩

/-- The same for all values of a mapping. -/
theorem haveEntryText_fillEntries (id : Nat) {whole : Value} (hw : whole.hasText = true) :
    ∀ entries : List (Scalar × Value), haveEntryText entries = true →
      haveEntryText (fillEntries id whole entries) = true
  | [], _ => rfl
  | (key, value) :: rest, h => by
    simp only [fillEntries, haveEntryText, Bool.and_eq_true] at h ⊢
    exact ⟨⟨h.1.1, hasText_fill id hw value h.1.2⟩, haveEntryText_fillEntries id hw rest h.2⟩

end

/-- What has a text has one when it is looked into. -/
theorem hasText_opened {v : Value} (h : v.hasText = true) : v.opened.hasText = true := by
  cases v with
  | tied id v =>
    simp only [opened]
    simp only [hasText] at h
    exact hasText_fill id (by simpa only [hasText] using h) v h
  | _ => exact h

/-- All items of a list have a text exactly if each has. -/
theorem haveText_iff {items : List Value} :
    haveText items = true ↔ ∀ item ∈ items, item.hasText = true := by
  induction items with
  | nil => exact ⟨fun _ => nofun, fun _ => rfl⟩
  | cons item rest ih => rw [haveText, Bool.and_eq_true, ih, List.forall_mem_cons]

/-- All entries of a mapping have a text exactly if each key and each value has. -/
theorem haveEntryText_iff {entries : List (Scalar × Value)} :
    haveEntryText entries = true ↔
      ∀ e ∈ entries, e.1.hasText = true ∧ e.2.hasText = true := by
  induction entries with
  | nil => exact ⟨fun _ => nofun, fun _ => rfl⟩
  | cons e rest ih =>
    rw [haveEntryText, Bool.and_eq_true, Bool.and_eq_true, ih, List.forall_mem_cons]

/-- The value at a key of a mapping with a text has a text. -/
theorem hasText_lookup {entries : List (Scalar × Value)} (h : (dict entries).hasText = true)
    {key : String} {v : Value} (hv : lookup key entries = some v) : v.hasText = true := by
  obtain ⟨e, he, rfl⟩ := Option.map_eq_some_iff.1 hv
  simp only [hasText] at h
  exact (haveEntryText_iff.1 h e (List.mem_of_find?_eq_some he)).2

/-- What is taken out of a value with a text has a text. -/
theorem hasText_of_mem_elements {v : Value} (h : v.hasText = true) {items : List Value}
    (hitems : v.elements? = some items) : ∀ item ∈ items, item.hasText = true := by
  have ho := hasText_opened h
  unfold elements? at hitems
  cases hv : v.opened with
  | list found =>
    rw [hv] at hitems ho
    cases hitems
    exact haveText_iff.1 (by simpa only [hasText] using ho)
  | dict entries =>
    rw [hv] at hitems ho
    cases hitems
    simp only [hasText] at ho
    intro item hi
    obtain ⟨e, he, rfl⟩ := List.mem_map.1 hi
    exact (haveEntryText_iff.1 ho e he).1
  | set members =>
    rw [hv] at hitems ho
    cases hitems
    simp only [hasText, List.all_eq_true] at ho
    intro item hi
    obtain ⟨s, hs, rfl⟩ := List.mem_map.1 hi
    exact ho s hs
  | pair a b =>
    rw [hv] at hitems ho
    cases hitems
    simp only [hasText, Bool.and_eq_true] at ho
    simp [ho.1, ho.2]
  | scalar s =>
    rw [hv] at hitems
    cases s with
    | str text =>
      cases hitems
      intro item hi
      obtain ⟨c, -, rfl⟩ := List.mem_map.1 hi
      rfl
    | bytes octets =>
      cases hitems
      intro item hi
      obtain ⟨b, -, rfl⟩ := List.mem_map.1 hi
      have hb : b.toNat < 18446744073709551616 := lt_trans b.toNat_lt (by decide)
      simp [hasText, Scalar.hasText, hb]
    | _ => cases hitems
  | tied id w =>
    rw [hv] at hitems
    cases hitems
  | again id isMapping =>
    rw [hv] at hitems
    cases hitems

end Value

namespace Description

/-- A part whose items can be taken out one after the other, with items of a given shape. A part
that is left out, or counts as false, has no items. -/
def HasItemsShaped (shape : Value → Prop) (part : Option Value) : Prop :=
  ∀ v ∈ part, v.isTruthy = true → ∃ items, v.elements? = some items ∧ ∀ item ∈ items, shape item

/-- A part that can be asked for a key: a mapping, or what is seen not to hold it. -/
def CanBeAskedFor (key : String) (part : Value) : Prop :=
  (∃ entries, part.opened = .dict entries) ∨ holds? key part.opened = some false

/-- A declaration of a kind whose list can be walked, as far as the kind has one. -/
def IsBodyShaped (kind : Value) (entries : List (Scalar × Value)) : Prop :=
  match kind with
  | .str "class" | .str "struct" =>
    HasItemsShaped (CanBeAskedFor "name") (Value.lookup "fields" entries)
  | .str "function" => HasItemsShaped (CanBeAskedFor "name") (Value.lookup "parameters" entries)
  | .str "enum" => HasItemsShaped (fun _ => True) (Value.lookup "items" entries)
  | _ => True

/-- What stands for a declaration has a shape that can be walked, if it is a mapping. -/
def IsDeclarationShaped (part : Value) : Prop :=
  ∀ entries, part.opened = .dict entries →
    ∀ kind ∈ Value.lookup "kind" entries, IsBodyShaped kind entries

/-- What stands for a unit has a shape that can be walked, if it is a mapping. -/
def IsUnitShaped (part : Value) : Prop :=
  ∀ entries, part.opened = .dict entries →
    HasItemsShaped IsDeclarationShaped (Value.lookup "declarations" entries)

/-- A reader of a part gives nothing but results and defects that carry their source, unless the
part has the wrong shape or a number that cannot be written. It gives no result for the wrong
shape. -/
structure TellsOfShape {α : Type} (source : String) (shaped written : Prop) (r : Reader α) :
    Prop where
  /-- Any other fault is down to the part. -/
  fault : ∀ f, r = .error f →
    (∃ d, f = .defect d source) ∨ f = .malformed ∧ ¬shaped ∨ f = .longNumber ∧ ¬written
  /-- What is read has the right shape. -/
  result : ∀ a, r = .ok a → shaped

section TellsOfShape

variable {α β : Type} {source : String} {shaped shaped' written : Prop}

/-- A result is told of the right shape. -/
theorem tellsOfShape_ok {a : α} (h : shaped) : TellsOfShape source shaped written (.ok a) :=
  ⟨fun _ hf => (nomatch hf), fun _ _ => h⟩

/-- A defect is told of any shape. -/
theorem tellsOfShape_refuse (d : DescriptionDefect) :
    TellsOfShape source shaped written (refuse source d : Reader α) :=
  ⟨fun _ hf => .inl ⟨d, (Except.error.inj hf).symm⟩, fun _ ha => (nomatch ha)⟩

/-- The wrong shape is told of the wrong shape. -/
theorem tellsOfShape_malformed (h : ¬shaped) :
    TellsOfShape source shaped written (.error .malformed : Reader α) :=
  ⟨fun _ hf => .inr (.inl ⟨(Except.error.inj hf).symm, h⟩), fun _ ha => (nomatch ha)⟩

/-- A number that is too long is told where a part cannot be written. -/
theorem tellsOfShape_longNumber (h : ¬written) :
    TellsOfShape source shaped written (.error .longNumber : Reader α) :=
  ⟨fun _ hf => .inr (.inr ⟨(Except.error.inj hf).symm, h⟩), fun _ ha => (nomatch ha)⟩

/-- A reader that tells nothing of shapes tells so of any shape that is right. -/
theorem TellsOfShape.of_right {r : Reader α} (h : TellsOfShape source True written r)
    (hs : shaped) : TellsOfShape source shaped written r :=
  ⟨fun f hf => (h.fault f hf).imp_right (.imp_left fun hm => absurd trivial hm.2), fun _ _ => hs⟩

/-- What is told of a smaller part is told of the part around it, if the two have the same shape and
the smaller part can be written with the other. -/
theorem TellsOfShape.mono {written' : Prop} {r : Reader α}
    (h : TellsOfShape source shaped written r) (hs : shaped ↔ shaped')
    (hw : written' → written) : TellsOfShape source shaped' written' r :=
  ⟨fun f hf => (h.fault f hf).imp_right
      (.imp (.imp_right fun hn hs' => hn (hs.2 hs')) (.imp_right fun hn hw' => hn (hw hw'))),
    fun a ha => hs.1 (h.result a ha)⟩

/-- Two steps tell what the second one tells, if the first one tells of a weaker shape. -/
theorem TellsOfShape.bind {first : Reader α} {next : α → Reader β}
    (hfirst : TellsOfShape source shaped' written first) (hweaker : shaped → shaped')
    (hnext : ∀ a, first = .ok a → TellsOfShape source shaped written (next a)) :
    TellsOfShape source shaped written (first >>= next) := by
  cases first with
  | error fault =>
    refine ⟨fun f hf => ?_, fun b hb => (nomatch hb)⟩
    obtain rfl := Except.error.inj hf
    exact (hfirst.fault fault rfl).imp_right (.imp_left (.imp_right fun hn hs => hn (hweaker hs)))
  | ok a => exact hnext a rfl

/-- What is made of a result leaves told what was told. -/
theorem TellsOfShape.map {r : Reader α} (h : TellsOfShape source shaped written r) (make : α → β) :
    TellsOfShape source shaped written (r >>= fun a => .ok (make a)) :=
  h.bind id fun a ha => tellsOfShape_ok (h.result a ha)

/-- Readers of all members of a list tell of the shapes of all of them. -/
theorem TellsOfShape.mapM {read : α → Reader β} {shape : α → Prop} {l : List α}
    (h : ∀ a ∈ l, TellsOfShape source (shape a) written (read a)) :
    TellsOfShape source (∀ a ∈ l, shape a) written (l.mapM read) := by
  induction l with
  | nil => exact tellsOfShape_ok fun a ha => absurd ha List.not_mem_nil
  | cons a rest ih =>
    obtain ⟨hhead, hrest⟩ := List.forall_mem_cons.1 h
    rw [List.mapM_cons]
    refine hhead.bind (fun hs => hs a List.mem_cons_self) fun b hb => ?_
    refine (((ih hrest).map (b :: ·)).mono ?_ id)
    rw [List.forall_mem_cons]
    exact (and_iff_right (hhead.result b hb)).symm

end TellsOfShape

section Readers

variable {source : String} {part whole : Value} {entries : List (Scalar × Value)}

/-- Showing a part tells a defect, unless the part cannot be written. -/
theorem tellsOfShape_refuseShowing {α : Type} {shaped : Prop} (d : DescriptionDefect) :
    TellsOfShape source shaped (part.hasText = true) (refuseShowing source part d : Reader α) := by
  unfold refuseShowing
  split
  · exact tellsOfShape_refuse d
  · exact tellsOfShape_longNumber ‹_›

/-- A text is told of any part that can be written. -/
theorem tellsOfShape_textOf : TellsOfShape source True (part.hasText = true) (textOf part) := by
  unfold textOf Value.text?
  split
  · exact tellsOfShape_ok trivial
  · rename_i hnone
    refine tellsOfShape_longNumber fun h => ?_
    rw [if_pos h] at hnone
    cases hnone

/-- A key must be in a mapping, or be seen not to be there. -/
theorem tellsOfShape_required (key : String) :
    TellsOfShape source (CanBeAskedFor key part) (part.hasText = true)
      (required source key part) := by
  unfold required
  split
  · rename_i entries hopened
    split
    · exact tellsOfShape_refuseShowing _
    · exact tellsOfShape_refuseShowing _
    · exact tellsOfShape_refuseShowing _
    · exact tellsOfShape_ok (.inl ⟨entries, hopened⟩)
  · rename_i other hopened
    split
    · exact tellsOfShape_refuseShowing _
    · rename_i hholds
      refine tellsOfShape_malformed fun h => h.elim ?_ hholds
      exact fun ⟨entries, hentries⟩ => hopened entries hentries

/-- What is found at a key that must be there stands at the key of a mapping. -/
theorem lookup_of_required {key : String} {value : Value}
    (h : required source key part = .ok value) :
    ∃ entries, part.opened = .dict entries ∧ Value.lookup key entries = some value := by
  unfold required at h
  split at h
  · rename_i entries hopened
    refine ⟨entries, hopened, ?_⟩
    split at h
    · exact absurd h refuseShowing_ne_ok
    · exact absurd h refuseShowing_ne_ok
    · exact absurd h refuseShowing_ne_ok
    · rename_i found _ _ hfound
      rw [hfound, Except.ok.inj h]
  · split at h
    · exact absurd h refuseShowing_ne_ok
    · cases h

/-- A type is told of any mapping. -/
theorem tellsOfShape_typeAt (key : String) (fallback : Option Value) :
    TellsOfShape source True (whole.hasText = true) (typeAt source key fallback whole entries) := by
  unfold typeAt
  split
  · exact tellsOfShape_refuseShowing _
  · exact tellsOfShape_refuseShowing _
  · split
    · exact tellsOfShape_refuse _
    · split
      · exact tellsOfShape_ok trivial
      · exact tellsOfShape_refuse _

/-- A field or parameter must be something that can be asked for its name. -/
theorem tellsOfShape_member :
    TellsOfShape source (CanBeAskedFor "name" part) (part.hasText = true) (member source part) := by
  unfold member
  refine (tellsOfShape_required "name").bind id fun name hname => ?_
  obtain ⟨entries, hopened, -⟩ := lookup_of_required hname
  rw [hopened]
  exact ((tellsOfShape_typeAt "type" none).map _).of_right (.inl ⟨entries, hopened⟩)

/-- A list that may be left out must have items, and a reader of its items tells of their shapes. -/
theorem tellsOfShape_items {β γ : Type} {read : Value → Reader β} {shape : Value → Prop}
    {listed : Option Value} {written : Prop}
    (hread : ∀ item, TellsOfShape source (shape item) (item.hasText = true) (read item))
    (hwritten : ∀ v ∈ listed, written → v.hasText = true) (make : List β → γ) :
    TellsOfShape source (HasItemsShaped shape listed) written
      (items listed >>= fun found => found.mapM read >>= fun bs => .ok (make bs)) := by
  have hnone : ∀ {found : Option Value}, (∀ v ∈ found, v.isTruthy = false) →
      HasItemsShaped shape found := fun h v hv htruthy => by
    rw [h v hv] at htruthy
    cases htruthy
  cases listed with
  | none => exact tellsOfShape_ok (hnone nofun)
  | some v =>
    unfold items
    dsimp only
    split
    · rename_i htruthy
      split
      · rename_i found hfound
        have hitems : ∀ item ∈ found, TellsOfShape source (shape item) written (read item) :=
          fun item hitem => (hread item).mono Iff.rfl fun hw =>
            Value.hasText_of_mem_elements (hwritten v rfl hw) hfound item hitem
        refine ((TellsOfShape.mapM hitems).map make).mono ⟨fun h w hw _ => ?_, fun h => ?_⟩ id
        · cases hw
          exact ⟨found, hfound, h⟩
        · obtain ⟨items, hitems, hshape⟩ := h v rfl htruthy
          rw [hfound] at hitems
          cases hitems
          exact hshape
      · rename_i hfound
        refine tellsOfShape_malformed fun h => ?_
        obtain ⟨items, hitems, -⟩ := h v rfl htruthy
        rw [hfound] at hitems
        cases hitems
    · rename_i htruthy
      refine tellsOfShape_ok (hnone fun w hw => ?_)
      cases hw
      exact Bool.not_eq_true _ ▸ htruthy

/-- What is declared must have a list that can be walked, as far as its kind has one. -/
theorem tellsOfShape_body {kind : Value}
    (hentries : whole.hasText = true → (Value.dict entries).hasText = true)
    (hkind : whole.hasText = true → kind.hasText = true) :
    TellsOfShape source (IsBodyShaped kind entries) (whole.hasText = true)
      (body source kind whole entries) := by
  have hlisted : ∀ key, ∀ v ∈ Value.lookup key entries, whole.hasText = true → v.hasText = true :=
    fun key v hv hw => Value.hasText_lookup (hentries hw) hv
  unfold body
  split
  · exact tellsOfShape_items (fun _ => tellsOfShape_member) (hlisted "fields") _
  · exact tellsOfShape_items (fun _ => tellsOfShape_member) (hlisted "fields") _
  · refine (tellsOfShape_typeAt "return_type" _).bind (fun _ => trivial) fun result _ => ?_
    exact tellsOfShape_items (fun _ => tellsOfShape_member) (hlisted "parameters") _
  · exact tellsOfShape_items (fun _ => tellsOfShape_textOf) (hlisted "items") _
  · exact (tellsOfShape_refuseShowing _).mono Iff.rfl hkind

/-- What stands for a declaration must have a list that can be walked, as far as its kind has
one. -/
theorem tellsOfShape_declaration :
    TellsOfShape source (IsDeclarationShaped part) (part.hasText = true)
      (declaration source part) := by
  unfold declaration
  split
  · rename_i entries hopened
    have hentries : part.hasText = true → (Value.dict entries).hasText = true :=
      fun h => hopened ▸ Value.hasText_opened h
    refine (tellsOfShape_required "kind").bind (fun _ => .inl ⟨entries, hopened⟩)
      fun kind hkind => ?_
    obtain ⟨entries', hopened', hlookup⟩ := lookup_of_required hkind
    rw [hopened] at hopened'
    cases hopened'
    have hbody : TellsOfShape source (IsBodyShaped kind entries) (part.hasText = true)
        (body source kind part entries) :=
      tellsOfShape_body hentries fun h => Value.hasText_lookup (hentries h) hlookup
    refine (hbody.map _).mono ⟨fun h found hfound kind' hkind' => ?_, fun h => ?_⟩ id
    · rw [hopened] at hfound
      cases hfound
      rw [hlookup] at hkind'
      cases hkind'
      exact h
    · exact h entries hopened kind hlookup
  · exact tellsOfShape_refuse _

/-- What stands for a unit must have declarations that can be walked. -/
theorem tellsOfShape_unit :
    TellsOfShape source (IsUnitShaped part) (part.hasText = true) (unit source part) := by
  unfold unit
  split
  · rename_i entries hopened
    have hentries : part.hasText = true → (Value.dict entries).hasText = true :=
      fun h => hopened ▸ Value.hasText_opened h
    refine (tellsOfShape_required "file_path").bind (fun _ => .inl ⟨entries, hopened⟩)
      fun path hpath => ?_
    obtain ⟨entries', hopened', hlookup⟩ := lookup_of_required hpath
    rw [hopened] at hopened'
    cases hopened'
    have htext : TellsOfShape source True (part.hasText = true) (textOf path) :=
      tellsOfShape_textOf.mono Iff.rfl fun h => Value.hasText_lookup (hentries h) hlookup
    refine htext.bind (fun _ => trivial) fun filePath _ => ?_
    have hshape : HasItemsShaped IsDeclarationShaped (Value.lookup "declarations" entries) ↔
        IsUnitShaped part := by
      refine ⟨fun h found hfound => ?_, fun h => h entries hopened⟩
      rw [hopened] at hfound
      cases hfound
      exact h
    refine TellsOfShape.mono (tellsOfShape_items (fun _ => tellsOfShape_declaration) ?_ _) hshape id
    exact fun v hv h => Value.hasText_lookup (hentries h) hv
  · exact tellsOfShape_refuse _

end Readers

/-- Reading a unit or a declaration gives a result or a defect that carries the source of the
description, with two exceptions. A description with a part of the wrong shape can give a fault that
names neither the defect nor the source; it is never read. The same fault stands for a whole number
that is too long to be shown. -/
theorem unit_and_declaration_tell (source : String) (part : Value) :
    TellsOfShape source (IsUnitShaped part) (part.hasText = true) (unit source part) ∧
      TellsOfShape source (IsDeclarationShaped part) (part.hasText = true)
        (declaration source part) :=
  ⟨tellsOfShape_unit, tellsOfShape_declaration⟩

/-- A class whose only field is a number. -/
example : declaration "shapes.yaml" (.dict [(.str "kind", .str "class"),
    (.str "fields", .list [.int 5])]) = .error .malformed := rfl

end Description

end Interop
