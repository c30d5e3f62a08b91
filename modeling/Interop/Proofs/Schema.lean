import Interop.Configuration.Schema
import Mathlib.Data.List.Forall2

/-!
# What the schema accepts

A configuration that is written with lists, with mappings whose keys are pairwise different strings,
and with strings, numbers, truth values and null, is accepted exactly if it describes one. The
description says of each key of the schema what may stand there and what it stands for; at a key
that the schema does not know, anything may stand. One lemma for each check says what it finds, and
the lemma for a part with parts cites those for its parts.
-/

namespace Interop

/-- The scalars that need no more than null, truth values, numbers and strings. -/
def Scalar.IsJson : Scalar → Prop
  | .null | .bool _ | .int _ | .float _ | .str _ => True
  | .date _ | .moment _ | .bytes _ => False

/-- Data of such scalars, of lists, and of mappings whose keys are pairwise different strings. -/
inductive Value.IsJson : Value → Prop
  | scalar {s : Scalar} (h : s.IsJson) : IsJson (.scalar s)
  | list {items : List Value} (h : ∀ v ∈ items, IsJson v) : IsJson (.list items)
  | dict {entries : List (Scalar × Value)} {names : List String}
      (keys : entries.map Prod.fst = names.map .str) (distinct : names.Nodup)
      (values : ∀ e ∈ entries, IsJson e.2) : IsJson (.dict entries)

namespace Value

/-- What stands at a key of such a mapping is such a datum. -/
theorem IsJson.of_lookup {entries : List (Scalar × Value)} {key : String} {v : Value}
    (h : (Value.dict entries).IsJson) (hv : lookup key entries = some v) : v.IsJson := by
  obtain ⟨e, he, rfl⟩ := Option.map_eq_some_iff.1 hv
  cases h with
  | dict _ _ values => exact values e (List.mem_of_find?_eq_some he)

/-- A key that is in no entry is put at the end. -/
theorem insert_of_absent {key : Scalar} {entries : List (Scalar × Value)} (v : Value)
    (h : ∀ e ∈ entries, e.1.sameKey key = false) :
    insert key v entries = entries ++ [(key, v)] := by
  induction entries with
  | nil => rfl
  | cons e rest ih =>
    obtain ⟨he, hrest⟩ := List.forall_mem_cons.1 h
    simp [insert, he, ih hrest]

/-- Entries with different strings for keys are put one after the other. What was put before the
next key holds neither that key nor a later one. -/
theorem foldl_insert_of_nodup {entries before : List (Scalar × Value)} {names : List String}
    (keys : entries.map Prod.fst = names.map .str) (distinct : names.Nodup)
    (h : ∀ e ∈ before, ∀ n ∈ names, e.1.sameKey (.str n) = false) :
    entries.foldl (fun entries (key, value) => insert key value entries) before =
      before ++ entries := by
  induction names generalizing entries before with
  | nil => simp [List.map_eq_nil_iff.1 keys]
  | cons n rest ih =>
    obtain ⟨e, more, rfl, he, hmore⟩ := List.map_eq_cons_iff.1 keys
    obtain ⟨key, v⟩ := e
    obtain rfl : key = .str n := he
    obtain ⟨hn, hrest⟩ := List.nodup_cons.1 distinct
    have habsent : ∀ e ∈ before, e.1.sameKey (.str n) = false :=
      fun e hm => h e hm n List.mem_cons_self
    rw [List.foldl_cons]
    dsimp only
    rw [insert_of_absent v habsent, ih hmore hrest, List.append_assoc, List.singleton_append]
    intro e hm m hmem
    rcases List.mem_append.1 hm with hm | hm
    · exact h e hm m (List.mem_cons_of_mem n hmem)
    · obtain rfl := List.mem_singleton.1 hm
      have hne : n ≠ m := fun heq => hn (heq ▸ hmem)
      simp [Scalar.sameKey, hne]

end Value

namespace Configuration

open Text.Half

/-- What a part that may be left out stands for: for a fallback if it is, and else for what can be
read there. -/
def Filled {α : Type} (fallback : α) (Reads : Value → α → Prop) : Option Value → α → Prop
  | none, a => a = fallback
  | some v, a => Reads v a

/-- A string stands for itself, and null for nothing. -/
inductive ReadsText : Value → Option String → Prop
  | null : ReadsText .null none
  | str (s : String) : ReadsText (.str s) (some s)

/-- A truth value is given by itself, by the number one or zero, or by a word for it, whatever the
size of the letters. -/
inductive ReadsTruth : Value → Bool → Prop
  | yes {s : Scalar} (h : s.sameKey (.int 1) = true) : ReadsTruth (.scalar s) true
  | no {s : Scalar} (h : s.sameKey (.int 0) = true) : ReadsTruth (.scalar s) false
  | yesWord {s : String} (h : smallLetters s ∈ yesWords) : ReadsTruth (.str s) true
  | noWord {s : String} (h : smallLetters s ∈ noWords) : ReadsTruth (.str s) false

/-- A namespace stands for itself, and null and the empty string for none. -/
inductive ReadsNamespace : Value → Option String → Prop
  | null : ReadsNamespace .null none
  | empty : ReadsNamespace (.str "") none
  | str {s : String} (h : Identifier.isNamespace s = true) : ReadsNamespace (.str s) (some s)

/-- A string is the path of a description, and a mapping is a description. -/
inductive DescribesUnit : Value → UnitSource → Prop
  | file (path : String) : DescribesUnit (.str path) (.file path)
  | inline (entries : List (Scalar × Value)) : DescribesUnit (.dict entries) (.inline entries)

/-- A list stands for what its items stand for, in order. -/
inductive ReadsList {α : Type} (Reads : Value → α → Prop) : Value → List α → Prop
  | list {items : List Value} {l : List α} (h : List.Forall₂ Reads items l) :
      ReadsList Reads (.list items) l

/-- The items of a list stand for what they stand for. -/
theorem readsList_list_iff {α : Type} {Reads : Value → α → Prop} {items : List Value}
    {l : List α} : ReadsList Reads (.list items) l ↔ List.Forall₂ Reads items l :=
  ⟨fun ⟨h⟩ => h, .list⟩

/-- A name of a library is a string of whole characters that is not empty. -/
def IsLibraryName (s : String) : Prop := s ≠ "" ∧ isWritable s = true

/-- What a mapping has to hold to describe a module, if these are the names that a library may
have. -/
inductive DescribesModule (IsName : String → Prop) : Value → ModuleSettings → Prop
  | dict {entries : List (Scalar × Value)} {m : ModuleSettings}
      (name : Value.lookup "library_name" entries = some (.str m.library.name))
      (proper : IsName m.library.name)
      (space : Filled none ReadsNamespace (Value.lookup "output_namespace" entries)
        m.library.outputNamespace)
      (units : Filled [] (ReadsList DescribesUnit) (Value.lookup "units" entries) m.units) :
      DescribesModule IsName (.dict entries) m

/-- What a mapping has to hold to describe a configuration, if these are the names that a library
may have. -/
structure Describes (IsName : String → Prop) (entries : List (Scalar × Value))
    (c : Configuration) : Prop where
  /-- The target language is C# or the one whose word is given. -/
  target : Filled .csharp (fun v t => v = .str t.word) (Value.lookup "generator_kind" entries)
    c.target
  /-- The output directory is the usual one or the one that is given. -/
  output : Filled (some usualOutputDirectory) ReadsText (Value.lookup "output_dir" entries)
    c.outputDirectory
  /-- There are files for units unless there is a truth value that says otherwise. -/
  single : Filled false ReadsTruth (Value.lookup "generate_single_csharp_file" entries) c.singleFile
  /-- The policy is to stop or the one whose word is given. -/
  policy : Filled .stop (fun v p => v = .str p.word) (Value.lookup "empty_output_policy" entries)
    c.policy
  /-- The modules are those of a list. -/
  modules : ∃ v, Value.lookup "modules" entries = some v ∧
    ReadsList (DescribesModule IsName) v c.modules
  /-- There is a module. -/
  nonempty : c.modules ≠ []
  /-- No two modules have one name. -/
  distinct : (c.modules.map (·.library.name)).Nodup
  /-- The base directory is the one that is given, if there is one. -/
  base : Filled none ReadsText (Value.lookup "base_dir" entries) c.baseDirectory

namespace Check

variable {α β : Type}

/-- Changing what a check finds changes no problem. -/
theorem map_eq_ok_iff {f : α → β} {p : Check α} {b : β} :
    p.map f = .ok b ↔ ∃ a, p = .ok a ∧ f a = b := by
  cases p <;> simp [Except.map]

/-- A list is sound if all of its items are. -/
theorem each_eq_ok_iff {check : Nat → α → Check β} {R : α → β → Prop} {l : List α}
    (h : ∀ n, ∀ a ∈ l, ∀ b, check n a = .ok b ↔ R a b) {first : Nat} {bs : List β} :
    each check first l = .ok bs ↔ List.Forall₂ R l bs := by
  induction l generalizing first bs with
  | nil => simp [each, eq_comm]
  | cons a rest ih =>
    have hrest : ∀ n, ∀ a ∈ rest, ∀ b, check n a = .ok b ↔ R a b :=
      fun n a ha => h n a (List.mem_cons_of_mem _ ha)
    have ha : ∀ b, check first a = .ok b ↔ R a b := h first a List.mem_cons_self
    rw [each, map_eq_ok_iff]
    constructor
    · rintro ⟨⟨b, more⟩, hboth, rfl⟩
      obtain ⟨hb, hmore⟩ := both_eq_ok_iff.1 hboth
      exact .cons ((ha b).1 hb) ((ih hrest).1 hmore)
    · rintro (_ | ⟨hb, hmore⟩)
      exact ⟨(_, _), both_eq_ok_iff.2 ⟨(ha _).2 hb, (ih hrest).2 hmore⟩, rfl⟩

end Check

/-- A complaint at a place is none without the place. -/
theorem complainAt_eq_ok_iff {α : Type} {place : List String} {r : Except Complaint α} {a : α} :
    complainAt place r = .ok a ↔ r = .ok a := by
  cases r <;> simp [complainAt, Check.refuse]

/-- A string of whole characters is one. -/
theorem whole_eq_ok_iff {s t : String} : whole s = .ok t ↔ isWritable s = true ∧ s = t := by
  unfold whole
  split <;> simp_all

section Leaves

variable {place : List String} {v : Value}

/-- Only a string is read as one. -/
theorem readText_eq_ok_iff (h : v.IsJson) {s : String} : readText v = .ok s ↔ v = .str s := by
  cases h with
  | @scalar scalar h => cases scalar <;> simp_all [readText, Scalar.IsJson]
  | list => simp [readText]
  | dict => simp [readText]

/-- A part for a text is sound if it is a string or null. -/
theorem checkText_eq_ok_iff (h : v.IsJson) {a : Option String} :
    checkText place v = .ok a ↔ ReadsText v a := by
  unfold checkText
  split
  · constructor
    · rintro ⟨⟩
      exact .null
    · rintro ⟨⟩
      rfl
  · rename_i hnull
    rw [complainAt_eq_ok_iff]
    constructor
    · intro ha
      cases hs : readText v with
      | error => rw [hs] at ha; cases ha
      | ok s =>
        rw [hs] at ha
        obtain rfl := (readText_eq_ok_iff h).1 hs
        cases ha
        exact .str s
    · rintro (_ | s)
      · exact absurd rfl hnull
      · rfl

/-- A word is sound if it is one of the vocabulary. -/
theorem readWord_eq_ok_iff {α : Type} {find : String → Option α} {word : α → String}
    {complaint : Complaint} (hfind : ∀ s a, find s = some a ↔ s = word a)
    (hword : ∀ a, isWritable (word a) = true) {a : α} :
    readWord find complaint v = .ok a ↔ v = .str (word a) := by
  constructor
  · intro h
    unfold readWord at h
    split at h
    · rename_i s hs
      obtain ⟨t, ht, h⟩ := Except.bind_eq_ok_iff.1 h
      obtain ⟨-, rfl⟩ := whole_eq_ok_iff.1 ht
      split at h
      · rename_i b hb
        obtain rfl := Except.ok.inj h
        rw [← (hfind s b).1 hb]
        exact Value.str?_eq_some_iff.1 hs
      · cases h
    · cases h
  · rintro rfl
    have hwhole : whole (word a) = .ok (word a) := whole_eq_ok_iff.2 ⟨hword a, rfl⟩
    have hfound : find (word a) = some a := (hfind _ _).2 rfl
    simp only [readWord, Value.str?]
    exact Except.bind_eq_ok_iff.2 ⟨word a, hwhole, by rw [hfound]⟩

/-- A target language is sound if its word stands there. -/
theorem checkTarget_eq_ok_iff {t : Target} : checkTarget place v = .ok t ↔ v = .str t.word := by
  rw [checkTarget, complainAt_eq_ok_iff]
  exact readWord_eq_ok_iff (fun s t => Target.ofWord?_eq_some_iff) (by rintro (_ | _) <;> decide)

/-- A policy is sound if its word stands there. -/
theorem checkPolicy_eq_ok_iff {p : EmptyPolicy} :
    checkPolicy place v = .ok p ↔ v = .str p.word := by
  rw [checkPolicy, complainAt_eq_ok_iff]
  exact readWord_eq_ok_iff (fun s p => EmptyPolicy.ofWord?_eq_some_iff)
    (by rintro (_ | _ | _) <;> decide)

/-- The name of a library is sound if it is a string of whole characters that is not empty. -/
theorem readName_eq_ok_iff (h : v.IsJson) {s : String} :
    readName v = .ok s ↔ v = .str s ∧ s ≠ "" ∧ isWritable s = true := by
  unfold readName
  constructor
  · intro hs
    obtain ⟨r, hr, hs⟩ := Except.bind_eq_ok_iff.1 hs
    obtain ⟨t, ht, hs⟩ := Except.bind_eq_ok_iff.1 hs
    obtain ⟨hw, rfl⟩ := whole_eq_ok_iff.1 ht
    split at hs
    · cases hs
    · rename_i hempty
      obtain rfl := Except.ok.inj hs
      exact ⟨(readText_eq_ok_iff h).1 hr, by simpa using hempty, hw⟩
  · rintro ⟨hv, hne, hw⟩
    refine Except.bind_eq_ok_iff.2 ⟨s, (readText_eq_ok_iff h).2 hv, ?_⟩
    refine Except.bind_eq_ok_iff.2 ⟨s, whole_eq_ok_iff.2 ⟨hw, rfl⟩, ?_⟩
    simp [hne]

/-- A part for a namespace is sound if it is a namespace, the empty string or null. -/
theorem checkNamespace_eq_ok_iff (h : v.IsJson) {a : Option String} :
    checkNamespace place v = .ok a ↔ ReadsNamespace v a := by
  unfold checkNamespace
  split
  · constructor
    · rintro ⟨⟩
      exact .null
    · rintro ⟨⟩
      rfl
  · rename_i hnull
    rw [complainAt_eq_ok_iff, readNamespace]
    constructor
    · intro ha
      obtain ⟨s, hs, hread⟩ := Except.bind_eq_ok_iff.1 ha
      obtain rfl := (readText_eq_ok_iff h).1 hs
      split at hread
      · rename_i hempty
        obtain rfl : s = "" := by simpa using hempty
        cases hread
        exact .empty
      · split at hread
        · rename_i hspace
          cases hread
          exact .str hspace
        · cases hread
    · rintro (_ | _ | hspace)
      · exact absurd rfl hnull
      · rfl
      · rename_i s
        have hne : s ≠ "" := by
          rintro rfl
          rw [Identifier.isNamespace_empty] at hspace
          cases hspace
        refine Except.bind_eq_ok_iff.2 ⟨s, rfl, ?_⟩
        simp [hne, hspace]
        rfl

/-- A stand-in of a half is no letter, so a letter that is made small is no half either. -/
theorem isNone_code?_toLower (c : Char) : (code? c.toLower).isNone = (code? c).isNone := by
  have hsmall : ∀ d : Char, d.toNat ≤ 122 → code? d = none := by
    intro d hd
    have hlimit : ¬ firstStandIn ≤ d.toNat := by
      simp only [firstStandIn, count]
      omega
    rw [code?, if_neg hlimit]
  unfold Char.toLower
  split
  · rename_i h
    have hupper : c.toNat ≤ 90 := UInt32.le_iff_toNat_le.1 h.2
    have hval : c.val.toNat = c.toNat := rfl
    have hlower : (c.val + ('a'.val - 'A'.val)).toNat ≤ 122 := by
      rw [UInt32.toNat_add]
      simp
      omega
    rw [hsmall c (by omega)]
    exact congrArg Option.isNone (hsmall _ hlower)
  · rfl

/-- Making letters small changes no half. -/
theorem isWritable_smallLetters (s : String) : isWritable (smallLetters s) = isWritable s := by
  simp [isWritable, smallLetters, List.all_map, Function.comp_def, isNone_code?_toLower]

/-- A word for a truth value is one of whole characters. -/
theorem isWritable_of_truthOfWord? {s : String} {b : Bool} (h : truthOfWord? s = some b) :
    isWritable s = true := by
  have hwords : ∀ word ∈ yesWords ++ noWords, isWritable word = true := by decide
  rw [← isWritable_smallLetters]
  refine hwords _ (List.mem_append.2 ?_)
  unfold truthOfWord? at h
  split at h
  · exact .inl (List.contains_iff_mem.1 ‹_›)
  · split at h
    · exact .inr (List.contains_iff_mem.1 ‹_›)
    · cases h

/-- A word stands for the truth value among whose words it is. -/
theorem truthOfWord?_eq_some_iff {s : String} {b : Bool} :
    truthOfWord? s = some b ↔ smallLetters s ∈ (if b then yesWords else noWords) := by
  have hdisjoint : ∀ word ∈ noWords, word ∉ yesWords := by decide
  unfold truthOfWord?
  cases b <;> simp only [List.contains_iff_mem] <;> grind

/-- Only one and zero stand for truth values. -/
theorem truthOfInt?_eq_some_iff {n : Int} {b : Bool} :
    truthOfInt? n = some b ↔ n = if b then 1 else 0 := by
  unfold truthOfInt?
  cases b <;> grind

/-- The denominator of a number is positive. -/
theorem pos_of_fraction? {s : Scalar} {p : Int} {q : Nat} (h : s.fraction? = some (p, q)) :
    0 < q := by
  cases s with
  | bool b => cases h; exact Nat.one_pos
  | int n => cases h; exact Nat.one_pos
  | float x =>
    simp only [Scalar.fraction?] at h
    split at h
    · cases h; exact Nat.one_pos
    · obtain ⟨-, rfl⟩ := Prod.mk.inj (Option.some.inj h)
      exact Nat.pow_pos Nat.two_pos
    · cases h
  | _ => cases h

/-- A scalar is the same as a whole number if its numerator is so many times its denominator. -/
theorem sameKey_int_iff {s : Scalar} {n : Int} :
    s.sameKey (.int n) = true ↔ ∃ p q, s.fraction? = some (p, q) ∧ p = n * q := by
  have hint : (Scalar.int n).fraction? = some (n, 1) := rfl
  cases hs : s.fraction? with
  | none => cases s <;> simp_all [Scalar.sameKey, Scalar.fraction?]
  | some r =>
    obtain ⟨p, q⟩ := r
    have hkey : s.sameKey (.int n) = (p == n * q) := by
      cases s with
      | bool | int | float => simp [Scalar.sameKey, hs, hint]
      | _ => cases hs
    rw [hkey, beq_iff_eq]
    exact ⟨fun h => ⟨p, q, rfl, h⟩, fun ⟨_, _, hr, h⟩ => by cases hr; exact h⟩

/-- A floating-point number that is no large number is read as the whole number that it is. -/
theorem wholeOfFloat?_eq_some_iff {x : Float} {n : Int} (hn : -wordLimit < n ∧ n < wordLimit) :
    wholeOfFloat? x = some n ↔ (Scalar.float x).sameKey (.int n) = true := by
  rw [sameKey_int_iff]
  unfold wholeOfFloat?
  cases hf : (Scalar.float x).fraction? with
  | none => simp
  | some r =>
    obtain ⟨p, q⟩ := r
    have hq : (0 : Int) < q := Int.natCast_pos.2 (pos_of_fraction? hf)
    dsimp only
    constructor
    · intro h
      split at h
      · rename_i hwhole
        simp only [Bool.and_eq_true, decide_eq_true_eq] at hwhole
        refine ⟨p, q, rfl, ?_⟩
        rw [← Option.some.inj h]
        exact (Int.ediv_mul_cancel (Int.dvd_of_emod_eq_zero hwhole.1.1)).symm
      · cases h
    · rintro ⟨_, _, ⟨⟩, rfl⟩
      have hdiv : n * q / q = n := Int.mul_ediv_cancel n (Int.ne_of_gt hq)
      simp [hdiv, hn]

/-- What may be unclear is a truth value if it is none of the unclear ones. -/
theorem orUnclear_eq_ok_iff {o : Option Bool} {b : Bool} :
    readBool.orUnclear o = .ok b ↔ o = some b := by
  cases o <;> simp [readBool.orUnclear]

/-- What a scalar says as a truth value. -/
theorem readsTruth_scalar_iff {s : Scalar} {b : Bool} : ReadsTruth (.scalar s) b ↔
    s.sameKey (.int (if b then 1 else 0)) = true ∨
      ∃ word, s = .str word ∧ smallLetters word ∈ (if b then yesWords else noWords) := by
  constructor
  · rintro (h | h | h | h)
    · exact .inl h
    · exact .inl h
    · exact .inr ⟨_, rfl, h⟩
    · exact .inr ⟨_, rfl, h⟩
  · rintro (h | ⟨word, rfl, h⟩) <;> cases b
    · exact .no h
    · exact .yes h
    · exact .noWord h
    · exact .yesWord h

/-- One and zero are no large numbers. -/
theorem lt_wordLimit (b : Bool) :
    -wordLimit < (if b then 1 else 0 : Int) ∧ (if b then 1 else 0 : Int) < wordLimit := by
  cases b <;> decide

/-- Truth values, numbers and words are read as what they say. -/
theorem readBool_eq_ok_iff (h : v.IsJson) {b : Bool} : readBool v = .ok b ↔ ReadsTruth v b := by
  cases h with
  | list | dict => exact ⟨nofun, nofun⟩
  | @scalar s h =>
    rw [readsTruth_scalar_iff]
    cases s with
    | null => simp [readBool, sameKey_int_iff, Scalar.fraction?]
    | bool c => cases b <;> cases c <;> simp [readBool, sameKey_int_iff, Scalar.fraction?]
    | int n =>
      have hone : (Scalar.int n).sameKey (.int (if b then 1 else 0)) = true ↔
          n = if b then 1 else 0 := by simp [sameKey_int_iff, Scalar.fraction?]
      rw [hone, readBool]
      split
      · rw [orUnclear_eq_ok_iff, truthOfInt?_eq_some_iff]
        simp
      · rename_i hlarge
        have hsmall := lt_wordLimit b
        constructor
        · nofun
        · rintro (rfl | ⟨_, hs, -⟩)
          · simp [Int.le_of_lt hsmall.1, hsmall.2] at hlarge
          · cases hs
    | float x =>
      rw [← wholeOfFloat?_eq_some_iff (lt_wordLimit b), readBool]
      cases wholeOfFloat? x with
      | none => simp
      | some n => simp [orUnclear_eq_ok_iff, truthOfInt?_eq_some_iff]
    | str word =>
      have hword : (Scalar.str word).sameKey (.int (if b then 1 else 0)) = false := by
        cases b <;> rfl
      rw [hword, readBool, Except.bind_eq_ok_iff]
      constructor
      · rintro ⟨_, hwhole, hb⟩
        obtain ⟨-, rfl⟩ := whole_eq_ok_iff.1 hwhole
        exact .inr ⟨word, rfl, truthOfWord?_eq_some_iff.1 (orUnclear_eq_ok_iff.1 hb)⟩
      · rintro (h | ⟨_, ⟨⟩, hmem⟩)
        · cases h
        · have htruth := truthOfWord?_eq_some_iff.2 hmem
          exact ⟨word, whole_eq_ok_iff.2 ⟨isWritable_of_truthOfWord? htruth, rfl⟩,
            orUnclear_eq_ok_iff.2 htruth⟩
    | date | moment | bytes => exact h.elim

/-- A part for a truth value is sound if it says one. -/
theorem checkBool_eq_ok_iff (h : v.IsJson) {b : Bool} :
    checkBool place v = .ok b ↔ ReadsTruth v b := by
  rw [checkBool, complainAt_eq_ok_iff, readBool_eq_ok_iff h]

end Leaves

section Parts

variable {place : List String} {v : Value}

/-- Only a list is taken apart. -/
theorem listed?_cases (h : v.IsJson) :
    (∃ items, v = .list items ∧ listed? v = some items ∧ ∀ w ∈ items, w.IsJson) ∨
      listed? v = none ∧ ∀ items, v ≠ .list items := by
  cases h with
  | @scalar s h => cases s <;> exact .inr ⟨rfl, nofun⟩
  | @list items h => exact .inl ⟨items, rfl, rfl, h⟩
  | dict => exact .inr ⟨rfl, nofun⟩

/-- The entries of a description stay as they are. The keys are read one by one and stay, and then
the entries are put together again. -/
theorem checkEntries_of_isJson {entries : List (Scalar × Value)}
    (h : (Value.dict entries).IsJson) : checkEntries place entries = .ok entries := by
  cases h with
  | @dict _ names keys distinct values =>
    have hkeys : ∀ e ∈ entries, ∃ name, e.1 = .str name := by
      intro e he
      obtain ⟨name, -, hname⟩ := List.mem_map.1 (keys ▸ List.mem_map_of_mem he)
      exact ⟨name, hname.symm⟩
    refine Except.bind_eq_ok_iff.2 ⟨entries, (Check.each_eq_ok_iff (R := Eq) ?_).2 ?_, ?_⟩
    · rintro n ⟨key, value⟩ he b
      obtain ⟨name, rfl : key = _⟩ := hkeys _ he
      exact ⟨Except.ok.inj, congrArg Except.ok⟩
    · exact List.forall₂_same.2 fun _ _ => rfl
    · exact congrArg Except.ok (Value.foldl_insert_of_nodup keys distinct nofun)

/-- A description of a unit is sound if it is a path or a mapping. -/
theorem checkUnit_eq_ok_iff (h : v.IsJson) {u : UnitSource} :
    checkUnit place v = .ok u ↔ DescribesUnit v u := by
  cases h with
  | @scalar s h =>
    cases s with
    | str path =>
      constructor
      · rintro ⟨⟩
        exact .file path
      · rintro ⟨⟩
        rfl
    | null | bool | int | float => exact ⟨nofun, nofun⟩
    | date | moment | bytes => exact h.elim
  | list => exact ⟨nofun, nofun⟩
  | @dict entries names keys distinct values =>
    have hentries : checkEntries (place ++ ["dict[str,any]"]) entries = .ok entries :=
      checkEntries_of_isJson (.dict keys distinct values)
    simp only [checkUnit, readText, Value.opened_dict, hentries]
    constructor
    · rintro ⟨⟩
      exact .inline entries
    · rintro ⟨⟩
      rfl

/-- A list is sound if what stands at its places is. -/
theorem each_eq_ok_iff_forall₂ {α : Type} (check : List String → Value → Check α)
    {Reads : Value → α → Prop}
    (h : ∀ place v, v.IsJson → ∀ a, check place v = .ok a ↔ Reads v a) {items : List Value}
    (hitems : ∀ v ∈ items, v.IsJson) {l : List α} :
    Check.each (fun n => check (place ++ [Nat.repr n])) 0 items = .ok l ↔
      List.Forall₂ Reads items l :=
  Check.each_eq_ok_iff fun n v hv a => h (place ++ [Nat.repr n]) v (hitems v hv) a

/-- The units are sound if they are left out, or a list of sound descriptions. -/
theorem checkUnits_eq_ok_iff {o : Option Value} (h : ∀ v, o = some v → v.IsJson)
    {units : List UnitSource} :
    checkUnits place o = .ok units ↔ Filled [] (ReadsList DescribesUnit) o units := by
  cases o with
  | none => exact ⟨fun hu => (Except.ok.inj hu).symm, fun hu => congrArg Except.ok hu.symm⟩
  | some v =>
    unfold checkUnits
    dsimp only
    rcases listed?_cases (h v rfl) with ⟨items, rfl, hlisted, hitems⟩ | ⟨hlisted, hne⟩ <;>
      rw [hlisted]
    · exact (each_eq_ok_iff_forall₂ checkUnit (fun _ _ hv _ => checkUnit_eq_ok_iff hv) hitems).trans
        readsList_list_iff.symm
    · refine ⟨nofun, ?_⟩
      rintro ⟨-⟩
      exact absurd rfl (hne _)

/-- The name of a library is sound if it is there and may be one. -/
theorem checkName_eq_ok_iff {o : Option Value} (h : ∀ v, o = some v → v.IsJson) {s : String} :
    checkName place o = .ok s ↔ o = some (.str s) ∧ IsLibraryName s := by
  cases o with
  | none => exact ⟨nofun, nofun⟩
  | some v => simp [checkName, complainAt_eq_ok_iff, readName_eq_ok_iff (h v rfl), IsLibraryName]

/-- The namespace of a module is sound if it is left out or sound. -/
theorem checkNamespace_getD_eq_ok_iff {o : Option Value} (h : ∀ v, o = some v → v.IsJson)
    {a : Option String} :
    checkNamespace place (o.getD .null) = .ok a ↔ Filled none ReadsNamespace o a := by
  cases o with
  | none => exact ⟨fun ha => (Except.ok.inj ha).symm, fun ha => congrArg Except.ok ha.symm⟩
  | some v => exact checkNamespace_eq_ok_iff (h v rfl)

/-- A module is sound if it is described. -/
theorem checkModule_eq_ok_iff (h : v.IsJson) {m : ModuleSettings} :
    checkModule place v = .ok m ↔ DescribesModule IsLibraryName v m := by
  cases h with
  | @scalar s h => cases s <;> exact ⟨nofun, nofun⟩
  | list => exact ⟨nofun, nofun⟩
  | @dict entries names keys distinct values =>
    have hlookup : ∀ key v, Value.lookup key entries = some v → v.IsJson :=
      fun key v hv => (Value.IsJson.dict keys distinct values).of_lookup hv
    obtain ⟨⟨name, space⟩, units⟩ := m
    simp only [checkModule, Value.opened_dict]
    rw [Check.map_eq_ok_iff]
    constructor
    · rintro ⟨⟨_, _, _⟩, hboth, ⟨⟩⟩
      obtain ⟨hname, hboth⟩ := Check.both_eq_ok_iff.1 hboth
      obtain ⟨hspace, hunits⟩ := Check.both_eq_ok_iff.1 hboth
      obtain ⟨hname, hproper⟩ := (checkName_eq_ok_iff (hlookup _)).1 hname
      exact .dict hname hproper ((checkNamespace_getD_eq_ok_iff (hlookup _)).1 hspace)
        ((checkUnits_eq_ok_iff (hlookup _)).1 hunits)
    · rintro ⟨hname, hproper, hspace, hunits⟩
      exact ⟨(name, space, units), Check.both_eq_ok_iff.2
        ⟨(checkName_eq_ok_iff (hlookup _)).2 ⟨hname, hproper⟩, Check.both_eq_ok_iff.2
          ⟨(checkNamespace_getD_eq_ok_iff (hlookup _)).2 hspace,
            (checkUnits_eq_ok_iff (hlookup _)).2 hunits⟩⟩, rfl⟩

/-- The modules are sound if they are a list of sound modules that is not empty. -/
theorem checkModules_eq_ok_iff {o : Option Value} (h : ∀ v, o = some v → v.IsJson)
    {modules : List ModuleSettings} :
    checkModules place o = .ok modules ↔
      (∃ v, o = some v ∧ ReadsList (DescribesModule IsLibraryName) v modules) ∧ modules ≠ [] := by
  cases o with
  | none => exact ⟨nofun, nofun⟩
  | some v =>
    have hv : ∀ l : List ModuleSettings,
        (∃ w, some v = some w ∧ ReadsList (DescribesModule IsLibraryName) w l) ↔
          ReadsList (DescribesModule IsLibraryName) v l := fun l => by simp
    rw [hv]
    unfold checkModules
    dsimp only
    rcases listed?_cases (h v rfl) with ⟨items, rfl, hlisted, hitems⟩ | ⟨hlisted, hne⟩ <;>
      rw [hlisted]
    · rw [readsList_list_iff]
      cases items with
      | nil =>
        refine ⟨nofun, ?_⟩
        rintro ⟨⟨⟩, hnonempty⟩
        exact absurd rfl hnonempty
      | cons v rest =>
        refine (each_eq_ok_iff_forall₂ checkModule
          (fun _ _ hv _ => checkModule_eq_ok_iff hv) hitems).trans
            ⟨fun hmodules => ⟨hmodules, ?_⟩, And.left⟩
        rintro rfl
        cases hmodules
    · refine ⟨nofun, ?_⟩
      rintro ⟨⟨-⟩, -⟩
      exact absurd rfl (hne _)

/-- A part that may be left out is sound if what stands there is. -/
theorem optional_eq_ok_iff {α : Type} {key : String} {entries : List (Scalar × Value)}
    {fallback : α} {check : List String → Value → Check α} {Reads : Value → α → Prop}
    (h : ∀ v, Value.lookup key entries = some v → ∀ a, check [key] v = .ok a ↔ Reads v a) {a : α} :
    optional key entries fallback check = .ok a ↔
      Filled fallback Reads (Value.lookup key entries) a := by
  unfold optional
  cases hv : Value.lookup key entries with
  | none => exact ⟨fun ha => (Except.ok.inj ha).symm, fun ha => congrArg Except.ok ha.symm⟩
  | some v => exact h v hv a

end Parts

section Whole

variable {entries : List (Scalar × Value)} {c : Configuration}

/-- The parts of a configuration are sound and its names different if it is described. -/
theorem checkParts_eq_ok_iff (h : (Value.dict entries).IsJson) :
    checkParts entries = .ok c ∧ (c.modules.map (·.library.name)).Nodup ↔
      Describes IsLibraryName entries c := by
  have hlookup : ∀ key v, Value.lookup key entries = some v → v.IsJson :=
    fun key v hv => h.of_lookup hv
  obtain ⟨target, output, single, policy, modules, base⟩ := c
  have htarget : optional "generator_kind" entries .csharp checkTarget = .ok target ↔ _ :=
    optional_eq_ok_iff fun v _ a => checkTarget_eq_ok_iff
  have houtput : optional "output_dir" entries (some usualOutputDirectory) checkText = .ok output ↔
      _ := optional_eq_ok_iff fun v hv a => checkText_eq_ok_iff (hlookup _ v hv)
  have hsingle : optional "generate_single_csharp_file" entries false checkBool = .ok single ↔ _ :=
    optional_eq_ok_iff fun v hv a => checkBool_eq_ok_iff (hlookup _ v hv)
  have hpolicy : optional "empty_output_policy" entries .stop checkPolicy = .ok policy ↔ _ :=
    optional_eq_ok_iff fun v _ a => checkPolicy_eq_ok_iff
  have hmodules : checkModules ["modules"] (Value.lookup "modules" entries) = .ok modules ↔ _ :=
    checkModules_eq_ok_iff (hlookup _)
  have hbase : optional "base_dir" entries none checkText = .ok base ↔ _ :=
    optional_eq_ok_iff fun v hv a => checkText_eq_ok_iff (hlookup _ v hv)
  unfold checkParts
  dsimp only
  rw [Check.map_eq_ok_iff]
  constructor
  · rintro ⟨⟨⟨_, _, _, _, _, _⟩, hboth, ⟨⟩⟩, hdistinct⟩
    obtain ⟨ht, hboth⟩ := Check.both_eq_ok_iff.1 hboth
    obtain ⟨ho, hboth⟩ := Check.both_eq_ok_iff.1 hboth
    obtain ⟨hs, hboth⟩ := Check.both_eq_ok_iff.1 hboth
    obtain ⟨hp, hboth⟩ := Check.both_eq_ok_iff.1 hboth
    obtain ⟨hm, hb⟩ := Check.both_eq_ok_iff.1 hboth
    obtain ⟨hlist, hnonempty⟩ := hmodules.1 hm
    exact ⟨htarget.1 ht, houtput.1 ho, hsingle.1 hs, hpolicy.1 hp, hlist, hnonempty, hdistinct,
      hbase.1 hb⟩
  · rintro ⟨ht, ho, hs, hp, hlist, hnonempty, hdistinct, hb⟩
    have hmore := Check.both_eq_ok_iff.2 ⟨hmodules.2 ⟨hlist, hnonempty⟩, hbase.2 hb⟩
    have hmore := Check.both_eq_ok_iff.2 ⟨hpolicy.2 hp, hmore⟩
    have hmore := Check.both_eq_ok_iff.2 ⟨hsingle.2 hs, hmore⟩
    have hmore := Check.both_eq_ok_iff.2 ⟨houtput.2 ho, hmore⟩
    exact ⟨⟨_, Check.both_eq_ok_iff.2 ⟨htarget.2 ht, hmore⟩, rfl⟩, hdistinct⟩

/-- A configuration is sound if it is described. -/
theorem check_eq_ok_iff (h : (Value.dict entries).IsJson) :
    check (.dict entries) = .ok c ↔ Describes IsLibraryName entries c := by
  rw [← checkParts_eq_ok_iff h]
  simp only [check, Value.opened_dict]
  rw [Except.bind_eq_ok_iff]
  constructor
  · rintro ⟨d, hd, hnames⟩
    split at hnames
    · cases hnames
    · rename_i hnone
      obtain rfl := Except.ok.inj hnames
      exact ⟨hd, (repeated?_eq_none_iff.1 hnone).1⟩
  · rintro ⟨hparts, hdistinct⟩
    refine ⟨c, hparts, ?_⟩
    rw [repeated?_eq_none_iff.2 ⟨hdistinct, fun _ _ => List.not_mem_nil⟩]

end Whole

end Configuration

end Interop
