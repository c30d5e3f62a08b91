import Interop.CType

/-!
# Layers of types

A type is a leaf with layers of pointers and arrays around it. What a spelling says of a type it
says layer by layer, so the laws of spellings are stated on the layers, the outermost first, on the
marks of constness that the pointers among them carry, and on the leaf.
-/

namespace Interop.CType

/-- What a pointer or an array puts around a type. -/
inductive Layer where
  /-- A pointer, or a reference. -/
  | pointer (isReference isConst : Bool)
  /-- An array, with its size if one is given. -/
  | array (size : Option Int)
deriving DecidableEq, Repr

/-- The mark of constness that a layer carries, if it is a pointer. -/
def Layer.constMark? : Layer → Option Bool
  | pointer _ isConst => some isConst
  | array _ => none

/-- The layer without its mark of constness. -/
def Layer.unmarked : Layer → Layer
  | pointer isReference _ => pointer isReference false
  | array size => array size

/-- The layers around the leaf of a type, the outermost first. -/
def layers : CType → List Layer
  | pointer pointee isReference isConst => .pointer isReference isConst :: pointee.layers
  | array element size => .array size :: element.layers
  | _ => []

/-- What is left of a type without its layers. -/
def leaf : CType → CType
  | pointer pointee _ _ => pointee.leaf
  | array element _ => element.leaf
  | t => t

/-- The marks of constness of the pointers among the layers, the outermost first. -/
def constMarks (t : CType) : List Bool := t.layers.filterMap Layer.constMark?

section Laws

variable (t : CType) (isReference isConst : Bool) (size : Option Int)

/-- A pointer carries its own mark in front of those inside. -/
@[simp] theorem constMarks_pointer :
    (pointer t isReference isConst).constMarks = isConst :: t.constMarks := rfl

/-- An array carries no mark. -/
@[simp] theorem constMarks_array : (array t size).constMarks = t.constMarks := rfl

end Laws

/-- Layers are determined by what they are without their marks, and by the marks in order. -/
theorem layers_eq_of_marks {ls ms : List Layer}
    (hunmarked : ls.map Layer.unmarked = ms.map Layer.unmarked)
    (hmarks : ls.filterMap Layer.constMark? = ms.filterMap Layer.constMark?) : ls = ms := by
  induction ls generalizing ms with
  | nil => exact (List.map_eq_nil_iff.1 hunmarked.symm).symm
  | cons l ls ih =>
    cases ms with
    | nil => cases hunmarked
    | cons m ms =>
      obtain ⟨hhead, htail⟩ := List.cons.inj hunmarked
      cases l with
      | pointer isReference isConst =>
        cases m with
        | array size => cases hhead
        | pointer isReference' isConst' =>
          cases hhead
          obtain ⟨hmark, hrest⟩ := List.cons.inj hmarks
          rw [hmark, ih htail hrest]
      | array size =>
        cases m with
        | pointer isReference isConst => cases hhead
        | array size' =>
          cases hhead
          rw [ih htail hmarks]

/-- A type is determined by its layers and its leaf. -/
theorem eq_of_layers_of_leaf {t u : CType} (hlayers : t.layers = u.layers)
    (hleaf : t.leaf = u.leaf) : t = u := by
  induction t generalizing u with
  | pointer pointee isReference isConst ih =>
    cases u with
    | pointer pointee' isReference' isConst' =>
      obtain ⟨hlayer, hrest⟩ := List.cons.inj hlayers
      cases hlayer
      rw [ih hrest hleaf]
    | _ => cases hlayers
  | array element size ih =>
    cases u with
    | array element' size' =>
      obtain ⟨hlayer, hrest⟩ := List.cons.inj hlayers
      cases hlayer
      rw [ih hrest hleaf]
    | _ => cases hlayers
  | _ => cases u <;> first | exact hleaf | cases hlayers

end Interop.CType
