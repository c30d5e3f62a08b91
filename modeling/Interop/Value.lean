import Interop.Calendar
import Interop.Text.Digit
import Interop.Text.Quoted

/-!
# Description values

Unit descriptions and configurations are written in a data format without a fixed schema. A `Value`
is one such datum: a scalar, or a collection of data. A collection may hold itself somewhere inside;
it is then tied by a number, and the places inside where it stands again bear the number. Looking
into a tied collection puts the collection itself in these places, so nothing is lost by the tie.

Two texts belong to every value: its plain text, where a string stands for itself, and its quoted
text, which error messages show. Only numbers that are too long have no text.
-/

namespace Interop

/-- A datum without parts. -/
inductive Scalar where
  | null
  | bool (b : Bool)
  | int (n : Int)
  | float (x : Float)
  | str (s : String)
  | date (d : Date)
  | moment (m : Moment)
  | bytes (octets : List UInt8)

/-- A datum. Keys of mappings and members of sets are scalars, and keep their order. -/
inductive Value where
  | scalar (s : Scalar)
  | list (items : List Value)
  | dict (entries : List (Scalar × Value))
  | set (members : List Scalar)
  /-- Two data side by side. -/
  | pair (first second : Value)
  /-- A collection that holds itself, under a number. -/
  | tied (id : Nat) (v : Value)
  /-- The place where a tied collection stands again, and whether that is a mapping. -/
  | again (id : Nat) (isMapping : Bool)

namespace Scalar

/-- The quoted form of one byte. -/
def quotedByte (quote : Char) (b : UInt8) : List Char :=
  let c := Char.ofNat b.toNat
  if c == '\\' || c == quote then ['\\', c]
  else if c == '\n' then ['\\', 'n']
  else if c == '\r' then ['\\', 'r']
  else if c == '\t' then ['\\', 't']
  else if 32 ≤ b.toNat && b.toNat < 127 then [c]
  else '\\' :: 'x' :: Text.Quoted.hex 2 b.toNat

/-- The quoted form of a row of bytes. -/
def quotedBytes (octets : List UInt8) : String :=
  let quote := Text.Quoted.quoteFor (octets.map fun b => Char.ofNat b.toNat)
  String.ofList ('b' :: quote :: octets.flatMap (quotedByte quote) ++ [quote])

/-- The text of a scalar within a larger value. -/
def quoted : Scalar → String
  | null => "None"
  | bool true => "True"
  | bool false => "False"
  | int n => Decimal.integerText n
  | float x => Decimal.floatText x
  | str s => Text.Quoted.quoted s
  | date d => d.quoted
  | moment m => m.quoted
  | bytes octets => quotedBytes octets

/-- The text of a scalar that stands alone. -/
def text : Scalar → String
  | str s => s
  | date d => d.text
  | moment m => m.text
  | other => other.quoted

/-- Whether a scalar has a text: a whole number must not have too many digits. -/
def hasText : Scalar → Bool
  | int n => n.natAbs < Nat.pow 2 64 || n.natAbs < Nat.pow 10 Text.Digit.limit
  | _ => true

/-- A scalar counts as false if it is null, false, zero or empty. -/
def isTruthy : Scalar → Bool
  | null => false
  | bool b => b
  | int n => n != 0
  | float x => !(x == 0.0)
  | str s => !s.isEmpty
  | date _ | moment _ => true
  | bytes octets => !octets.isEmpty

/-- The name of a scalar's type in error messages. -/
def typeName : Scalar → String
  | null => "NoneType"
  | bool _ => "bool"
  | int _ => "int"
  | float _ => "float"
  | str _ => "str"
  | date _ => "date"
  | moment _ => "datetime"
  | bytes _ => "bytes"

/-- A finite number as a numerator over a power of two. -/
def fraction? : Scalar → Option (Int × Nat)
  | bool b => some (if b then 1 else 0, 1)
  | int n => some (n, 1)
  | float x =>
    let sign : Int := if x.toBits.toNat ≥ Nat.pow 2 63 then -1 else 1
    match Decimal.Shortest.Kind.ofBits x.toBits with
    | .zero => some (0, 1)
    | .finite v =>
      let whole := v.significand * Nat.pow 2 v.exponent.toNat
      some (sign * whole, Nat.pow 2 (-v.exponent).toNat)
    | _ => none
  | _ => none

/-- Whether two scalars are the same key of a mapping. Numbers are the same if they are equal,
whatever their types, and the two truth values count as one and zero. -/
def sameKey : Scalar → Scalar → Bool
  | null, null => true
  | str s, str t => s == t
  | date d, date e => d == e
  | moment m, moment n => m.same n
  | bytes s, bytes t => s == t
  | a, b =>
    match a.fraction?, b.fraction? with
    | some (p, q), some (p', q') => p * q' == p' * q
    | none, none =>
      match a, b with
      | float x, float y => x == y
      | _, _ => false
    | _, _ => false

end Scalar

namespace Value

/-- The absent value. -/
@[match_pattern] abbrev null : Value := .scalar .null

/-- A truth value. -/
@[match_pattern] abbrev bool (b : Bool) : Value := .scalar (.bool b)

/-- A whole number. -/
@[match_pattern] abbrev int (n : Int) : Value := .scalar (.int n)

/-- A floating-point number. -/
@[match_pattern] abbrev float (x : Float) : Value := .scalar (.float x)

/-- A piece of text. -/
@[match_pattern] abbrev str (s : String) : Value := .scalar (.str s)

mutual

/-- Put a collection in the places where it stands again. Inside a collection under the same number
these places are its own. -/
def fill (id : Nat) (whole : Value) : Value → Value
  | scalar s => scalar s
  | list items => list (fillItems id whole items)
  | dict entries => dict (fillEntries id whole entries)
  | set members => set members
  | pair a b => pair (fill id whole a) (fill id whole b)
  | tied other v => if other = id then tied other v else tied other (fill id whole v)
  | again other isMapping => if other = id then whole else again other isMapping

/-- The same in all items of a list. -/
def fillItems (id : Nat) (whole : Value) : List Value → List Value
  | [] => []
  | item :: rest => fill id whole item :: fillItems id whole rest

/-- The same in all values of a mapping. -/
def fillEntries (id : Nat) (whole : Value) : List (Scalar × Value) → List (Scalar × Value)
  | [] => []
  | (key, value) :: rest => (key, fill id whole value) :: fillEntries id whole rest

end

/-- A value that can be looked into: a tied collection stands where it stands again. -/
def opened : Value → Value
  | tied id v => fill id (tied id v) v
  | v => v

/-- A mapping that is not tied is open already. -/
@[simp] theorem opened_dict (entries : List (Scalar × Value)) :
    (dict entries).opened = dict entries := rfl

/-- What can be taken out of a value one after the other: the items of a list, the keys of a
mapping, the members of a set, the two parts of a pair, the characters of a text, the numbers of
bytes. -/
def elements? (v : Value) : Option (List Value) :=
  match v.opened with
  | list items => some items
  | dict entries => some (entries.map (scalar ·.1))
  | set members => some (members.map scalar)
  | pair a b => some [a, b]
  | str s => some (s.toList.map fun c => str (String.ofList [c]))
  | scalar (.bytes octets) => some (octets.map fun b => int b.toNat)
  | _ => none

mutual

/-- The text of a value within larger ones, some of which are tied: strings are quoted, lists stand
in brackets and mappings in braces. Of a collection that stands within itself, only the brackets or
braces are shown. -/
def quotedIn (outer : List Nat) : Value → String
  | scalar s => s.quoted
  | list items => "[" ++ ", ".intercalate (quotedItems outer items) ++ "]"
  | dict entries => "\x7b" ++ ", ".intercalate (quotedEntries outer entries) ++ "\x7d"
  | set members =>
    if members.isEmpty then "set()"
    else "\x7b" ++ ", ".intercalate (members.map Scalar.quoted) ++ "\x7d"
  | pair a b => "(" ++ quotedIn outer a ++ ", " ++ quotedIn outer b ++ ")"
  | tied id v =>
    if outer.contains id then (match v with
      | dict _ => "\x7b...\x7d"
      | _ => "[...]")
    else quotedIn (id :: outer) v
  | again _ isMapping => if isMapping then "\x7b...\x7d" else "[...]"

/-- The quoted texts of the items of a list. -/
def quotedItems (outer : List Nat) : List Value → List String
  | [] => []
  | item :: rest => quotedIn outer item :: quotedItems outer rest

/-- The quoted texts of the entries of a mapping. -/
def quotedEntries (outer : List Nat) : List (Scalar × Value) → List String
  | [] => []
  | (key, value) :: rest =>
    (key.quoted ++ ": " ++ quotedIn outer value) :: quotedEntries outer rest

end

/-- The quoted text of a value. -/
def quoted (v : Value) : String := v.quotedIn []

/-- The text of a value that stands alone: a string as it is, anything else as quoted. -/
def text : Value → String
  | scalar s => s.text
  | other => other.quoted

mutual

/-- Whether a value has a text. -/
def hasText : Value → Bool
  | scalar s => s.hasText
  | list items => haveText items
  | dict entries => haveEntryText entries
  | set members => members.all Scalar.hasText
  | pair a b => a.hasText && b.hasText
  | tied _ v => v.hasText
  | again .. => true

/-- Whether all items of a list have a text. -/
def haveText : List Value → Bool
  | [] => true
  | item :: rest => item.hasText && haveText rest

/-- Whether all entries of a mapping have a text. -/
def haveEntryText : List (Scalar × Value) → Bool
  | [] => true
  | (key, value) :: rest => key.hasText && value.hasText && haveEntryText rest

end

/-- The text of a value, if it has one. -/
def text? (v : Value) : Option String := if v.hasText then some v.text else none

/-- A string always has a text. -/
@[simp] theorem text?_str (s : String) : (str s).text? = some s := rfl

/-- Empty collections and false scalars count as false. -/
def isTruthy : Value → Bool
  | scalar s => s.isTruthy
  | list items => !items.isEmpty
  | dict entries => !entries.isEmpty
  | set members => !members.isEmpty
  | pair .. | again .. => true
  | tied _ v => v.isTruthy

/-- The name of a value's type in error messages. -/
def typeName : Value → String
  | scalar s => s.typeName
  | list _ => "list"
  | dict _ => "dict"
  | set _ => "set"
  | pair .. => "tuple"
  | tied _ v => v.typeName
  | again _ isMapping => if isMapping then "dict" else "list"

/-- The string that a value is, if it is one. -/
def str? : Value → Option String
  | str s => some s
  | _ => none

/-- Only a string is one. -/
theorem str?_eq_some_iff {v : Value} {s : String} : v.str? = some s ↔ v = .str s := by
  constructor
  · intro h
    unfold str? at h
    split at h
    · rw [Option.some.inj h]
    · cases h
  · rintro rfl
    rfl

/-- The value at a string key of a list of entries. -/
def lookup (key : String) (entries : List (Scalar × Value)) : Option Value :=
  (entries.find? fun entry => entry.1.sameKey (.str key)).map (·.2)

/-- Put a value at a key: in place where the key is present, at the end where it is not. -/
def insert (key : Scalar) (value : Value) : List (Scalar × Value) → List (Scalar × Value)
  | [] => [(key, value)]
  | entry :: rest =>
    if entry.1.sameKey key then (entry.1, value) :: rest else entry :: insert key value rest

end Value

end Interop
