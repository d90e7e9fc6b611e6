import Mathlib.Logic.Relation

/-!
YAML documents as a loader hands them over, and the readings of them that
decoders are written with. A reading looks through tags, as does the lookup of a
field; the keys of a mapping are values themselves, and a field is found under a
plain string only.

The same text can also be read into a type. A text field takes the text of any
scalar, also where a value takes it for null, a boolean or a number.
-/

namespace Yaml

inductive Number where
  | posInt (value : UInt64)
  | negInt (value : Int64)
  | float (bits : UInt64)

inductive Value where
  | null
  | bool (value : Bool)
  | number (value : Number)
  | string (value : String)
  | sequence (values : List Value)
  | mapping (entries : List (Value × Value))
  | tagged (tag : String) (value : Value)

namespace Value

def untag : Value → Value
  | tagged _ value => value.untag
  | value => value

def isKey (key : String) : Value → Bool
  | string name => name = key
  | _ => false

def asStr (value : Value) : Option String :=
  match value.untag with
  | string text => some text
  | _ => none

def asU64 (value : Value) : Option Nat :=
  match value.untag with
  | number (.posInt n) => some n.toNat
  | _ => none

def asSequence (value : Value) : Option (List Value) :=
  match value.untag with
  | sequence values => some values
  | _ => none

def asMapping (value : Value) : Option (List (Value × Value)) :=
  match value.untag with
  | mapping entries => some entries
  | _ => none

def get (value : Value) (key : String) : Option Value :=
  match value.untag with
  | mapping entries => (entries.find? fun entry => entry.1.isKey key).map Prod.snd
  | _ => none

/-- The values directly below a value: the items of a sequence, the keys and the values
of a mapping, and what a tag is put on. -/
inductive Below : Value → Value → Prop
  | item {values : List Value} {value : Value} (member : value ∈ values) :
      Below value (.sequence values)
  | key {entries : List (Value × Value)} {entry : Value × Value} (member : entry ∈ entries) :
      Below entry.1 (.mapping entries)
  | value {entries : List (Value × Value)} {entry : Value × Value} (member : entry ∈ entries) :
      Below entry.2 (.mapping entries)
  | tagged {tag : String} {value : Value} : Below value (.tagged tag value)

theorem Below.sizeOf_lt {child value : Value} (h : Below child value) :
    sizeOf child < sizeOf value := by
  cases h with
  | item member =>
      have smaller := List.sizeOf_lt_of_mem member
      simp only [sequence.sizeOf_spec]
      omega
  | @key entries entry member | @value entries entry member =>
      have smaller := List.sizeOf_lt_of_mem member
      obtain ⟨key, value⟩ := entry
      simp only [mapping.sizeOf_spec, Prod.mk.sizeOf_spec] at smaller ⊢
      omega
  | tagged =>
      simp only [tagged.sizeOf_spec]
      omega

/-- What holds of a value when it holds of all below it holds of every value. -/
theorem below_induction {P : Value → Prop}
    (step : ∀ value, (∀ child, Below child value → P child) → P value) (value : Value) :
    P value :=
  step value fun child _ => below_induction step child
termination_by sizeOf value
decreasing_by exact Below.sizeOf_lt ‹_›

/-- The value is a mapping, and the text is one of its keys. -/
def HasKey (key : String) (value : Value) : Prop :=
  ∃ entries, value = .mapping entries ∧ ∃ entry ∈ entries, entry.1.asStr = some key

/-- Some mapping inside the value, at any depth, has the key. -/
def Occurs (key : String) (value : Value) : Prop :=
  ∃ part, Relation.ReflTransGen Below part value ∧ part.HasKey key

def nullTexts : List String :=
  ["", "~", "null", "Null", "NULL"]

def boolTexts : List String :=
  ["true", "True", "TRUE", "false", "False", "FALSE"]

/-- The characters that numbers are written with, infinities and NaN included. -/
def numberChars : List Char :=
  "0123456789+-.xoeEabcdfABCDFinIN".toList

/-- The value is a scalar that can be written as this text. -/
inductive Spells : Value → String → Prop
  | null {text : String} (written : text ∈ nullTexts) : Spells .null text
  | bool {value : Bool} {text : String} (written : text ∈ boolTexts) : Spells (.bool value) text
  | number {value : Number} {text : String} (written : ∀ c ∈ text.toList, c ∈ numberChars) :
      Spells (.number value) text
  | string {text : String} : Spells (.string text) text
  | tagged {tag text : String} {value : Value} (inner : Spells value text) :
      Spells (.tagged tag value) text

/-- No value but a string is written as the text. -/
structure OnlyString (text : String) : Prop where
  notNull : text ∉ nullTexts
  notBool : text ∉ boolTexts
  notNumber : ∃ c ∈ text.toList, c ∉ numberChars

theorem Spells.asStr {value : Value} {text : String} (h : value.Spells text) :
    value.asStr = some text ∨ (value.asStr = none ∧ ¬ OnlyString text) := by
  induction h with
  | null written => exact .inr ⟨rfl, fun only => only.notNull written⟩
  | bool written => exact .inr ⟨rfl, fun only => only.notBool written⟩
  | number written =>
      refine .inr ⟨rfl, ?_⟩
      intro only
      obtain ⟨c, member, other⟩ := only.notNumber
      exact other (written c member)
  | string => exact .inl rfl
  | tagged _ ih => exact ih

theorem Spells.asStr_of_only {value : Value} {text : String} (h : value.Spells text)
    (only : OnlyString text) : value.asStr = some text :=
  h.asStr.resolve_right fun other => other.2 only

theorem Spells.asStr_of_isSome {value : Value} {text : String} (h : value.Spells text)
    (some : value.asStr.isSome = true) : value.asStr = .some text := by
  refine h.asStr.resolve_right ?_
  intro other
  rw [other.1] at some
  cases some

/-- The value is a mapping, and its entries are among these fields. -/
def FieldsAmong (fields : List (String × String)) (value : Value) : Prop :=
  ∃ entries, value.untag = .mapping entries ∧ ∀ entry ∈ entries, ∃ field ∈ fields,
    entry.1.Spells field.1 ∧ entry.2.Spells field.2

/-- A field that is found is one of the fields, with its text. -/
theorem FieldsAmong.get {value found : Value} {fields : List (String × String)} {name : String}
    (h : value.FieldsAmong fields) (here : value.get name = some found) :
    ∃ text, (name, text) ∈ fields ∧ found.Spells text := by
  obtain ⟨entries, same, among⟩ := h
  rw [Value.get, same] at here
  obtain ⟨⟨key, value⟩, located, rfl⟩ := Option.map_eq_some_iff.mp here
  obtain ⟨⟨name', text⟩, member, named, spelled⟩ := among _ (List.mem_of_find?_eq_some located)
  have isKey := List.find?_some located
  cases named with
  | string =>
      cases of_decide_eq_true isKey
      exact ⟨text, member, spelled⟩
  | null | bool | number | tagged => cases isKey

theorem FieldsAmong.spells {value found : Value} {fields : List (String × String)}
    {name text : String} (h : value.FieldsAmong fields) (here : value.get name = some found)
    (once : ∀ text', (name, text') ∈ fields → text' = text) : found.Spells text := by
  obtain ⟨text', member, spelled⟩ := h.get here
  rwa [once text' member] at spelled

theorem FieldsAmong.get_eq_none {value : Value} {fields : List (String × String)} {name : String}
    (h : value.FieldsAmong fields) (absent : ∀ text, (name, text) ∉ fields) :
    value.get name = none := by
  cases here : value.get name with
  | none => rfl
  | some found =>
      obtain ⟨text, member, -⟩ := h.get here
      exact absurd member (absent text)

end Value

end Yaml
