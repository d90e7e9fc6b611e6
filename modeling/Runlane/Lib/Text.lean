import Mathlib.Data.List.DropRight
import Mathlib.Data.List.Infix

/-!
White space, paths, and substrings of texts that were joined with a separator.

A text without the separator occurs in the joined text only inside one of the
parts, so a search in the joined text is a search in the parts.
-/

namespace Text

/-- The characters with the Unicode property `White_Space`. -/
def isWhitespace (c : Char) : Bool :=
  [0x20, 0x85, 0xA0, 0x1680, 0x2028, 0x2029, 0x202F, 0x205F, 0x3000].contains c.toNat ||
    (0x09 ≤ c.toNat && c.toNat ≤ 0x0D) || (0x2000 ≤ c.toNat && c.toNat ≤ 0x200A)

/-- Nothing is left of the text when it is trimmed. -/
def isBlank (text : String) : Bool :=
  text.toList.all isWhitespace

/-- Without white space at both ends. -/
def trim (text : String) : String :=
  String.ofList ((text.toList.dropWhile isWhitespace).rdropWhile isWhitespace)

theorem trim_trim (text : String) : trim (trim text) = trim text := by
  have front (chars : List Char) :
      ((chars.dropWhile isWhitespace).rdropWhile isWhitespace).dropWhile isWhitespace =
        (chars.dropWhile isWhitespace).rdropWhile isWhitespace := by
    refine List.dropWhile_eq_self_iff.mpr fun nonempty => ?_
    have short := List.rdropWhile_prefix isWhitespace (chars.dropWhile isWhitespace)
    rw [short.getElem nonempty]
    exact List.dropWhile_eq_self_iff.mp (List.dropWhile_idempotent isWhitespace chars) _
  simp only [trim, String.toList_ofList, front, List.rdropWhile_idempotent]

/-- Joins a path and one more component. -/
def joinPath (path component : String) : String :=
  if path.isEmpty || path.endsWith "/" then path ++ component else path ++ "/" ++ component

/-- The parts of a text before and after the first separator. -/
def splitOnce (separator : Char) (text : String) : Option (String × String) :=
  match text.toList.span (· ≠ separator) with
  | (before, _ :: after) => some (String.ofList before, String.ofList after)
  | (_, []) => none

theorem mem_of_splitOnce {separator : Char} {text : String} {parts : String × String}
    (split : splitOnce separator text = some parts) : separator ∈ text.toList := by
  by_contra absent
  have whole : text.toList.dropWhile (· ≠ separator) = [] := by
    rw [List.dropWhile_eq_nil_iff]
    intro c member
    exact decide_eq_true fun same => absent (same ▸ member)
  rw [splitOnce, List.span_eq_takeWhile_dropWhile, whole] at split
  cases split

/-- What follows the last dot of a file name, if something precedes that dot. -/
def extension (name : String) : Option String :=
  match name.toList.reverse.span (· ≠ '.') with
  | (after, _ :: _ :: _) => some (String.ofList after.reverse)
  | _ => none

/-- Without a character at both ends. -/
def trimMatches (c : Char) (text : String) : String :=
  String.ofList ((text.toList.dropWhile (· == c)).rdropWhile (· == c))

theorem trimMatches_of_not_mem {c : Char} {text : String} (absent : c ∉ text.toList) :
    trimMatches c text = text := by
  have other : ∀ a ∈ text.toList, ¬ (a == c) = true := by
    intro a member same
    rw [beq_iff_eq.mp same] at member
    exact absent member
  have front : text.toList.dropWhile (· == c) = text.toList := by
    refine List.dropWhile_eq_self_iff.mpr fun nonempty => ?_
    exact other _ (List.getElem_mem nonempty)
  have back : text.toList.rdropWhile (· == c) = text.toList := by
    refine List.rdropWhile_eq_self_iff.mpr fun nonempty => ?_
    exact other _ (List.getLast_mem nonempty)
  rw [trimMatches, front, back, String.ofList_toList]

/-- Where the character starts a text once and does not end it, that one is trimmed. -/
theorem toList_trimMatches_cons {c : Char} {text : String} {inner : List Char}
    (starts : text.toList = c :: inner) (front : inner.head? ≠ some c)
    (back : inner.getLast? ≠ some c) : (trimMatches c text).toList = inner := by
  have dropped : (c :: inner).dropWhile (· == c) = inner := by
    rw [List.dropWhile_cons, if_pos (beq_self_eq_true c)]
    refine List.dropWhile_eq_self_iff.mpr fun nonempty same => front ?_
    rw [List.head?_eq_getElem?, List.getElem?_eq_getElem nonempty, beq_iff_eq.mp same]
  have kept : inner.rdropWhile (· == c) = inner := by
    refine List.rdropWhile_eq_self_iff.mpr fun nonempty same => back ?_
    rw [List.getLast?_eq_some_getLast nonempty, beq_iff_eq.mp same]
  rw [trimMatches, String.toList_ofList, starts, dropped, kept]

universe u
variable {α : Type u}

/-- What a list starts with stops before an element it does not contain. -/
theorem prefix_append_cons_iff {needle front back : List α} {a : α} (absent : a ∉ needle) :
    needle <+: front ++ a :: back ↔ needle <+: front := by
  refine ⟨?_, fun h => h.trans (List.prefix_append _ _)⟩
  intro h
  cases List.prefix_or_prefix_of_prefix h (List.prefix_append front (a :: back)) with
  | inl inside => exact inside
  | inr across =>
      obtain ⟨rest, rfl⟩ := across
      cases rest with
      | nil => simp
      | cons b rest =>
          obtain ⟨tail, rfl⟩ := (List.cons_prefix_cons.mp
            ((List.prefix_append_right_inj front).mp h)).1
          simp at absent

theorem infix_append_cons_iff {needle front back : List α} {a : α} (absent : a ∉ needle) :
    needle <:+: front ++ a :: back ↔ needle <:+: front ∨ needle <:+: back := by
  induction front with
  | nil =>
      have start : needle <+: a :: back ↔ needle <:+: [] := by
        rw [List.infix_nil, ← List.prefix_nil, ← List.nil_append (a :: back)]
        exact prefix_append_cons_iff absent
      rw [List.nil_append, List.infix_cons_iff, start]
  | cons b front ih =>
      rw [List.cons_append, List.infix_cons_iff, ih, ← List.cons_append,
        prefix_append_cons_iff absent, List.infix_cons_iff, or_assoc]

theorem infix_intercalate_iff {needle : List α} {a : α} (absent : a ∉ needle)
    (some : needle ≠ []) (parts : List (List α)) :
    needle <:+: [a].intercalate parts ↔ ∃ part ∈ parts, needle <:+: part := by
  induction parts with
  | nil => simp [some]
  | cons part parts ih =>
      cases parts with
      | nil => simp
      | cons next parts =>
          rw [List.intercalate_cons_cons, List.append_assoc, List.singleton_append,
            infix_append_cons_iff absent, ih]
          simp only [List.mem_cons, exists_eq_or_imp]

/-- The first occurrence of a separator divides a list in one way. -/
theorem append_cons_inj {front front' back back' : List α} {a : α} (absent : a ∉ front)
    (absent' : a ∉ front') :
    front ++ a :: back = front' ++ a :: back' ↔ front = front' ∧ back = back' := by
  refine ⟨?_, fun ⟨same, rest⟩ => by rw [same, rest]⟩
  intro h
  have bounded : front <+: front' :=
    (prefix_append_cons_iff absent).mp (h ▸ List.prefix_append front (a :: back))
  have bounded' : front' <+: front :=
    (prefix_append_cons_iff absent').mp (h ▸ List.prefix_append front' (a :: back'))
  obtain rfl := bounded.eq_of_length_le bounded'.length_le
  exact ⟨rfl, (List.cons.inj (List.append_cancel_left h)).2⟩

theorem contains_parts (front needle back : String) :
    (front ++ needle ++ back).contains needle = true := by
  rw [String.contains_string_iff, String.toList_append, String.toList_append]
  exact ⟨front.toList, back.toList, rfl⟩

/-- A search in a joined text, for a text that does not contain the separator. -/
theorem contains_intercalate_iff {separator needle : String} {c : Char}
    (single : separator.toList = [c]) (absent : c ∉ needle.toList) (some : needle.toList ≠ [])
    (parts : List String) :
    (separator.intercalate parts).contains needle = true ↔
      ∃ part ∈ parts, part.contains needle = true := by
  simp only [String.contains_string_iff, String.toList_intercalate, single,
    infix_intercalate_iff absent some, List.mem_map, exists_exists_and_eq_and]

end Text
