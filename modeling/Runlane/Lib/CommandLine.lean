import Runlane.Lib.Fallible

/-!
Command lines read from left to right.

A flag stands alone and an option takes the word behind it, whatever that word
is; each changes the values met so far. A line is accepted exactly when it can
be cut into flags and options whose values all decode. Where an option owns a
field of the values, the field holds what the last occurrence of the option says.
-/

namespace CommandLine

open Fallible

universe u
variable {ε σ α : Type u}

/-- One flag or option as it is given. -/
inductive Given where
  | lone (flag : String)
  | valued (option value : String)
deriving DecidableEq

namespace Given

def words : Given → List String
  | lone flag => [flag]
  | valued option value => [option, value]

/-- The value, where the option is the one that is asked for. -/
def valueOf (wanted : String) : Given → Option String
  | lone _ => none
  | valued option value => if option = wanted then some value else none

end Given

def words (given : List Given) : List String :=
  given.flatMap Given.words

@[simp] theorem words_lone (flag : String) (given : List Given) :
    words (.lone flag :: given) = flag :: words given := rfl

@[simp] theorem words_valued (option value : String) (given : List Given) :
    words (.valued option value :: given) = option :: value :: words given := rfl

/-- What the last occurrence of an option says. -/
def lastValue (option : String) (given : List Given) : Option String :=
  given.reverse.findSome? (Given.valueOf option)

theorem lastValue_cons (option : String) (first : Given) (given : List Given) :
    lastValue option (first :: given) =
      (lastValue option given).or (first.valueOf option) := by
  simp [lastValue, List.findSome?_append]

theorem words_append (front back : List Given) :
    words (front ++ back) = words front ++ words back :=
  List.flatMap_append

theorem mem_words {word : String} {given : List Given} :
    word ∈ words given ↔ ∃ one ∈ given, word ∈ one.words :=
  List.mem_flatMap

theorem words_eq_nil {given : List Given} : words given = [] ↔ given = [] := by
  cases given with
  | nil => simp [words]
  | cons one given => cases one <;> simp

theorem lastValue_lone (option flag : String) (given : List Given) :
    lastValue option (given ++ [.lone flag]) = lastValue option given := by
  rw [lastValue, List.reverse_append]
  rfl

theorem valued_mem_of_lastValue {option value : String} {given : List Given}
    (last : lastValue option given = some value) : .valued option value ∈ given := by
  obtain ⟨one, member, found⟩ := List.exists_of_findSome?_eq_some last
  cases one with
  | lone flag => cases found
  | valued option' value' =>
      simp only [Given.valueOf, Option.ite_none_right_eq_some, Option.some.injEq] at found
      obtain ⟨rfl, rfl⟩ := found
      exact List.mem_reverse.mp member

/-- Of an option that is given one value only, this is the last. -/
theorem lastValue_of_unique {option value : String} {given : List Given}
    (member : .valued option value ∈ given)
    (unique : ∀ value', .valued option value' ∈ given → value' = value) :
    lastValue option given = some value := by
  cases last : lastValue option given with
  | none =>
      have absent := List.findSome?_eq_none_iff.mp last _ (List.mem_reverse.mpr member)
      simp [Given.valueOf] at absent
  | some value' => rw [unique value' (valued_mem_of_lastValue last)]

/-- The flags and options that a program knows, and what it says of the others. -/
structure Syntax (ε σ : Type u) where
  lone : String → Option (σ → σ)
  valued : String → Option (String → Except ε (σ → σ))
  unsupported : String → ε
  missing : String → ε

variable (syn : Syntax ε σ)

def Syntax.scan (values : σ) : List String → Except ε σ
  | [] => .ok values
  | word :: rest =>
      match syn.lone word with
      | some set => scan (set values) rest
      | none =>
          match syn.valued word, rest with
          | none, _ => .error (syn.unsupported word)
          | some _, [] => .error (syn.missing word)
          | some decode, value :: rest => do
              let set ← decode value
              scan (set values) rest

/-- The flags and options of a line are known and decode; together they change the
values as given. -/
inductive Syntax.Reads : List Given → (σ → σ) → Prop
  | nil : Reads [] id
  | lone {flag : String} {set rest : σ → σ} {given : List Given}
      (known : syn.lone flag = some set) (reads : Reads given rest) :
      Reads (.lone flag :: given) (rest ∘ set)
  | valued {option value : String} {decode : String → Except ε (σ → σ)} {set rest : σ → σ}
      {given : List Given} (unknown : syn.lone option = none)
      (known : syn.valued option = some decode) (decoded : decode value = .ok set)
      (reads : Reads given rest) : Reads (.valued option value :: given) (rest ∘ set)

namespace Syntax

variable {syn}

theorem scan_lone {flag : String} {set : σ → σ} (known : syn.lone flag = some set) (values : σ)
    (rest : List String) : syn.scan values (flag :: rest) = syn.scan (set values) rest := by
  conv => lhs; unfold Syntax.scan
  simp only [known]

theorem scan_valued {option : String} {decode : String → Except ε (σ → σ)}
    (unknown : syn.lone option = none) (known : syn.valued option = some decode) (values : σ)
    (value : String) (rest : List String) :
    syn.scan values (option :: value :: rest) =
      decode value >>= fun set => syn.scan (set values) rest := by
  conv => lhs; unfold Syntax.scan
  simp only [unknown, known]

theorem scan_unsupported {word : String} (unknown : syn.lone word = none)
    (unknown' : syn.valued word = none) (values : σ) (rest : List String) :
    syn.scan values (word :: rest) = .error (syn.unsupported word) := by
  conv => lhs; unfold Syntax.scan
  simp only [unknown, unknown']

theorem scan_missing {option : String} {decode : String → Except ε (σ → σ)}
    (unknown : syn.lone option = none) (known : syn.valued option = some decode) (values : σ) :
    syn.scan values [option] = .error (syn.missing option) := by
  conv => lhs; unfold Syntax.scan
  simp only [unknown, known]

/-- What stands in front is read before the rest. -/
theorem Reads.scan_append {given : List Given} {change : σ → σ} (reads : syn.Reads given change)
    (values : σ) (rest : List String) :
    syn.scan values (words given ++ rest) = syn.scan (change values) rest := by
  induction reads generalizing values with
  | nil => rfl
  | lone known _ ih =>
      rw [words_lone, List.cons_append, scan_lone known]
      exact ih _
  | valued unknown known decoded _ ih =>
      rw [words_valued, List.cons_append, List.cons_append, scan_valued unknown known, decoded]
      exact ih _

/-- A line is accepted when it can be cut into flags and options that decode. -/
theorem scan_eq_ok {values values' : σ} {line : List String} :
    syn.scan values line = .ok values' ↔
      ∃ given change, line = words given ∧ syn.Reads given change ∧ change values = values' := by
  constructor
  · intro accepted
    fun_induction Syntax.scan syn values line with
    | case1 values =>
        cases accepted
        exact ⟨[], id, rfl, .nil, rfl⟩
    | case2 values word rest set known ih =>
        obtain ⟨given, change, rfl, reads, rfl⟩ := ih accepted
        exact ⟨.lone word :: given, change ∘ set, rfl, .lone known reads, rfl⟩
    | case3 values word rest unknown other => cases accepted
    | case4 values word unknown decode known => cases accepted
    | case5 values word unknown decode value rest known ih =>
        obtain ⟨set, decoded, accepted⟩ := bind_eq_ok.mp accepted
        obtain ⟨given, change, rfl, reads, rfl⟩ := ih set accepted
        exact ⟨.valued word value :: given, change ∘ set, rfl,
          .valued unknown known decoded reads, rfl⟩
  · intro read
    obtain ⟨given, change, rfl, reads, rfl⟩ := read
    rw [← List.append_nil (words given), reads.scan_append]
    rfl

/-- A flag that is known, or an option that is known and whose value decodes. -/
def Accepts (syn : Syntax ε σ) : Given → Prop
  | .lone flag => ∃ set, syn.lone flag = some set
  | .valued option value => syn.lone option = none ∧
      ∃ decode set, syn.valued option = some decode ∧ decode value = .ok set

theorem exists_reads {given : List Given} :
    (∃ change, syn.Reads given change) ↔ ∀ one ∈ given, syn.Accepts one := by
  constructor
  · intro read
    obtain ⟨change, reads⟩ := read
    induction reads with
    | nil => exact nofun
    | lone known _ ih => exact List.forall_mem_cons.mpr ⟨⟨_, known⟩, ih⟩
    | valued unknown known decoded _ ih =>
        exact List.forall_mem_cons.mpr ⟨⟨unknown, _, _, known, decoded⟩, ih⟩
  · intro accepted
    induction given with
    | nil => exact ⟨id, .nil⟩
    | cons one given ih =>
        obtain ⟨first, others⟩ := List.forall_mem_cons.mp accepted
        obtain ⟨change, reads⟩ := ih others
        cases one with
        | lone flag =>
            obtain ⟨set, known⟩ := first
            exact ⟨change ∘ set, .lone known reads⟩
        | valued option value =>
            obtain ⟨unknown, decode, set, known, decoded⟩ := first
            exact ⟨change ∘ set, .valued unknown known decoded reads⟩

/-- An option that owns a field: it alone changes it, to what its value decodes to. -/
structure Owns (syn : Syntax ε σ) (option : String) (field : σ → Option α)
    (decode : String → Option α) : Prop where
  lone : ∀ flag set, syn.lone flag = some set → ∀ values, field (set values) = field values
  own : ∀ read value set, syn.valued option = some read → read value = .ok set →
    ∃ a, decode value = some a ∧ ∀ values, field (set values) = some a
  other : ∀ option' read value set, option' ≠ option → syn.valued option' = some read →
    read value = .ok set → ∀ values, field (set values) = field values

theorem Owns.decodes {option : String} {field : σ → Option α} {decode : String → Option α}
    (owns : syn.Owns option field decode) {given : List Given}
    (accepted : ∀ one ∈ given, syn.Accepts one) {value : String}
    (member : .valued option value ∈ given) : ∃ a, decode value = some a := by
  obtain ⟨-, read, set, known, decoded⟩ := accepted _ member
  obtain ⟨a, meaning, -⟩ := owns.own read value set known decoded
  exact ⟨a, meaning⟩

/-- A field holds what the last occurrence of its option says. -/
theorem Reads.field_eq {option : String} {field : σ → Option α} {decode : String → Option α}
    (owns : syn.Owns option field decode) {given : List Given} {change : σ → σ}
    (reads : syn.Reads given change) (values : σ) :
    field (change values) = ((lastValue option given).bind decode).or (field values) := by
  induction reads generalizing values with
  | nil => simp [lastValue]
  | @lone flag set rest given known _ ih =>
      rw [lastValue_cons, Given.valueOf, Option.or_none]
      change field (rest (set values)) = _
      rw [ih, owns.lone flag set known]
  | @valued option' value read set rest given unknown known decoded reads ih =>
      change field (rest (set values)) = _
      rw [ih, lastValue_cons, Given.valueOf]
      by_cases same : option' = option
      · subst same
        obtain ⟨a, meaning, updated⟩ := owns.own read value set known decoded
        rw [updated, if_pos rfl]
        cases last : lastValue option' given with
        | none => simp [meaning]
        | some later =>
            obtain ⟨b, latest⟩ :=
              owns.decodes (exists_reads.mp ⟨rest, reads⟩) (valued_mem_of_lastValue last)
            simp [latest]
      · rw [owns.other option' read value set same known decoded, if_neg same, Option.or_none]

/-- A flag that owns a field: it alone sets it. -/
structure OwnsFlag (syn : Syntax ε σ) (flag : String) (field : σ → Bool) : Prop where
  own : ∀ set, syn.lone flag = some set → ∀ values, field (set values) = true
  lone : ∀ flag' set, flag' ≠ flag → syn.lone flag' = some set →
    ∀ values, field (set values) = field values
  valued : ∀ option read value set, syn.valued option = some read → read value = .ok set →
    ∀ values, field (set values) = field values

/-- A field that a flag owns is set when the flag is given. -/
theorem Reads.flag_eq {flag : String} {field : σ → Bool} (owns : syn.OwnsFlag flag field)
    {given : List Given} {change : σ → σ} (reads : syn.Reads given change) (values : σ) :
    field (change values) = true ↔ .lone flag ∈ given ∨ field values = true := by
  induction reads generalizing values with
  | nil => simp
  | @lone flag' set rest given known _ ih =>
      change field (rest (set values)) = true ↔ _
      rw [ih]
      by_cases same : flag' = flag
      · subst same
        simp [owns.own set known]
      · have other : flag ≠ flag' := fun h => same h.symm
        simp [owns.lone flag' set same known, other]
  | @valued option value read set rest given unknown known decoded _ ih =>
      change field (rest (set values)) = true ↔ _
      rw [ih, owns.valued option read value set known decoded]
      simp

end Syntax

end CommandLine
