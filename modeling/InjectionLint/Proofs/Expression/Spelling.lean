import InjectionLint.Expression.Literal
import Mathlib.Data.Nat.Digits.Defs
import Mathlib.Tactic.IntervalCases

/-!
The ways to write a string as a literal. A character stands for itself or is spelled as an escape
sequence, and a line of the source may be continued anywhere. The value of a literal is what is written,
whichever of these ways is taken for each character.

Main statement: the value of a literal is the string that its fragments spell
(`literal_value_of_spelling`).
-/

set_option autoImplicit false

namespace InjectionLint

namespace Literal

/-! ### Spellings -/

def IsHexDigit (c : Char) (digit : Nat) : Prop :=
  digit < 16 ∧ (c = Nat.digitChar digit ∨ c = (Nat.digitChar digit).toUpper)

/-- Digits of base sixteen, the most significant first, denote a number. Zeros may lead. -/
def Denotes (text : List Char) (number : Nat) : Prop :=
  ∃ digits, List.Forall₂ IsHexDigit text digits ∧ Nat.ofDigits 16 digits.reverse = number

def letterEscapes : List (Char × Char) :=
  [('n', Char.ofNat 0xA), ('t', Char.ofNat 0x9), ('r', Char.ofNat 0xD), ('b', Char.ofNat 0x8),
    ('f', Char.ofNat 0xC), ('v', Char.ofNat 0xB), ('0', Char.ofNat 0x0)]

def lineTerminators : List Char :=
  [Char.ofNat 0xA, Char.ofNat 0xD, Char.ofNat 0x2028, Char.ofNat 0x2029]

inductive Escapes : List Char → Char → Prop where
  | twoDigits {text : List Char} {c : Char} (two : text.length = 2) (denotes : Denotes text c.toNat) :
      Escapes ('\\' :: 'x' :: text) c
  | fourDigits {text : List Char} {c : Char} (four : text.length = 4)
      (denotes : Denotes text c.toNat) : Escapes ('\\' :: 'u' :: text) c
  | braced {text : List Char} {c : Char} (filled : text ≠ []) (denotes : Denotes text c.toNat) :
      Escapes ('\\' :: 'u' :: '{' :: (text ++ ['}'])) c
  | letter {marker c : Char} (listed : (marker, c) ∈ letterEscapes) : Escapes ['\\', marker] c
  | itself {c : Char} (noMarker : c ∉ ['n', 't', 'r', 'b', 'f', 'v', 'x', 'u'])
      (noDigit : c.isDigit = false) (noTerminator : c ∉ lineTerminators) : Escapes ['\\', c] c

/-- An escape sequence continues the line. A carriage return takes a line feed with it. -/
inductive Continues : List Char → Prop where
  | terminator {c : Char} (ends : c ∈ lineTerminators) : Continues ['\\', c]
  | carriageReturn : Continues ['\\', Char.ofNat 0xD, Char.ofNat 0xA]

def fragments (source : String) (literal : Tree) : List (Kind × List Char) :=
  literal.namedChildren.map fun fragment => (fragment.kind, (fragment.text source).toList)

inductive Spells : List (Kind × List Char) → List Char → Prop where
  | done : Spells [] []
  | raw {kind : Kind} {written text : List Char} {rest : List (Kind × List Char)}
      (plain : kind ≠ .escapeSequence) (spells : Spells rest text) :
      Spells ((kind, written) :: rest) (written ++ text)
  | escape {written text : List Char} {c : Char} {rest : List (Kind × List Char)}
      (escapes : Escapes written c) (spells : Spells rest text) :
      Spells ((.escapeSequence, written) :: rest) (c :: text)
  | continuation {written text : List Char} {rest : List (Kind × List Char)}
      (continues : Continues written) (spells : Spells rest text) :
      Spells ((.escapeSequence, written) :: rest) text

/-! ### Digits -/

private theorem hexDigit?_of_isHexDigit {c : Char} {digit : Nat} (isDigit : IsHexDigit c digit) :
    hexDigit? c = some digit := by
  obtain ⟨small, rfl | rfl⟩ := isDigit
  · interval_cases digit <;> rfl
  · interval_cases digit <;> rfl

private theorem hexFrom?_of_digits {text : List Char} {digits : List Nat}
    (each : List.Forall₂ IsHexDigit text digits) (value : Nat) :
    hexFrom? value text = some (value * 16 ^ digits.length + Nat.ofDigits 16 digits.reverse) := by
  induction each generalizing value with
  | nil => simp [hexFrom?]
  | cons isDigit others ih =>
      rename_i c digit text digits
      rw [hexFrom?, hexDigit?_of_isHexDigit isDigit, Option.bind_some, ih, List.reverse_cons,
        Nat.ofDigits_append, Nat.ofDigits_singleton, List.length_cons, List.length_reverse, pow_succ]
      congr 1
      ring

private theorem hexDigit?_of_mem_digits {text : List Char} {digits : List Nat}
    (each : List.Forall₂ IsHexDigit text digits) {c : Char} (member : c ∈ text) :
    ∃ digit, hexDigit? c = some digit := by
  induction each with
  | nil => cases member
  | cons isDigit others ih =>
      rcases List.mem_cons.mp member with rfl | later
      · exact ⟨_, hexDigit?_of_isHexDigit isDigit⟩
      · exact ih later

theorem ne_of_mem_denotes {text : List Char} {number : Nat} (denotes : Denotes text number)
    {c other : Char} (member : c ∈ text) (noDigit : hexDigit? other = none) : c ≠ other := by
  obtain ⟨digits, each, _⟩ := denotes
  obtain ⟨digit, isDigit⟩ := hexDigit?_of_mem_digits each member
  rintro rfl
  rw [noDigit] at isDigit
  cases isDigit

theorem hexNumber?_of_denotes {text : List Char} {number : Nat} (filled : text ≠ [])
    (denotes : Denotes text number) : hexNumber? text = some number := by
  have read : hexFrom? 0 text = some number := by
    obtain ⟨digits, each, rfl⟩ := denotes
    rw [hexFrom?_of_digits each, Nat.zero_mul, Nat.zero_add]
  cases text with
  | nil => contradiction
  | cons c rest =>
      -- A digit is no plus sign, so that all of the text is read as digits.
      have noSign : c ≠ '+' := ne_of_mem_denotes denotes List.mem_cons_self rfl
      rw [hexNumber?]
      · exact read
      · exact filled
      · intro isSign
        exact noSign (List.cons.inj isSign).1
      · intro digits isSign
        exact noSign (List.cons.inj isSign).1

private theorem charOfPoint?_toNat (c : Char) : charOfPoint? c.toNat = some c := by
  have isValid : c.toNat.isValidChar := c.valid
  rw [charOfPoint?, if_pos isValid, Char.ofNat_toNat]

/-! ### Braces -/

theorem dropWhile_of_absent {mark : Char} {text : List Char} (absent : ∀ c ∈ text, c ≠ mark) :
    text.dropWhile (· = mark) = text := by
  cases text with
  | nil => rfl
  | cons c rest =>
      apply List.dropWhile_cons_of_neg
      simpa only [decide_eq_true_eq] using absent c List.mem_cons_self

section Braces

variable {text : List Char} {number : Nat}

private theorem dropWhile_closing_of_denotes (denotes : Denotes text number) :
    text.reverse.dropWhile (· = '}') = text.reverse := by
  apply dropWhile_of_absent
  intro c member
  exact ne_of_mem_denotes denotes (List.mem_reverse.mp member) rfl

theorem unbraced_of_denotes (denotes : Denotes text number) : unbraced text = text := by
  have opening : text.dropWhile (· = '{') = text := by
    apply dropWhile_of_absent
    intro c member
    exact ne_of_mem_denotes denotes member rfl
  rw [unbraced, opening, dropWhile_closing_of_denotes denotes, List.reverse_reverse]

private theorem unbraced_braced (filled : text ≠ []) (denotes : Denotes text number) :
    unbraced ('{' :: (text ++ ['}'])) = text := by
  have opening : ('{' :: (text ++ ['}'])).dropWhile (· = '{') = text ++ ['}'] := by
    obtain ⟨c, rest, rfl⟩ := List.exists_cons_of_ne_nil filled
    have first : c ≠ '{' := ne_of_mem_denotes denotes List.mem_cons_self rfl
    simp [first]
  have closing : ('}' :: text.reverse).dropWhile (· = '}') = text.reverse := by
    rw [List.dropWhile_cons_of_pos (by simp), dropWhile_closing_of_denotes denotes]
  rw [unbraced, opening, List.reverse_append, List.reverse_singleton, List.singleton_append,
    closing, List.reverse_reverse]

end Braces

/-! ### Escape sequences -/

theorem unescapeMarked_of_denotes {marker c : Char} {rest text : List Char}
    (isMarker : marker = 'x' ∨ marker = 'u') (inside : unbraced rest = text) (filled : text ≠ [])
    (denotes : Denotes text c.toNat) : unescapeMarked marker rest = [c] := by
  have decoded : (hexNumber? (unbraced rest)).bind charOfPoint? = some c := by
    rw [inside, hexNumber?_of_denotes filled denotes, Option.bind_some, charOfPoint?_toNat]
  rcases isMarker with rfl | rfl
  · simp only [unescapeMarked, decoded]
  · simp only [unescapeMarked, decoded]

private theorem isLineTerminator_iff (c : Char) :
    isLineTerminator c = true ↔ c ∈ lineTerminators := by
  have lineSeparator : c.toNat = 0x2028 ↔ c = Char.ofNat 0x2028 :=
    @Char.toNat_inj c (Char.ofNat 0x2028)
  have paragraphSeparator : c.toNat = 0x2029 ↔ c = Char.ofNat 0x2029 :=
    @Char.toNat_inj c (Char.ofNat 0x2029)
  simp [isLineTerminator, lineTerminators, lineSeparator, paragraphSeparator, or_assoc]

private theorem unescapeMarked_of_other {c : Char}
    (noMarker : c ∉ ['n', 't', 'r', 'b', 'f', 'v', 'x', 'u'])
    (noDigit : c.isDigit = false) (noTerminator : c ∉ lineTerminators) :
    unescapeMarked c [] = [c] := by
  have notZero : c ≠ '0' := by
    rintro rfl
    cases noDigit
  have goesOn : isLineTerminator c = false := by
    rwa [← Bool.not_eq_true, isLineTerminator_iff]
  simp only [List.mem_cons, List.not_mem_nil, or_false, not_or] at noMarker
  unfold unescapeMarked
  split
  -- Every marker with a meaning is left out, so that only the last case can be.
  case h_9 => simp [notZero, goesOn]
  all_goals simp at noMarker

theorem unescape_of_escapes {text : List Char} {c : Char} (escapes : Escapes text c) :
    unescape text = [c] := by
  cases escapes with
  | twoDigits two denotes =>
      have filled := List.ne_nil_of_length_pos (Nat.lt_of_lt_of_eq (by decide) two.symm)
      exact unescapeMarked_of_denotes (.inl rfl) (unbraced_of_denotes denotes) filled denotes
  | fourDigits four denotes =>
      have filled := List.ne_nil_of_length_pos (Nat.lt_of_lt_of_eq (by decide) four.symm)
      exact unescapeMarked_of_denotes (.inr rfl) (unbraced_of_denotes denotes) filled denotes
  | braced filled denotes =>
      exact unescapeMarked_of_denotes (.inr rfl) (unbraced_braced filled denotes) filled denotes
  | letter listed =>
      simp only [letterEscapes, List.mem_cons, Prod.mk.injEq, List.not_mem_nil, or_false] at listed
      rcases listed with ⟨rfl, rfl⟩ | ⟨rfl, rfl⟩ | ⟨rfl, rfl⟩ | ⟨rfl, rfl⟩ | ⟨rfl, rfl⟩ | ⟨rfl, rfl⟩ |
        ⟨rfl, rfl⟩ <;> rfl
  | itself noMarker noDigit noTerminator =>
      exact unescapeMarked_of_other noMarker noDigit noTerminator

private theorem unescape_of_continues {text : List Char} (continues : Continues text) :
    unescape text = [] := by
  cases continues with
  | terminator ends =>
      simp only [lineTerminators, List.mem_cons, List.not_mem_nil, or_false] at ends
      rcases ends with rfl | rfl | rfl | rfl <;> rfl
  | carriageReturn => rfl

def contribution (fragment : Kind × List Char) : List Char :=
  if fragment.1 = .escapeSequence then unescape fragment.2 else fragment.2

private theorem value_eq_contributions (source : String) (literal : Tree) :
    value source literal = String.ofList ((fragments source literal).flatMap contribution) := by
  rw [value, fragments, List.flatMap_map]
  rfl

private theorem contributions_of_spells {written : List (Kind × List Char)} {text : List Char}
    (spells : Spells written text) : written.flatMap contribution = text := by
  induction spells with
  | done => rfl
  | raw plain _ ih => rw [List.flatMap_cons, ih, contribution, if_neg plain]
  | escape escapes _ ih =>
      rw [List.flatMap_cons, ih, contribution, if_pos rfl, unescape_of_escapes escapes,
        List.singleton_append]
  | continuation continues _ ih =>
      rw [List.flatMap_cons, ih, contribution, if_pos rfl, unescape_of_continues continues,
        List.nil_append]

end Literal

/-- However a string is written as the fragments of a literal, it is the literal's value. -/
theorem literal_value_of_spelling {source : String} {literal : Tree} {value : String}
    (spells : Literal.Spells (Literal.fragments source literal) value.toList) :
    Literal.value source literal = value := by
  rw [Literal.value_eq_contributions, Literal.contributions_of_spells spells, String.ofList_toList]

def spelledSource : String :=
  "\"s\\x65\\u006C\\\r\n\\u\x7b000065\x7dct\\n\\%\""

def fragmentAt (kind : Kind) (start stop : Nat) : Tree :=
  .node ⟨kind, start, stop, none, true, none, false⟩ []

def spelledLiteral : Tree :=
  .node ⟨.stringLiteral, 0, 32, none, true, none, false⟩
    [fragmentAt (.other "string_fragment") 1 2, fragmentAt .escapeSequence 2 6,
      fragmentAt .escapeSequence 6 12, fragmentAt .escapeSequence 12 15,
      fragmentAt .escapeSequence 15 25, fragmentAt (.other "string_fragment") 25 27,
      fragmentAt .escapeSequence 27 29, fragmentAt .escapeSequence 29 31]

/-- Digits of both cases, zeros in front, a continued line, a letter, and a character by itself. -/
theorem spelled_keyword : Literal.value spelledSource spelledLiteral = "select\n%" := by
  have written : Literal.fragments spelledSource spelledLiteral =
      [(.other "string_fragment", ['s']), (.escapeSequence, ['\\', 'x', '6', '5']),
        (.escapeSequence, ['\\', 'u', '0', '0', '6', 'C']), (.escapeSequence, ['\\', '\r', '\n']),
        (.escapeSequence, ['\\', 'u', '{', '0', '0', '0', '0', '6', '5', '}']),
        (.other "string_fragment", ['c', 't']), (.escapeSequence, ['\\', 'n']),
        (.escapeSequence, ['\\', '%'])] := by
    decide +kernel
  have digit : ∀ number, number < 16 → Literal.IsHexDigit (Nat.digitChar number) number :=
    fun _ small => ⟨small, .inl rfl⟩
  have twice : Literal.Denotes ['6', '5'] 'e'.toNat := by
    refine ⟨[6, 5], ?_, rfl⟩
    exact .cons (digit 6 (by decide)) (.cons (digit 5 (by decide)) .nil)
  have upper : Literal.Denotes ['0', '0', '6', 'C'] 'l'.toNat := by
    refine ⟨[0, 0, 6, 12], ?_, rfl⟩
    exact .cons (digit 0 (by decide)) (.cons (digit 0 (by decide)) (.cons (digit 6 (by decide))
      (.cons ⟨by decide, .inr rfl⟩ .nil)))
  have leading : Literal.Denotes ['0', '0', '0', '0', '6', '5'] 'e'.toNat := by
    refine ⟨[0, 0, 0, 0, 6, 5], ?_, rfl⟩
    exact .cons (digit 0 (by decide)) (.cons (digit 0 (by decide)) (.cons (digit 0 (by decide))
      (.cons (digit 0 (by decide)) (.cons (digit 6 (by decide)) (.cons (digit 5 (by decide)) .nil)))))
  apply literal_value_of_spelling
  rw [written]
  have fragment : Kind.other "string_fragment" ≠ .escapeSequence := by
    decide
  have ending : Literal.Spells [(.escapeSequence, ['\\', 'n']), (.escapeSequence, ['\\', '%'])]
      ['\n', '%'] :=
    .escape (.letter (by decide)) (.escape (.itself (by decide) (by decide) (by decide)) .done)
  exact .raw fragment (.escape (.twoDigits rfl twice) (.escape (.fourDigits rfl upper)
    (.continuation .carriageReturn (.escape (.braced (by decide) leading) (.raw fragment ending)))))

end InjectionLint
