import Manifest.Proofs.Spelling

/-!
# Spellings of floats

The decimal numerals as structures that carry what makes them well-formed: digits with at most one
point among or around them, at least one digit in all, and perhaps an exponent. Each part of a
numeral is read as what it spells, and only texts of that form are read.

Floats are spelled by a sign and a numeral with a point or an exponent. There is one exception.
After a plus sign the rest of a text is read as a numeral that may bring a sign of its own; that
numeral is a float even if it has neither point nor exponent.

* `Numeral.unsigned?_eq_some_iff` — reading a numeral follows its grammar, in both directions.
* `Number.SpellsFloat`, `Number.SpellsSignedTwice` — the rule and the exception.
* `Number.parse?_float` — a text is read as a float exactly if one of them applies.
-/

namespace Manifest

namespace Numeral

open Number (Sign NoSign)

/-! ## Numerals -/

/-- The exponent of a numeral: its letter, a sign or none, and digits. -/
structure ExponentSpelling where
  letter : Char
  sign : Sign
  digits : List Char
  isLetter : letter = 'e' ∨ letter = 'E'
  isDigit : ∀ c ∈ digits, c.isDigit = true
  nonempty : digits ≠ []

/-- A numeral without a sign: digits, digits after a point, and an exponent. There may be no point,
no exponent and no digits on one side of the point. -/
structure Spelling where
  whole : List Char
  fraction : Option (List Char)
  exponent : Option ExponentSpelling
  isDigit : ∀ c ∈ whole ++ fraction.getD [], c.isDigit = true
  nonempty : whole ++ fraction.getD [] ≠ []

/-- The characters of an exponent. -/
def ExponentSpelling.chars (e : ExponentSpelling) : List Char :=
  e.letter :: (e.sign.chars ++ e.digits)

/-- The power of ten that an exponent stands for. -/
def ExponentSpelling.value (e : ExponentSpelling) : Int :=
  e.sign.apply (Nat.ofDigitChars 10 e.digits 0)

/-- Digits after a point, with the point, if there is one. -/
def pointed : Option (List Char) → List Char
  | none => []
  | some digits => '.' :: digits

namespace Spelling

/-- The characters after the mantissa. -/
def tail (p : Spelling) : List Char :=
  p.exponent.elim [] ExponentSpelling.chars

/-- The characters of a numeral. -/
def chars (p : Spelling) : List Char :=
  p.whole ++ pointed p.fraction ++ p.tail

/-- The decimal that a numeral stands for: its digits without the point, which says how many of
them are of the fraction. -/
def value (p : Spelling) : Decimal where
  coefficient := Nat.ofDigitChars 10 (p.whole ++ p.fraction.getD []) 0
  exponent := p.exponent.elim 0 ExponentSpelling.value - (p.fraction.getD []).length

/-- The numeral has a point or an exponent. -/
def IsFloat (p : Spelling) : Prop :=
  p.fraction.isSome ∨ p.exponent.isSome

end Spelling

/-! ## Digits up to something else -/

/-- A text does not start with a digit. -/
def EndsDigits (rest : List Char) : Prop :=
  ∀ c ∈ rest.head?, c.isDigit = false

section

variable {digits rest : List Char} (hall : ∀ c ∈ digits, c.isDigit = true) (h : EndsDigits rest)
include hall h

theorem takeWhile_digits : (digits ++ rest).takeWhile Char.isDigit = digits := by
  rw [List.takeWhile_append_of_pos hall]
  cases rest with
  | nil => simp
  | cons c rest => simp [h c rfl]

theorem dropWhile_digits : (digits ++ rest).dropWhile Char.isDigit = rest := by
  rw [List.dropWhile_append_of_pos hall]
  cases rest with
  | nil => simp
  | cons c rest => simp [h c rfl]

end

/-! ## The parts of a numeral -/

theorem ExponentSpelling.endsDigits (e : ExponentSpelling) : EndsDigits e.chars := by
  rintro c ⟨⟩
  obtain h | h := e.isLetter <;> rw [h] <;> rfl

theorem endsDigits_tail (p : Spelling) : EndsDigits p.tail := by
  obtain ⟨whole, fraction, _ | e, isDigit, nonempty⟩ := p
  · exact fun c hc => by cases hc
  · exact e.endsDigits

theorem Spelling.tail_ne_point (p : Spelling) (rest : List Char) : p.tail ≠ '.' :: rest := by
  obtain ⟨whole, fraction, _ | e, isDigit, nonempty⟩ := p
  · exact nofun
  · intro heq
    obtain h | h := e.isLetter <;> cases h.symm.trans (List.cons.inj heq).1

/-- A numeral is cut where its parts end. -/
theorem mantissa_chars (p : Spelling) :
    mantissa p.chars = (p.whole, p.fraction.getD [], p.tail) := by
  obtain ⟨hwhole, hfraction⟩ := List.forall_mem_append.1 p.isDigit
  have htail := endsDigits_tail p
  have hpoint := p.tail_ne_point
  rw [Spelling.chars, List.append_assoc]
  cases hp : p.fraction with
  | none =>
    rw [pointed, List.nil_append, mantissa, takeWhile_digits hwhole htail,
      dropWhile_digits hwhole htail]
    split
    · next rest heq => exact absurd heq (hpoint rest)
    · rfl
  | some digits =>
    have hend : EndsDigits (pointed (some digits) ++ p.tail) := by
      rintro c ⟨⟩
      rfl
    rw [hp, Option.getD_some] at hfraction
    rw [mantissa, takeWhile_digits hwhole hend, dropWhile_digits hwhole hend]
    simp only [pointed, List.cons_append, takeWhile_digits hfraction htail,
      dropWhile_digits hfraction htail, Option.getD_some]

/-- Every text is digits, perhaps a point and digits, and a rest. -/
theorem exists_mantissa (text : List Char) : ∃ whole fraction rest,
    text = whole ++ pointed fraction ++ rest ∧
      (∀ c ∈ whole ++ fraction.getD [], c.isDigit = true) ∧
      mantissa text = (whole, fraction.getD [], rest) := by
  have hdigits (text : List Char) : ∀ c ∈ text.takeWhile Char.isDigit, c.isDigit = true :=
    List.all_eq_true.1 List.all_takeWhile
  have htext := @List.takeWhile_append_dropWhile _ Char.isDigit text
  rw [mantissa]
  split
  · next rest heq =>
    refine ⟨_, some (rest.takeWhile Char.isDigit), rest.dropWhile Char.isDigit, ?_, ?_, rfl⟩
    · rw [List.append_assoc, pointed, List.cons_append, List.takeWhile_append_dropWhile, ← heq,
        htext]
    · exact List.forall_mem_append.2 ⟨hdigits _, hdigits _⟩
  · refine ⟨_, none, text.dropWhile Char.isDigit, ?_, ?_, rfl⟩
    · rw [pointed, List.append_nil, htext]
    · simpa using hdigits text

theorem exponent?_sign (sign : Sign) {digits : List Char} (h : sign = .none → NoSign digits) :
    exponent? (sign.chars ++ digits) =
      if digits.isEmpty || !digits.all Char.isDigit then none
      else some (sign.apply (wholeNumber digits)) := by
  cases sign with
  | plus => rfl
  | minus => rfl
  | none =>
    rw [Sign.chars, List.nil_append, exponent?]
    · rfl
    · exact (h rfl).ne_minus
    · exact (h rfl).ne_plus

/-- An exponent is read as what it spells. -/
theorem exponent?_chars (e : ExponentSpelling) :
    exponent? (e.sign.chars ++ e.digits) = some e.value := by
  obtain ⟨letter, sign, digits, isLetter, isDigit, nonempty⟩ := e
  have hsign : NoSign digits := by
    obtain ⟨c, rest, rfl⟩ := List.exists_cons_of_ne_nil nonempty
    exact .of_isDigit (isDigit c (by simp)) rest
  rw [exponent?_sign sign fun _ => hsign,
    if_neg (by simp [nonempty, List.all_eq_true.2 isDigit])]
  rfl

/-- Only exponents are read after their letter. -/
theorem exists_of_exponent?_eq_some {letter : Char} (isLetter : letter = 'e' ∨ letter = 'E')
    {text : List Char} {v : Int} (h : exponent? text = some v) :
    ∃ e : ExponentSpelling, e.chars = letter :: text ∧ e.value = v := by
  obtain ⟨sign, digits, rfl, hsign⟩ := Number.exists_sign text
  rw [exponent?_sign sign hsign] at h
  split at h
  · cases h
  · next hdigits =>
    obtain ⟨nonempty, hall⟩ : digits ≠ [] ∧ digits.all Char.isDigit = true := by
      simpa using hdigits
    cases h
    exact ⟨⟨letter, sign, digits, isLetter, List.all_eq_true.1 hall, nonempty⟩, rfl, rfl⟩

/-- A numeral is read as the decimal that it stands for, and only numerals are. -/
theorem unsigned?_eq_some_iff {text : List Char} {d : Decimal} :
    unsigned? text = some d ↔ ∃ p : Spelling, p.chars = text ∧ p.value = d := by
  constructor
  · intro h
    obtain ⟨whole, fraction, rest, rfl, isDigit, hmantissa⟩ := exists_mantissa text
    rw [unsigned?, hmantissa] at h
    simp only at h
    split at h
    · cases h
    · next hdigits =>
      have nonempty : whole ++ fraction.getD [] ≠ [] := by
        simpa [-List.append_eq_nil_iff, List.isEmpty_iff, ← List.append_eq_nil_iff] using hdigits
      split at h
      · cases h
        exact ⟨⟨whole, fraction, none, isDigit, nonempty⟩, rfl, rfl⟩
      · split at h
        · next isLetter =>
          obtain ⟨v, hv, rfl⟩ := Option.map_eq_some_iff.1 h
          obtain ⟨e, he, rfl⟩ := exists_of_exponent?_eq_some isLetter hv
          refine ⟨⟨whole, fraction, some e, isDigit, nonempty⟩, ?_, rfl⟩
          rw [← he]
          rfl
        · cases h
  · rintro ⟨p, rfl, rfl⟩
    obtain ⟨whole, fraction, exponent, isDigit, nonempty⟩ := p
    rw [unsigned?, mantissa_chars]
    simp only
    rw [if_neg (by simpa using nonempty)]
    cases exponent with
    | none => rfl
    | some e =>
      simp only [Spelling.tail, ExponentSpelling.chars, Option.elim_some, e.isLetter, if_true,
        exponent?_chars]
      rfl

theorem ofChars?_sign (sign : Sign) {body : List Char} (h : sign = .none → NoSign body) :
    ofChars? (sign.chars ++ body) = (unsigned? body).map (⟨sign.isMinus, ·⟩) := by
  cases sign with
  | plus => rfl
  | minus => rfl
  | none =>
    rw [Sign.chars, List.nil_append, ofChars?]
    · rfl
    · exact (h rfl).ne_minus
    · exact (h rfl).ne_plus

/-- After its sign a numeral is read as what it spells. -/
theorem ofChars?_eq_some_iff (sign : Sign) {body : List Char} (h : sign = .none → NoSign body)
    {numeral : Numeral} :
    ofChars? (sign.chars ++ body) = some numeral ↔
      ∃ p : Spelling, p.chars = body ∧ numeral = ⟨sign.isMinus, p.value⟩ := by
  rw [ofChars?_sign sign h, Option.map_eq_some_iff]
  constructor
  · rintro ⟨d, hd, rfl⟩
    obtain ⟨p, hp, rfl⟩ := unsigned?_eq_some_iff.1 hd
    exact ⟨p, hp, rfl⟩
  · rintro ⟨p, hp, rfl⟩
    exact ⟨p.value, unsigned?_eq_some_iff.2 ⟨p, hp, rfl⟩, rfl⟩

/-! ## The characters of numerals -/

theorem ExponentSpelling.mem_chars {e : ExponentSpelling} {c : Char} (hc : c ∈ e.chars) :
    (c = 'e' ∨ c = 'E') ∨ (c = '+' ∨ c = '-') ∨ c.isDigit = true := by
  rw [chars, List.mem_cons, List.mem_append] at hc
  obtain rfl | hc | hc := hc
  · exact .inl e.isLetter
  · exact .inr (.inl (Sign.mem_chars hc))
  · exact .inr (.inr (e.isDigit c hc))

namespace Spelling

theorem mem_chars {p : Spelling} {c : Char} (hc : c ∈ p.chars) :
    c.isDigit = true ∨ (c = '.' ∧ p.fraction.isSome) ∨ ∃ e ∈ p.exponent, c ∈ e.chars := by
  obtain ⟨hwhole, hfraction⟩ := List.forall_mem_append.1 p.isDigit
  rw [chars, List.mem_append, List.mem_append] at hc
  obtain (hc | hc) | hc := hc
  · exact .inl (hwhole c hc)
  · cases hp : p.fraction with
    | none =>
      rw [hp] at hc
      cases hc
    | some digits =>
      rw [hp] at hc hfraction
      obtain rfl | hc := List.mem_cons.1 hc
      · exact .inr (.inl ⟨rfl, rfl⟩)
      · exact .inl (hfraction c hc)
  · rw [tail] at hc
    cases he : p.exponent with
    | none =>
      rw [he] at hc
      cases hc
    | some e =>
      rw [he] at hc
      exact .inr (.inr ⟨e, rfl, hc⟩)

/-- The numerals of floats are those that are not digits only. -/
theorem isFloat_iff (p : Spelling) : p.IsFloat ↔ ∃ c ∈ p.chars, c.isDigit = false := by
  constructor
  · rintro (h | h)
    · obtain ⟨digits, hdigits⟩ := Option.isSome_iff_exists.1 h
      exact ⟨'.', by simp [chars, hdigits, pointed], rfl⟩
    · obtain ⟨e, he⟩ := Option.isSome_iff_exists.1 h
      refine ⟨e.letter, by simp [chars, tail, he, ExponentSpelling.chars], ?_⟩
      obtain hletter | hletter := e.isLetter <;> rw [hletter] <;> rfl
  · rintro ⟨c, hc, hdigit⟩
    obtain h | ⟨-, h⟩ | ⟨e, he, -⟩ := mem_chars hc
    · rw [h] at hdigit
      cases hdigit
    · exact .inl h
    · exact .inr (Option.isSome_iff_exists.2 ⟨e, he⟩)

theorem noSign (p : Spelling) : NoSign p.chars := by
  obtain ⟨_ | ⟨c, whole⟩, _ | digits, exponent, isDigit, nonempty⟩ := p
  · exact absurd rfl nonempty
  · rintro c ⟨⟩
    exact ⟨by decide, by decide⟩
  · exact .of_isDigit (isDigit c (by simp)) _
  · exact .of_isDigit (isDigit c (by simp)) _

theorem looksLikeFloat_chars (second : Sign) (p : Spelling) :
    Number.looksLikeFloat (second.chars ++ p.chars) = true := by
  rw [Number.looksLikeFloat, Bool.and_eq_true, List.any_eq_true, List.all_eq_true]
  constructor
  · obtain ⟨c, rest, hdigits⟩ := List.exists_cons_of_ne_nil p.nonempty
    have hc : c ∈ p.whole ++ p.fraction.getD [] := by simp [hdigits]
    refine ⟨c, ?_, p.isDigit c hc⟩
    obtain hc | hc := List.mem_append.1 hc
    · simp [chars, hc]
    · cases hp : p.fraction with
      | none => simp [hp] at hc
      | some digits =>
        rw [hp, Option.getD_some] at hc
        simp [chars, hp, pointed, hc]
  · intro c hc
    obtain hc | hc := List.mem_append.1 hc
    · obtain rfl | rfl := Sign.mem_chars hc <;> rfl
    · obtain h | ⟨rfl, -⟩ | ⟨e, -, hc⟩ := mem_chars hc
      · simp [h]
      · rfl
      · obtain (rfl | rfl) | (rfl | rfl) | h := ExponentSpelling.mem_chars hc
        all_goals first | rfl | simp [h]

end Spelling

end Numeral

/-! ## Reading floats -/

/-- The float that a numeral stands for, with a sign. -/
def Numeral.Spelling.float (p : Numeral.Spelling) (negative : Bool) : Binary64 :=
  Binary64.ofFloat (Numeral.toFloat ⟨negative, p.value⟩)

namespace Number

open Numeral (Spelling)

section Body

variable {negative : Bool} {body : List Char} {x : Binary64}

/-- Before a numeral there may be a sign, unless a minus sign has been taken off. -/
theorem numeral_eq_some_iff {numeral : Numeral} :
    Numeral.ofChars? (if negative then '-' :: body else body) = some numeral ↔
      ∃ (second : Sign) (p : Spelling), body = second.chars ++ p.chars ∧
        (negative = true → second = .none) ∧
          numeral = ⟨negative || second.isMinus, p.value⟩ := by
  cases negative with
  | true =>
    rw [if_pos rfl]
    refine (Numeral.ofChars?_eq_some_iff .minus nofun).trans ⟨?_, ?_⟩
    · rintro ⟨p, rfl, rfl⟩
      exact ⟨.none, p, rfl, fun _ => rfl, rfl⟩
    · rintro ⟨second, p, rfl, hsecond, rfl⟩
      obtain rfl := hsecond rfl
      exact ⟨p, rfl, rfl⟩
  | false =>
    rw [if_neg (by simp)]
    constructor
    · intro h
      obtain ⟨second, rest, rfl, hrest⟩ := exists_sign body
      obtain ⟨p, rfl, rfl⟩ := (Numeral.ofChars?_eq_some_iff second hrest).1 h
      exact ⟨second, p, rfl, nofun, by simp⟩
    · rintro ⟨second, p, rfl, -, rfl⟩
      exact (Numeral.ofChars?_eq_some_iff second fun _ => p.noSign).2 ⟨p, rfl, by simp⟩

/-- What is read as a float is a numeral, perhaps with a sign, and the float is finite. -/
theorem float?_eq_some_iff :
    float? negative body = some (.float x) ↔ x.isFinite = true ∧
      ∃ (second : Sign) (p : Spelling), body = second.chars ++ p.chars ∧
        (negative = true → second = .none) ∧ x = p.float (negative || second.isMinus) := by
  constructor
  · intro h
    rw [float?] at h
    split at h
    · split at h
      · next numeral hnumeral =>
        obtain ⟨second, p, hbody, hsecond, rfl⟩ := numeral_eq_some_iff.1 hnumeral
        dsimp only at h
        split at h
        · next hfinite =>
          cases h
          exact ⟨hfinite, second, p, hbody, hsecond, rfl⟩
        · cases h
      · cases h
    · cases h
  · rintro ⟨hfinite, second, p, rfl, hsecond, rfl⟩
    rw [float?, if_pos (p.looksLikeFloat_chars second),
      numeral_eq_some_iff.2 ⟨second, p, rfl, hsecond, rfl⟩]
    exact if_pos hfinite

theorem looksLikeFloat_of_float?_eq_some (h : float? negative body = some (.float x)) :
    looksLikeFloat body = true := by
  obtain ⟨-, second, p, rfl, -⟩ := float?_eq_some_iff.1 h
  exact p.looksLikeFloat_chars second

/-- A text is read as a float only if it is not digits only. -/
theorem ofUnsigned?_eq_float_iff :
    ofUnsigned? negative body = some (.float x) ↔
      float? negative body = some (.float x) ∧ ∃ c ∈ body, c.isDigit = false := by
  have hreading := reading negative body
  generalize ofUnsigned? negative body = result at hreading
  cases hreading with
  | nothing => simp
  | @hex letter isX digits =>
    constructor
    · intro h
      split at h
      · cases h
      · exact absurd h integer?_ne_float
    · -- the letter of hexadecimal spellings is not one of float spellings
      rintro ⟨h, -⟩
      have hlooks := looksLikeFloat_of_float?_eq_some h
      rw [looksLikeFloat, Bool.and_eq_true, List.all_eq_true] at hlooks
      have hletter := hlooks.2 letter (by simp)
      obtain rfl | rfl := isX <;> cases hletter
  | digits isDigit =>
    constructor
    · intro h
      exact absurd h integer?_ne_float
    · rintro ⟨-, c, hc, hdigit⟩
      rw [isDigit c hc] at hdigit
      cases hdigit
  | @other _ c mem notDigit => exact (and_iff_left ⟨c, mem, notDigit⟩).symm

end Body

/-- A text spells a float: a sign or none, and a numeral with a point or an exponent. -/
def SpellsFloat (text : String) (x : Binary64) : Prop :=
  ∃ (sign : Sign) (p : Spelling),
    text.toList = sign.chars ++ p.chars ∧ p.IsFloat ∧ x = p.float sign.isMinus

/-- A text has a plus sign before a numeral that brings a sign of its own. The numeral needs neither
point nor exponent. -/
def SpellsSignedTwice (text : String) (x : Binary64) : Prop :=
  ∃ (second : Sign) (p : Spelling), second ≠ .none ∧
    text.toList = '+' :: (second.chars ++ p.chars) ∧ x = p.float second.isMinus

/-- A text that spells a float is read as it, if it is finite. -/
theorem SpellsFloat.parse?_eq {text : String} {x : Binary64} (h : SpellsFloat text x)
    (hfinite : x.isFinite = true) : parse? text = some (.float x) := by
  obtain ⟨sign, p, htext, hfloat, rfl⟩ := h
  rw [parse?, htext, ofChars?_sign sign fun _ => p.noSign, ofUnsigned?_eq_float_iff,
    float?_eq_some_iff]
  exact ⟨⟨hfinite, .none, p, rfl, fun _ => rfl, by simp⟩, p.isFloat_iff.1 hfloat⟩

theorem SpellsSignedTwice.parse?_eq {text : String} {x : Binary64} (h : SpellsSignedTwice text x)
    (hfinite : x.isFinite = true) : parse? text = some (.float x) := by
  obtain ⟨second, p, hsecond, htext, rfl⟩ := h
  have hsign : ∃ c ∈ second.chars ++ p.chars, c.isDigit = false := by
    cases second with
    | none => exact absurd rfl hsecond
    | plus => exact ⟨'+', by simp [Sign.chars], rfl⟩
    | minus => exact ⟨'-', by simp [Sign.chars], rfl⟩
  rw [parse?, htext]
  refine ofUnsigned?_eq_float_iff.2 ⟨float?_eq_some_iff.2 ?_, hsign⟩
  exact ⟨hfinite, second, p, rfl, by simp, by simp⟩

/-- Such a text spells no float. -/
theorem SpellsSignedTwice.not_spellsFloat {text : String} {x : Binary64}
    (h : SpellsSignedTwice text x) : ∀ y, ¬ SpellsFloat text y := by
  obtain ⟨second, p, hsecond, htext, -⟩ := h
  rintro y ⟨sign, q, hq, -⟩
  rw [htext] at hq
  have hnoSign := q.noSign
  cases sign with
  | none => exact hnoSign.ne_plus _ hq.symm
  | minus => cases hq
  | plus =>
    have hrest : second.chars ++ p.chars = q.chars := (List.cons.inj hq).2
    cases second with
    | none => exact hsecond rfl
    | plus => exact hnoSign.ne_plus _ hrest.symm
    | minus => exact hnoSign.ne_minus _ hrest.symm

/-- Nothing else is read as a float. -/
theorem spells_of_parse?_eq_float {text : String} {x : Binary64}
    (h : parse? text = some (.float x)) :
    x.isFinite = true ∧ (SpellsFloat text x ∨ SpellsSignedTwice text x) := by
  obtain ⟨sign, body, htext, hbody⟩ := exists_sign text.toList
  rw [parse?, htext, ofChars?_sign sign hbody, ofUnsigned?_eq_float_iff, float?_eq_some_iff] at h
  obtain ⟨⟨hfinite, second, p, rfl, hminus, hx⟩, hdigit⟩ := h
  refine ⟨hfinite, ?_⟩
  -- a second sign can only stand after a plus: a minus is part of the numeral that is read, and
  -- what is not the first sign is not at the start either
  by_cases hsecond : second = .none
  · subst hsecond
    exact .inl ⟨sign, p, htext, p.isFloat_iff.2 hdigit, by simpa using hx⟩
  · cases sign with
    | minus => exact absurd (hminus rfl) hsecond
    | plus => exact .inr ⟨second, p, hsecond, htext, by simpa using hx⟩
    | none =>
      have hnoSign := hbody rfl
      cases second with
      | none => exact absurd rfl hsecond
      | plus => exact absurd rfl (hnoSign.ne_plus _)
      | minus => exact absurd rfl (hnoSign.ne_minus _)

/-- **Reading floats**: a text is read as a float exactly if it spells one that is finite, or if a
numeral with a sign of its own follows a plus sign. These exclude each other, and neither of them is
an integer's. -/
theorem parse?_float (text : String) (x : Binary64) :
    (parse? text = some (.float x) ↔
      x.isFinite = true ∧ (SpellsFloat text x ∨ SpellsSignedTwice text x)) ∧
    (parse? text = some (.float x) →
      (SpellsFloat text x ↔ ¬ SpellsSignedTwice text x) ∧ ∀ z, ¬ SpellsInteger text z) := by
  constructor
  · constructor
    · exact spells_of_parse?_eq_float
    · rintro ⟨hfinite, h | h⟩
      · exact h.parse?_eq hfinite
      · exact h.parse?_eq hfinite
  · intro h
    constructor
    · obtain ⟨-, hspells⟩ := spells_of_parse?_eq_float h
      exact ⟨fun hfloat htwice => htwice.not_spellsFloat x hfloat, hspells.resolve_right⟩
    · intro z hz
      rw [hz.parse?_eq] at h
      obtain ⟨n, -, hn⟩ := Option.map_eq_some_iff.1 h
      cases hn

/-- A numeral with all parts is read as the float that it spells. -/
theorem parse?_float_exponent :
    parse? "-2.5e2" = some (.float ⟨0xc06f400000000000⟩) ∧
      ¬ SpellsSignedTwice "-2.5e2" ⟨0xc06f400000000000⟩ ∧ ¬ SpellsInteger "-2.5e2" (-250) := by
  have hspells : SpellsFloat "-2.5e2" ⟨0xc06f400000000000⟩ :=
    ⟨.minus, ⟨['2'], some ['5'], some ⟨'e', .none, ['2'], .inl rfl, by simp, by simp⟩,
      by simp, by simp⟩, rfl, .inl rfl, by decide⟩
  obtain ⟨hexact, hrule⟩ := parse?_float "-2.5e2" ⟨0xc06f400000000000⟩
  have hparse := hexact.2 ⟨by decide, .inl hspells⟩
  obtain ⟨honce, hinteger⟩ := hrule hparse
  exact ⟨hparse, honce.1 hspells, hinteger (-250)⟩

/-- Two signs, no point and no exponent: a float all the same. -/
theorem parse?_plus_minus :
    parse? "+-5" = some (.float ⟨0xc014000000000000⟩) ∧ ∀ x, ¬ SpellsFloat "+-5" x := by
  have htwice : SpellsSignedTwice "+-5" ⟨0xc014000000000000⟩ :=
    ⟨.minus, ⟨['5'], none, none, by simp, by simp⟩, nofun, rfl, rfl⟩
  exact ⟨htwice.parse?_eq (by decide), htwice.not_spellsFloat⟩

end Number

end Manifest
