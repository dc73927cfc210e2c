import Mathlib.Data.List.Forall2
import Mathlib.Data.Nat.Digits.Defs
import Mathlib.Tactic.IntervalCases
import Manifest.Number
import Manifest.Value.Text

/-!
# Spellings of integers

The texts that spell an integer, as a grammar: an optional sign, and digits in one of three bases.
What stands in a text decides whether it spells an integer and which one; whether that integer is in
range only decides whether there is a number for it.

* `Number.Spells` — digits of a base spell a whole number.
* `Number.SpellsInteger` — a text spells an integer, however large.
* `Number.Reading` — the ways in which a text without its sign is read.
* `Number.parse?_integer` — reading follows the grammar, in both directions; and integers are read
  back from the texts that they are shown as.
-/

namespace Manifest.Number

/-! ## Digits -/

/-- A character is a digit of a base. From ten on digits are letters, small or capital. -/
def IsDigit (base : Nat) (c : Char) (d : Nat) : Prop :=
  d < base ∧ (c = Nat.digitChar d ∨ c = (Nat.digitChar d).toUpper)

/-- Digits spell a whole number in a base. The first one counts most. -/
def Spells (base : Nat) (digits : List Char) (n : Nat) : Prop :=
  ∃ ds, List.Forall₂ (IsDigit base) digits ds ∧ n = Nat.ofDigits base ds.reverse

theorem digitValue_digitChar : ∀ d < 16,
    (isHexDigit (Nat.digitChar d) = true ∧ digitValue (Nat.digitChar d) = d) ∧
      isHexDigit (Nat.digitChar d).toUpper = true ∧ digitValue (Nat.digitChar d).toUpper = d := by
  decide

theorem eq_digitChar_of_isHexDigit {c : Char} (h : isHexDigit c = true) :
    c = Nat.digitChar (digitValue c) ∨ c = (Nat.digitChar (digitValue c)).toUpper := by
  have hrange : (48 ≤ c.toNat ∧ c.toNat ≤ 57 ∨ 97 ≤ c.toNat ∧ c.toNat ≤ 102) ∨
      65 ≤ c.toNat ∧ c.toNat ≤ 70 := by
    simpa [isHexDigit, Char.isDigit_iff_toNat, Char.le_def, UInt32.le_iff_toNat_le] using h
  rw [← Char.ofNat_toNat c]
  generalize c.toNat = k at hrange
  -- one check for each of the 22 characters
  obtain (⟨hlow, hhigh⟩ | ⟨hlow, hhigh⟩) | ⟨hlow, hhigh⟩ := hrange <;> interval_cases k <;> decide

/-- The digits of a base are the hexadecimal ones that have a value below it. -/
theorem isDigit_iff {base : Nat} (hbase : base ≤ 16) {c : Char} {d : Nat} :
    IsDigit base c d ↔ (isHexDigit c = true ∧ digitValue c < base) ∧ d = digitValue c := by
  constructor
  · rintro ⟨hd, rfl | rfl⟩
    · obtain ⟨⟨hhex, hvalue⟩, -⟩ := digitValue_digitChar d (by omega)
      exact ⟨⟨hhex, by omega⟩, hvalue.symm⟩
    · obtain ⟨-, hhex, hvalue⟩ := digitValue_digitChar d (by omega)
      exact ⟨⟨hhex, by omega⟩, hvalue.symm⟩
  · rintro ⟨⟨hhex, hlt⟩, rfl⟩
    exact ⟨hlt, eq_digitChar_of_isHexDigit hhex⟩

/-- The value of digits is computed from the first one on. -/
theorem wholeNumber_eq (base : Nat) (digits : List Char) :
    wholeNumber base digits = Nat.ofDigits base (digits.map digitValue).reverse := by
  rw [wholeNumber, Nat.ofDigits_eq_foldr, List.foldr_reverse, List.foldl_map]
  simp only [Nat.add_comm, Nat.cast_id]

/-- Digits of a base spell the whole number that is computed from them. -/
theorem spells_iff {base : Nat} (hbase : base ≤ 16) {digits : List Char} {n : Nat} :
    Spells base digits n ↔
      (∀ c ∈ digits, isHexDigit c = true ∧ digitValue c < base) ∧ n = wholeNumber base digits := by
  -- there is only one way to take digits of a base for numbers: each is its value
  have hdigits : ∀ ds, List.Forall₂ (IsDigit base) digits ds ↔
      (∀ c ∈ digits, isHexDigit c = true ∧ digitValue c < base) ∧ ds = digits.map digitValue := by
    induction digits with
    | nil => simp [List.forall₂_nil_left_iff]
    | cons c rest ih =>
      intro ds
      cases ds with
      | nil => simp [List.forall₂_nil_right_iff]
      | cons d ds =>
        rw [List.forall₂_cons, isDigit_iff hbase, ih, List.forall_mem_cons, List.map_cons,
          List.cons.injEq]
        tauto
  rw [wholeNumber_eq]
  constructor
  · rintro ⟨ds, hds, rfl⟩
    obtain ⟨hall, rfl⟩ := (hdigits ds).1 hds
    exact ⟨hall, rfl⟩
  · rintro ⟨hall, rfl⟩
    exact ⟨_, (hdigits _).2 ⟨hall, rfl⟩, rfl⟩

/-- Whether something is digits of a base can be computed. -/
theorem Spells.of_all {base : Nat} (hbase : base ≤ 16) {digits : List Char}
    (h : (digits.all fun c => isHexDigit c && digitValue c < base) = true) :
    Spells base digits (wholeNumber base digits) := by
  refine (spells_iff hbase).2 ⟨fun c hc => ?_, rfl⟩
  simpa using List.all_eq_true.1 h c hc

/-- A digit with a value below ten is a decimal one. -/
theorem isDigit_of_digitValue_lt {c : Char} (h : digitValue c < 10) : c.isDigit = true := by
  rw [digitValue] at h
  split at h
  · assumption
  · split at h <;> omega

theorem isHexDigit_of_isDigit {c : Char} (h : c.isDigit = true) : isHexDigit c = true := by
  rw [isHexDigit, h, Bool.true_or, Bool.true_or]

/-- The digits of bases up to ten are decimal ones. -/
theorem Spells.isDigit {base : Nat} (hbase : base ≤ 10) {digits : List Char} {n : Nat}
    (h : Spells base digits n) : ∀ c ∈ digits, c.isDigit = true := fun c hc =>
  isDigit_of_digitValue_lt
    (Nat.lt_of_lt_of_le (((spells_iff (by omega)).1 h).1 c hc).2 hbase)

/-- A digit more at the end. -/
theorem Spells.concat {base : Nat} {digits : List Char} {n : Nat} (h : Spells base digits n)
    {c : Char} {d : Nat} (hc : IsDigit base c d) : Spells base (digits ++ [c]) (base * n + d) := by
  obtain ⟨ds, hds, rfl⟩ := h
  refine ⟨ds ++ [d], List.rel_append hds (.cons hc .nil), ?_⟩
  rw [List.reverse_append, List.reverse_singleton, List.singleton_append, Nat.ofDigits_cons,
    Nat.add_comm]

/-- What comes after the first digit is digits too. -/
theorem Spells.tail {base : Nat} {c : Char} {rest : List Char} {n : Nat}
    (h : Spells base (c :: rest) n) : ∃ n, Spells base rest n := by
  obtain ⟨_, _ | ⟨-, hds⟩, -⟩ := h
  exact ⟨_, _, hds, rfl⟩

/-- Zeros in front change nothing. -/
theorem Spells.zero_cons {base : Nat} (hpos : 0 < base) {digits : List Char} {n : Nat}
    (h : Spells base digits n) : Spells base ('0' :: digits) n := by
  obtain ⟨ds, hds, rfl⟩ := h
  refine ⟨0 :: ds, .cons ⟨hpos, .inl rfl⟩ hds, ?_⟩
  rw [Nat.ofDigits_reverse_cons, Nat.mul_zero, Nat.add_zero]

/-! ## Integers -/

/-- The sign of a spelling. -/
inductive Sign where
  | none
  | plus
  | minus

namespace Sign

/-- The characters of a sign. -/
def chars : Sign → List Char
  | none => []
  | plus => ['+']
  | minus => ['-']

/-- Whether the sign is minus. -/
def isMinus : Sign → Bool
  | minus => true
  | _ => false

/-- A whole number with the sign. -/
def apply (sign : Sign) (n : Nat) : Int :=
  if sign.isMinus then -n else n

@[simp] theorem isMinus_none : none.isMinus = false := rfl
@[simp] theorem isMinus_plus : plus.isMinus = false := rfl
@[simp] theorem isMinus_minus : minus.isMinus = true := rfl

theorem mem_chars {sign : Sign} {c : Char} (hc : c ∈ sign.chars) : c = '+' ∨ c = '-' := by
  cases sign with
  | none => cases hc
  | plus => exact .inl (List.mem_singleton.1 hc)
  | minus => exact .inr (List.mem_singleton.1 hc)

end Sign

/-- A text without a sign spells a whole number. -/
inductive SpellsWhole : List Char → Nat → Prop
  /-- hexadecimal digits after a zero and the letter `x` -/
  | hex {letter : Char} {digits : List Char} {n : Nat} (isX : letter = 'x' ∨ letter = 'X')
    (nonempty : digits ≠ []) (value : Spells 16 digits n) :
    SpellsWhole ('0' :: letter :: digits) n
  /-- octal digits after a zero -/
  | octal {digits : List Char} {n : Nat} (nonempty : digits ≠ []) (value : Spells 8 digits n) :
    SpellsWhole ('0' :: digits) n
  /-- a single decimal digit -/
  | digit {c : Char} {n : Nat} (value : Spells 10 [c] n) : SpellsWhole [c] n
  /-- decimal digits, of which the first is no zero -/
  | decimal {first : Char} {rest : List Char} {n : Nat} (nonzero : first ≠ '0')
    (value : Spells 10 (first :: rest) n) : SpellsWhole (first :: rest) n

/-- A text spells an integer: a sign or none, and a whole number. -/
def SpellsInteger (text : String) (z : Int) : Prop :=
  ∃ (sign : Sign) (body : List Char) (n : Nat),
    text.toList = sign.chars ++ body ∧ SpellsWhole body n ∧ z = sign.apply n

/-- A text does not start with a sign. -/
def NoSign (body : List Char) : Prop :=
  ∀ c ∈ body.head?, c ≠ '+' ∧ c ≠ '-'

theorem NoSign.of_isDigit {c : Char} (h : c.isDigit = true) (rest : List Char) :
    NoSign (c :: rest) := by
  rintro c hc
  cases hc
  constructor <;> rintro rfl <;> cases h

theorem NoSign.ne_plus {body : List Char} (h : NoSign body) (rest : List Char) :
    body ≠ '+' :: rest := by
  rintro rfl
  exact (h '+' rfl).1 rfl

theorem NoSign.ne_minus {body : List Char} (h : NoSign body) (rest : List Char) :
    body ≠ '-' :: rest := by
  rintro rfl
  exact (h '-' rfl).2 rfl

/-! ## Reading without a sign -/

section Body

variable {negative : Bool}

/-- Digits of a base are read as what they spell, if that is in range. -/
theorem integer?_eq {base : Nat} (hbase : base ≤ 16) {digits : List Char} {n : Nat}
    (h : Spells base digits n) :
    integer? negative base digits =
      (Integer.ofInt? (if negative then -n else n)).map .int := by
  obtain ⟨hall, rfl⟩ := (spells_iff hbase).1 h
  rw [integer?, if_pos (List.all_eq_true.2 fun c hc => decide_eq_true (hall c hc).2)]

/-- Where digits are read, they are digits of the base. -/
theorem spells_of_integer?_eq_some {base : Nat} (hbase : base ≤ 16) {digits : List Char}
    (hhex : ∀ c ∈ digits, isHexDigit c = true) {x : Number}
    (h : integer? negative base digits = some x) : ∃ n, Spells base digits n := by
  rw [integer?] at h
  split at h
  · next hall =>
    have hlt := fun c hc => of_decide_eq_true (List.all_eq_true.1 hall c hc)
    exact ⟨_, (spells_iff hbase).2 ⟨fun c hc => ⟨hhex c hc, hlt c hc⟩, rfl⟩⟩
  · cases h

theorem integer?_eq_none {base : Nat} {digits : List Char} {c : Char} (hc : c ∈ digits)
    (hbase : base ≤ digitValue c) : integer? negative base digits = none := by
  refine if_neg fun hall => ?_
  exact Nat.not_lt.2 hbase (of_decide_eq_true (List.all_eq_true.1 hall c hc))

theorem integer?_ne_float {base : Nat} {digits : List Char} {x : Binary64} :
    integer? negative base digits ≠ some (.float x) := by
  rw [integer?]
  split
  · simp
  · simp

theorem float?_ne_int {body : List Char} {n : Int64} : float? negative body ≠ some (.int n) := by
  rw [float?]
  repeat' split
  all_goals simp

theorem ofUnsigned?_hex {letter : Char} (isX : letter = 'x' ∨ letter = 'X') (digits : List Char) :
    ofUnsigned? negative ('0' :: letter :: digits) =
      if digits.isEmpty || !digits.all isHexDigit then none else integer? negative 16 digits := by
  obtain rfl | rfl := isX <;> rfl

theorem ofUnsigned?_of_ne_hex {first : Char} {rest : List Char}
    (notHex : ∀ letter digits, letter = 'x' ∨ letter = 'X' →
      first :: rest ≠ '0' :: letter :: digits) :
    ofUnsigned? negative (first :: rest) =
      if (first :: rest).all Char.isDigit then
        integer? negative (if first = '0' ∧ rest ≠ [] then 8 else 10) (first :: rest)
      else float? negative (first :: rest) := by
  rw [ofUnsigned?]
  · exact fun digits heq => absurd heq (notHex 'x' digits (.inl rfl))
  · exact fun digits heq => absurd heq (notHex 'X' digits (.inr rfl))

/-- Decimal digits are those of an integer, an octal one if a zero is followed by more. -/
theorem ofUnsigned?_of_isDigit {first : Char} {rest : List Char}
    (hall : ∀ c ∈ first :: rest, c.isDigit = true) :
    ofUnsigned? negative (first :: rest) =
      integer? negative (if first = '0' ∧ rest ≠ [] then 8 else 10) (first :: rest) := by
  rw [ofUnsigned?_of_ne_hex, if_pos (List.all_eq_true.2 hall)]
  rintro letter digits isX heq
  cases heq
  have hletter := hall letter (by simp)
  obtain rfl | rfl := isX <;> cases hletter

variable (negative) in
/-- How a text without its sign is read. -/
inductive Reading : List Char → Option Number → Prop
  /-- nothing is there -/
  | nothing : Reading [] none
  /-- what follows a zero and the letter `x` has to be hexadecimal digits -/
  | hex {letter : Char} (isX : letter = 'x' ∨ letter = 'X') (digits : List Char) :
    Reading ('0' :: letter :: digits)
      (if digits.isEmpty || !digits.all isHexDigit then none else integer? negative 16 digits)
  /-- decimal digits are those of an integer -/
  | digits {first : Char} {rest : List Char} (isDigit : ∀ c ∈ first :: rest, c.isDigit = true) :
    Reading (first :: rest)
      (integer? negative (if first = '0' ∧ rest ≠ [] then 8 else 10) (first :: rest))
  /-- anything else can only be a float -/
  | other {body : List Char} {c : Char} (mem : c ∈ body) (notDigit : c.isDigit = false)
    (notHex : ∀ letter digits, letter = 'x' ∨ letter = 'X' → body ≠ '0' :: letter :: digits) :
    Reading body (float? negative body)

/-- Every text is read in one of these ways. -/
theorem reading (negative : Bool) (body : List Char) :
    Reading negative body (ofUnsigned? negative body) := by
  cases body with
  | nil => exact .nothing
  | cons first rest =>
    by_cases hhex : ∃ letter digits, (letter = 'x' ∨ letter = 'X') ∧
        first :: rest = '0' :: letter :: digits
    · obtain ⟨letter, digits, isX, heq⟩ := hhex
      rw [heq, ofUnsigned?_hex isX]
      exact .hex isX digits
    · have notHex : ∀ letter digits, letter = 'x' ∨ letter = 'X' →
          first :: rest ≠ '0' :: letter :: digits := fun letter digits isX heq =>
        hhex ⟨letter, digits, isX, heq⟩
      rw [ofUnsigned?_of_ne_hex notHex]
      split
      · next hall => exact .digits (List.all_eq_true.1 hall)
      · next hall =>
        obtain ⟨c, hc, hdigit⟩ := List.all_eq_false.1 (Bool.eq_false_iff.2 hall)
        exact .other hc (Bool.eq_false_iff.2 hdigit) notHex

/-- A whole number is read with its sign, if it is in range then. -/
theorem SpellsWhole.ofUnsigned?_eq {body : List Char} {n : Nat} (h : SpellsWhole body n) :
    ofUnsigned? negative body = (Integer.ofInt? (if negative then -n else n)).map .int := by
  cases h with
  | @hex letter digits n isX nonempty value =>
    have hall : digits.all isHexDigit = true :=
      List.all_eq_true.2 fun c hc => (((spells_iff (by omega)).1 value).1 c hc).1
    rw [ofUnsigned?_hex isX, if_neg (by simp [nonempty, hall]), integer?_eq (by omega) value]
  | @octal digits n nonempty value =>
    have value' := value.zero_cons (by omega)
    rw [ofUnsigned?_of_isDigit (value'.isDigit (by omega)), if_pos ⟨rfl, nonempty⟩,
      integer?_eq (by omega) value']
  | @digit c n value =>
    rw [ofUnsigned?_of_isDigit (value.isDigit (by omega)), if_neg (by simp),
      integer?_eq (by omega) value]
  | @decimal first rest n nonzero value =>
    rw [ofUnsigned?_of_isDigit (value.isDigit (by omega)), if_neg (fun h => nonzero h.1),
      integer?_eq (by omega) value]

/-- Only whole numbers are read as integers. -/
theorem spellsWhole_of_ofUnsigned?_eq_int {body : List Char} {m : Int64}
    (h : ofUnsigned? negative body = some (.int m)) : ∃ n, SpellsWhole body n := by
  have hreading := reading negative body
  rw [h] at hreading
  generalize hx : some (Number.int m) = x at hreading
  cases hreading with
  | nothing => cases hx
  | hex isX digits =>
    split at hx
    · cases hx
    · next hdigits =>
      obtain ⟨hnonempty, hall⟩ : digits ≠ [] ∧ digits.all isHexDigit = true := by
        simpa using hdigits
      obtain ⟨n, value⟩ :=
        spells_of_integer?_eq_some (by omega) (List.all_eq_true.1 hall) hx.symm
      exact ⟨n, .hex isX hnonempty value⟩
  | @digits first rest isDigit =>
    have hhex : ∀ c ∈ first :: rest, isHexDigit c = true := fun c hc =>
      isHexDigit_of_isDigit (isDigit c hc)
    obtain ⟨n, value⟩ := spells_of_integer?_eq_some (by split <;> omega) hhex hx.symm
    -- an octal spelling leaves its first zero out, while the digits that are read include it
    by_cases hzero : first = '0'
    · subst hzero
      cases rest with
      | nil => exact ⟨n, .digit value⟩
      | cons second rest =>
        rw [if_pos (by simp)] at value
        obtain ⟨n, value⟩ := value.tail
        exact ⟨n, .octal (by simp) value⟩
    · rw [if_neg (fun h => hzero h.1)] at value
      exact ⟨n, .decimal hzero value⟩
  | other => exact absurd hx.symm float?_ne_int

/-- Digits after a leading zero have to be octal. -/
theorem ofUnsigned?_zero_cons_eq_none {digits : List Char}
    (hall : ∀ c ∈ digits, c.isDigit = true) {c : Char} (hc : c ∈ digits) (h : 8 ≤ digitValue c) :
    ofUnsigned? negative ('0' :: digits) = none := by
  have hall' : ∀ c ∈ '0' :: digits, c.isDigit = true := List.forall_mem_cons.2 ⟨rfl, hall⟩
  rw [ofUnsigned?_of_isDigit hall', if_pos ⟨rfl, List.ne_nil_of_mem hc⟩,
    integer?_eq_none (List.mem_cons_of_mem _ hc) h]

end Body

/-! ## Reading with a sign -/

/-- A sign is taken off before the rest is read. -/
theorem ofChars?_sign (sign : Sign) {body : List Char} (h : sign = .none → NoSign body) :
    ofChars? (sign.chars ++ body) = ofUnsigned? sign.isMinus body := by
  cases sign with
  | plus => rfl
  | minus => rfl
  | none =>
    rw [Sign.chars, List.nil_append, ofChars?]
    · rfl
    · exact (h rfl).ne_minus
    · exact (h rfl).ne_plus

/-- Every text is a sign, or none, and a rest; without a sign the rest does not start with one. -/
theorem exists_sign (chars : List Char) : ∃ (sign : Sign) (body : List Char),
    chars = sign.chars ++ body ∧ (sign = .none → NoSign body) := by
  cases chars with
  | nil => exact ⟨.none, [], rfl, fun _ _ hc => by cases hc⟩
  | cons c rest =>
    by_cases hplus : c = '+'
    · exact ⟨.plus, rest, by rw [hplus]; rfl, nofun⟩
    · by_cases hminus : c = '-'
      · exact ⟨.minus, rest, by rw [hminus]; rfl, nofun⟩
      · refine ⟨.none, c :: rest, rfl, ?_⟩
        rintro _ _ ⟨⟩
        exact ⟨hplus, hminus⟩

theorem SpellsWhole.noSign {body : List Char} {n : Nat} (h : SpellsWhole body n) :
    NoSign body := by
  cases h with
  | hex => exact .of_isDigit rfl _
  | octal => exact .of_isDigit rfl _
  | digit value => exact .of_isDigit (value.isDigit (by omega) _ (by simp)) _
  | decimal nonzero value => exact .of_isDigit (value.isDigit (by omega) _ (by simp)) _

/-- An integer is read, if it is in range. -/
theorem SpellsInteger.parse?_eq {text : String} {z : Int} (h : SpellsInteger text z) :
    parse? text = (Integer.ofInt? z).map .int := by
  obtain ⟨sign, body, n, htext, hwhole, rfl⟩ := h
  rw [parse?, htext, ofChars?_sign sign fun _ => hwhole.noSign, hwhole.ofUnsigned?_eq, Sign.apply]

/-- Only integers are read as integers. -/
theorem spellsInteger_of_parse?_eq_int {text : String} {m : Int64}
    (h : parse? text = some (.int m)) : ∃ z, SpellsInteger text z := by
  obtain ⟨sign, body, htext, hbody⟩ := exists_sign text.toList
  rw [parse?, htext, ofChars?_sign sign hbody] at h
  obtain ⟨n, hwhole⟩ := spellsWhole_of_ofUnsigned?_eq_int h
  exact ⟨_, sign, body, n, htext, hwhole, rfl⟩

/-! ## The texts of integers -/

theorem isDigit_digitChar {n : Nat} (h : n < 10) : IsDigit 10 (Nat.digitChar n) n :=
  ⟨h, .inl rfl⟩

/-- The decimal digits of a whole number spell it. -/
theorem spells_toDigits (n : Nat) : Spells 10 (Nat.toDigits 10 n) n := by
  -- by the digits, of which the last one is split off
  induction n using Nat.strongRecOn with
  | ind n ih =>
    by_cases h : n < 10
    · rw [Nat.toDigits_of_lt_base h]
      exact ⟨[n], .cons (isDigit_digitChar h) .nil, by simp⟩
    · have hlast := isDigit_digitChar (n := n % 10) (by omega)
      have hspells := (ih (n / 10) (by omega)).concat hlast
      rw [Nat.div_add_mod] at hspells
      rwa [Nat.toDigits_eq_if (by omega), if_neg h]

/-- The first one is no zero, except that of zero. -/
theorem head?_toDigits_ne_zero {n : Nat} (hpos : 0 < n) :
    (Nat.toDigits 10 n).head? ≠ some '0' := by
  induction n using Nat.strongRecOn with
  | ind n ih =>
    by_cases h : n < 10
    · rw [Nat.toDigits_of_lt_base h]
      interval_cases n <;> decide
    · rw [Nat.toDigits_eq_if (by omega), if_neg h,
        List.head?_append_of_ne_nil _ Nat.toDigits_ne_nil]
      exact ih (n / 10) (by omega) (by omega)

theorem spellsWhole_toDigits (n : Nat) : SpellsWhole (Nat.toDigits 10 n) n := by
  have hspells := spells_toDigits n
  obtain rfl | hpos := Nat.eq_zero_or_pos n
  · exact .digit hspells
  · have hhead := head?_toDigits_ne_zero hpos
    obtain ⟨first, rest, hdigits⟩ := List.exists_cons_of_ne_nil (Nat.toDigits_ne_nil (n := n))
    rw [hdigits] at hspells hhead ⊢
    exact .decimal (fun hzero => hhead (congrArg some hzero)) hspells

/-- The text of an integer spells it. -/
theorem spellsInteger_toString (z : Int) : SpellsInteger (toString z) z := by
  rw [Int.toString_eq_repr, Int.repr_eq_if]
  split
  · next h =>
    exact ⟨.none, _, _, Nat.toList_repr, spellsWhole_toDigits _, (Int.toNat_of_nonneg h).symm⟩
  · next h =>
    refine ⟨.minus, Nat.toDigits 10 (-z).toNat, _, ?_, spellsWhole_toDigits _, ?_⟩
    · rw [String.toList_append, Nat.toList_repr]
      rfl
    · rw [Sign.apply, Sign.isMinus, if_pos rfl]
      omega

/-- **Reading integers**: a text is read as an integer exactly if it spells one that is in range. If
that is out of range, or if an eight or a nine follows a leading zero among digits only, then there
is no number at all. So integers are read back from their texts. -/
theorem parse?_integer :
    (∀ text n, parse? text = some (.int n) ↔ SpellsInteger text n.toInt) ∧
    (∀ text z, SpellsInteger text z → (∀ n : Int64, n.toInt ≠ z) → parse? text = none) ∧
    (∀ (text : String) (sign : Sign) (digits : List Char),
      text.toList = sign.chars ++ '0' :: digits → (∀ c ∈ digits, c.isDigit = true) →
        '8' ∈ digits ∨ '9' ∈ digits → parse? text = none) ∧
    ∀ n : Int64, parse? (Value.integer n).display = some (.int n) := by
  have hexact : ∀ text n, parse? text = some (.int n) ↔ SpellsInteger text n.toInt := by
    intro text n
    constructor
    · intro h
      obtain ⟨z, hz⟩ := spellsInteger_of_parse?_eq_int h
      rw [hz.parse?_eq] at h
      obtain ⟨m, hm, hmn⟩ := Option.map_eq_some_iff.1 h
      cases hmn
      rwa [Integer.ofInt?_eq_some_iff.1 hm]
    · intro h
      rw [h.parse?_eq, Integer.ofInt?_eq_some_iff.2 rfl, Option.map_some]
  refine ⟨hexact, ?_, ?_, fun n => (hexact _ n).2 ?_⟩
  · intro text z hz hrange
    rw [hz.parse?_eq, Integer.ofInt?_eq_none_iff.2 hrange, Option.map_none]
  · intro text sign digits htext hall hlarge
    rw [parse?, htext, ofChars?_sign sign fun _ => .of_isDigit rfl _]
    obtain hc | hc := hlarge
    · exact ofUnsigned?_zero_cons_eq_none hall hc (by decide)
    · exact ofUnsigned?_zero_cons_eq_none hall hc (by decide)
  · rw [Value.display]
    exact spellsInteger_toString _

/-- The least integer is read in hexadecimal; one more than the greatest is not read. -/
theorem parse?_integer_edges :
    parse? "-0x8000000000000000" = some (.int Int64.minValue) ∧
      parse? "9223372036854775808" = none ∧ parse? "-0719" = none := by
  obtain ⟨hexact, hrange, hzero, -⟩ := parse?_integer
  refine ⟨(hexact _ _).2 ?_, hrange _ 9223372036854775808 ?_ ?_,
    hzero _ .minus ['7', '1', '9'] rfl (by simp) (.inr (by simp))⟩
  · exact ⟨.minus, '0' :: 'x' :: "8000000000000000".toList, _, rfl,
      .hex (.inl rfl) (by decide) (.of_all (by omega) rfl), rfl⟩
  · exact ⟨.none, "9223372036854775808".toList, _, rfl,
      .decimal (by decide) (.of_all (by omega) rfl), rfl⟩
  · intro n hn
    have := n.toInt_lt
    omega

end Manifest.Number
