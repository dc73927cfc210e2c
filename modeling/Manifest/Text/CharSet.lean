/-!
# Sets of characters

A set of characters is the sorted list of the code points at which membership changes: below the
first of them a character is outside, from the first to the second inside, and so on. The
tables of the modules below `Manifest.Text.CharSet` are written in this form.

* `CharSet.range`, `CharSet.ofChars` — sets by their members.
* `CharSet.union`, `CharSet.inter`, `CharSet.sdiff`, `CharSet.symmDiff`, `CharSet.compl` — the
  algebra of sets, each operation a sweep over the boundaries of its operands. The code points
  that are no characters never become boundaries, so that equal sets have equal boundaries.
* `CharSet.ranges` — the longest runs of neighbouring members.

Main statement: `flip_sweep`, by which a sweep combines memberships character by character.
-/

namespace Manifest

/-- A set of characters. -/
structure CharSet where
  /-- the code points at which membership changes, in increasing order -/
  boundaries : List Nat
deriving DecidableEq

namespace CharSet

/-! ## Membership -/

/-- Membership after passing every boundary that is not above the code point. -/
def flip (code : Nat) : List Nat → Bool → Bool
  | [], inside => inside
  | b :: rest, inside => if code < b then inside else flip code rest !inside

/-- Whether the set holds a character. -/
def contains (s : CharSet) (c : Char) : Bool :=
  flip c.toNat s.boundaries false

/-! ## Sets by their members -/

/-- No character. -/
def empty : CharSet := ⟨[]⟩

/-- Every character. -/
def all : CharSet := ⟨[0, 0x110000]⟩

/-- The code point of the character after this one. -/
def codeAfter (c : Char) : Nat :=
  if c.toNat = 0xD7FF then 0xE000 else c.toNat + 1

/-- The code point of the character before the one with the given code point. -/
def codeBefore (code : Nat) : Nat :=
  if code = 0xE000 then 0xD7FF else code - 1

/-- The characters from one to another, both included. -/
def range (first last : Char) : CharSet :=
  if first ≤ last then ⟨[first.toNat, codeAfter last]⟩ else empty

/-- One character. -/
def single (c : Char) : CharSet :=
  range c c

/-! ## The algebra of sets -/

/-- Puts a boundary in front of others where membership changes. -/
def mark (code : Nat) (was becomes : Bool) (rest : List Nat) : List Nat :=
  if was = becomes then rest else code :: rest

/-- The boundaries of a combination of two sets, given the memberships below all of their
boundaries. -/
def sweep (op : Bool → Bool → Bool) (a b : Bool) (s t : List Nat) : List Nat :=
  match s, t with
  | [], [] => []
  | x :: xs, [] => mark x (op a b) (op (!a) b) (sweep op (!a) b xs [])
  | [], y :: ys => mark y (op a b) (op a !b) (sweep op a (!b) [] ys)
  | x :: xs, y :: ys =>
    if x < y then mark x (op a b) (op (!a) b) (sweep op (!a) b xs (y :: ys))
    else if y < x then mark y (op a b) (op a !b) (sweep op a (!b) (x :: xs) ys)
    else mark x (op a b) (op (!a) !b) (sweep op (!a) (!b) xs ys)
termination_by s.length + t.length

/-- The characters of either set. -/
def union (s t : CharSet) : CharSet :=
  ⟨sweep (· || ·) false false s.boundaries t.boundaries⟩

/-- The characters that both sets hold. -/
def inter (s t : CharSet) : CharSet :=
  ⟨sweep (· && ·) false false s.boundaries t.boundaries⟩

/-- The characters of the first set that the second one has not. -/
def sdiff (s t : CharSet) : CharSet :=
  ⟨sweep (fun a b => a && !b) false false s.boundaries t.boundaries⟩

/-- The characters that just one of the sets holds. -/
def symmDiff (s t : CharSet) : CharSet :=
  ⟨sweep (· != ·) false false s.boundaries t.boundaries⟩

/-- All other characters. -/
def compl (s : CharSet) : CharSet :=
  all.sdiff s

/-- The characters of several sets. -/
def unions (sets : List CharSet) : CharSet :=
  sets.foldl union empty

/-- The characters of a list. -/
def ofChars (cs : List Char) : CharSet :=
  unions (cs.map single)

/-! ## Ranges -/

/-- The first and the last code point of every range between two boundaries. -/
def rangesOf : List Nat → List (Nat × Nat)
  | first :: next :: rest => (first, codeBefore next) :: rangesOf rest
  | _ => []

/-- The longest ranges of members, in order. -/
def ranges (s : CharSet) : List (Nat × Nat) :=
  rangesOf s.boundaries

/-- The member of a set that has only one. -/
def single? (s : CharSet) : Option Char :=
  match s.ranges with
  | [(first, last)] => if first = last then some (Char.ofNat first) else none
  | _ => none

/-! ## Laws -/

/-- Below the first boundary membership has not changed yet. -/
theorem flip_of_lt {code : Nat} {s : List Nat} (h : ∀ x ∈ s, code < x) (a : Bool) :
    flip code s a = a := by
  cases s with
  | nil => rfl
  | cons x xs => exact if_pos (h x List.mem_cons_self)

/-- A boundary put in front is passed like any other one. -/
theorem flip_mark {code x : Nat} {was becomes : Bool} {rest : List Nat}
    (h : code < x → flip code rest becomes = becomes) :
    flip code (mark x was becomes rest) was
      = if code < x then was else flip code rest becomes := by
  rw [mark]
  by_cases less : code < x
  · cases was <;> cases becomes <;> simp [flip, less, h less]
  · cases was <;> cases becomes <;> simp [flip, less]

/-- A sweep combines the memberships. -/
theorem flip_sweep (op : Bool → Bool → Bool) (code : Nat) {s t : List Nat}
    (hs : s.Pairwise (· < ·)) (ht : t.Pairwise (· < ·)) (a b : Bool) :
    flip code (sweep op a b s t) (op a b) = op (flip code s a) (flip code t b) := by
  have above {x : Nat} {xs : List Nat} (h : ∀ y ∈ xs, x < y) (less : code < x) (a : Bool) :
      flip code xs a = a :=
    flip_of_lt (fun y mem => Nat.lt_trans less (h y mem)) a
  fun_induction sweep op a b s t with
  | case1 => rfl
  | case2 a b x xs ih =>
    obtain ⟨hx, hxs⟩ := List.pairwise_cons.1 hs
    rw [flip_mark (fun less => by rw [ih hxs ht, above hx less]; rfl), ih hxs ht]
    by_cases less : code < x <;> simp [flip, less]
  | case3 a b y ys ih =>
    obtain ⟨hy, hys⟩ := List.pairwise_cons.1 ht
    rw [flip_mark (fun less => by rw [ih hs hys, above hy less]; rfl), ih hs hys]
    by_cases less : code < y <;> simp [flip, less]
  | case4 a b x xs y ys lt ih =>
    obtain ⟨hx, hxs⟩ := List.pairwise_cons.1 hs
    have other (less : code < x) : code < y := Nat.lt_trans less lt
    rw [flip_mark (fun less => by rw [ih hxs ht, above hx less]; simp [flip, other less]),
      ih hxs ht]
    by_cases less : code < x
    · simp [flip, less, other less]
    · simp [flip, less]
  | case5 a b x xs y ys _ lt ih =>
    obtain ⟨hy, hys⟩ := List.pairwise_cons.1 ht
    have other (less : code < y) : code < x := Nat.lt_trans less lt
    rw [flip_mark (fun less => by rw [ih hs hys, above hy less]; simp [flip, other less]),
      ih hs hys]
    by_cases less : code < y
    · simp [flip, less, other less]
    · simp [flip, less]
  | case6 a b x xs y ys le ge ih =>
    obtain ⟨hx, hxs⟩ := List.pairwise_cons.1 hs
    obtain ⟨hy, hys⟩ := List.pairwise_cons.1 ht
    obtain rfl : x = y := Nat.le_antisymm (Nat.le_of_not_lt ge) (Nat.le_of_not_lt le)
    rw [flip_mark (fun less => by rw [ih hxs hys, above hx less, above hy less]), ih hxs hys]
    by_cases less : code < x <;> simp [flip, less]

end CharSet

end Manifest
