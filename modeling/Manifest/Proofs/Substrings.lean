import Manifest.Proofs.Law

/-!
# Parts of texts

A text has another one in it if the small form of the one occurs in the small form of the other.
The small form is made character by character, but for the capital sigma, whose small form depends
on whether it ends a word. So a part of a text is found in it if it keeps its small form there, and
it keeps it unless it is cut off from the rest of a word next to a capital sigma.

* `LetterCase.lowerWithin` — the small form of a part of a text.
* `LetterCase.CutAtSigma` — a part of a text is cut off from a word next to a capital sigma.
* `LetterCase.lowerWithin_eq_iff` — all other parts keep their small form.
* `Value.includes_part` — and they are found.
-/

namespace Manifest

namespace LetterCase

/-! ## Small forms of parts -/

/-- The small form of a part of a text, given what comes before it, nearest character first, and
what comes after it. -/
def lowerWithin (before part after : List Char) : List Char :=
  match part with
  | [] => []
  | c :: rest =>
    (if c = 'Σ' then [lowerSigma before (rest ++ after)] else lowerChar c) ++
      lowerWithin (c :: before) rest after

/-- The small form of a whole text is that of a part that nothing comes after. -/
theorem lowerWithin_nil (before part : List Char) :
    lowerWithin before part [] = lowerFrom before part := by
  induction part generalizing before with
  | nil => rfl
  | cons c rest ih => rw [lowerWithin, lowerFrom, List.append_nil, ih]

/-- The small form of a text begins with that of a part at its start. -/
theorem lowerFrom_append (before part after : List Char) :
    lowerFrom before (part ++ after) =
      lowerWithin before part after ++ lowerFrom (part.reverse ++ before) after := by
  induction part generalizing before with
  | nil => rfl
  | cons c rest ih =>
    rw [List.cons_append, lowerFrom, lowerWithin, ih, List.append_assoc, List.reverse_cons,
      List.append_assoc, List.singleton_append]

/-- The small form of a part occurs in that of the text. -/
theorem lowerWithin_occurs (before part after : List Char) :
    lowerWithin before.reverse part after <:+: lowerFrom [] (before ++ part ++ after) := by
  refine ⟨lowerWithin [] before (part ++ after),
    lowerFrom (part.reverse ++ before.reverse) after, ?_⟩
  rw [List.append_assoc before, lowerFrom_append, lowerFrom_append, List.append_nil,
    List.append_assoc]

/-- What holds at every capital sigma of a text holds at the first character, if it is one, and at
those after it. -/
theorem forall_sigma_cons {p : List Char → List Char → Prop} {c : Char} {part : List Char} :
    (∀ front rest, c :: part = front ++ 'Σ' :: rest → p front rest) ↔
      (c = 'Σ' → p [] part) ∧
        ∀ front rest, part = front ++ 'Σ' :: rest → p (c :: front) rest := by
  constructor
  · refine fun h => ⟨?_, fun front rest hpart => h (c :: front) rest (congrArg (c :: ·) hpart)⟩
    rintro rfl
    exact h [] part rfl
  · rintro ⟨hhead, hrest⟩ front rest hpart
    cases front with
    | nil =>
      cases hpart
      exact hhead rfl
    | cons d front =>
      cases hpart
      exact hrest front rest rfl

/-- A part has the same small form in two places if its capital sigmas have. -/
theorem lowerWithin_eq_iff_sigmas {before before' after after' part : List Char} :
    lowerWithin before part after = lowerWithin before' part after' ↔
      ∀ front rest, part = front ++ 'Σ' :: rest →
        lowerSigma (front.reverse ++ before) (rest ++ after) =
          lowerSigma (front.reverse ++ before') (rest ++ after') := by
  induction part generalizing before before' with
  | nil => exact iff_of_true rfl fun front rest h => by cases front <;> cases h
  | cons c part ih =>
    rw [forall_sigma_cons, lowerWithin, lowerWithin]
    simp only [List.reverse_cons, List.append_assoc, List.singleton_append, ← ih]
    split
    · next hsigma =>
      rw [List.singleton_append, List.singleton_append, List.cons.injEq]
      exact and_congr_left' ⟨fun h _ => h, fun h => h hsigma⟩
    · next hother =>
      rw [List.append_cancel_left_eq]
      exact (and_iff_right fun h => absurd h hother).symm

/-! ## Words -/

/-- A first character that does not count for case is skipped. -/
theorem startsCased_cons (c : Char) (rest : List Char) :
    startsCased (c :: rest) =
      if CharSet.caseIgnorable.contains c then startsCased rest else CharSet.cased.contains c := by
  rw [startsCased, List.dropWhile_cons]
  cases CharSet.caseIgnorable.contains c <;> rfl

/-- So are all of them. -/
theorem startsCased_append (front rest : List Char) :
    startsCased (front ++ rest) =
      if front.all CharSet.caseIgnorable.contains then startsCased rest
      else startsCased front := by
  induction front with
  | nil => rfl
  | cons c front ih =>
    rw [List.cons_append, startsCased_cons, startsCased_cons, ih, List.all_cons]
    cases CharSet.caseIgnorable.contains c <;> rfl

/-- Nothing but such characters does not start with a letter. -/
theorem startsCased_of_all {front : List Char}
    (h : front.all CharSet.caseIgnorable.contains = true) : startsCased front = false := by
  have hnil := startsCased_append front []
  rwa [List.append_nil, if_pos h] at hnil

/-- A part of a text is cut off from a word next to a capital sigma, which ends the word only in one
of them. What comes before the part is given nearest character first.

* At its start: the sigma is the first letter of the part, but not of its word, which it ends.
* At its stop: the sigma ends a word of the part, which goes on after the part. -/
inductive CutAtSigma (before part after : List Char) : Prop where
  | start {skipped rest : List Char} (hpart : part = skipped ++ 'Σ' :: rest)
      (hskipped : skipped.all CharSet.caseIgnorable.contains = true)
      (hword : startsCased before = true) (hends : startsCased (rest ++ after) = false)
  | stop {front skipped : List Char} (hpart : part = front ++ 'Σ' :: skipped)
      (hskipped : skipped.all CharSet.caseIgnorable.contains = true)
      (hword : startsCased front.reverse = true) (hgoesOn : startsCased after = true)

/-- The small form of a capital sigma is that of another one if both end a word or none does. -/
theorem lowerSigma_eq_iff {before before' after after' : List Char} :
    lowerSigma before after = lowerSigma before' after' ↔
      (startsCased before && !startsCased after) =
        (startsCased before' && !startsCased after') := by
  rw [lowerSigma, lowerSigma]
  cases startsCased before && !startsCased after <;>
    cases startsCased before' && !startsCased after' <;> decide

/-- Where a capital sigma has another small form in a part than in the text, the part is cut off
from a word there. -/
theorem lowerSigma_ne_iff {before after front rest : List Char} :
    lowerSigma (front.reverse ++ before) (rest ++ after) ≠ lowerSigma front.reverse rest ↔
      front.all CharSet.caseIgnorable.contains = true ∧ startsCased before = true ∧
          startsCased (rest ++ after) = false ∨
        rest.all CharSet.caseIgnorable.contains = true ∧ startsCased front.reverse = true ∧
          startsCased after = true := by
  have hfront : front.all CharSet.caseIgnorable.contains = true →
      startsCased front.reverse = false :=
    fun h => startsCased_of_all (List.all_reverse.trans h)
  have hrest : rest.all CharSet.caseIgnorable.contains = true → startsCased rest = false :=
    startsCased_of_all
  rw [ne_eq, lowerSigma_eq_iff, startsCased_append, startsCased_append, List.all_reverse]
  -- whether the sigma is the first letter of the part, and whether it is the last one
  cases hfirst : front.all CharSet.caseIgnorable.contains <;>
    cases hlast : rest.all CharSet.caseIgnorable.contains
  · simp
  · simp [hrest hlast]
  · simp [hfront hfirst]
  · simp [hfront hfirst, hrest hlast]

/-- **A part of a text keeps its small form** unless it is cut off from a word next to a capital
sigma. -/
theorem lowerWithin_eq_iff {before part after : List Char} :
    lowerWithin before part after = lowerFrom [] part ↔ ¬ CutAtSigma before part after := by
  rw [← lowerWithin_nil, lowerWithin_eq_iff_sigmas]
  simp only [List.append_nil]
  constructor
  · intro hsame hcut
    cases hcut with
    | start hpart hskipped hword hends =>
      exact lowerSigma_ne_iff.2 (.inl ⟨hskipped, hword, hends⟩) (hsame _ _ hpart)
    | stop hpart hskipped hword hgoesOn =>
      exact lowerSigma_ne_iff.2 (.inr ⟨hskipped, hword, hgoesOn⟩) (hsame _ _ hpart)
  · intro hwhole front rest hpart
    refine Decidable.byContradiction fun hother => hwhole ?_
    obtain ⟨hskipped, hword, hends⟩ | ⟨hskipped, hword, hgoesOn⟩ := lowerSigma_ne_iff.1 hother
    · exact .start hpart hskipped hword hends
    · exact .stop hpart hskipped hword hgoesOn

/-- A part without a capital sigma is not cut off next to one. -/
theorem CutAtSigma.mem {before part after : List Char} (h : CutAtSigma before part after) :
    'Σ' ∈ part := by
  cases h with
  | start hpart => exact hpart ▸ List.mem_append_right _ List.mem_cons_self
  | stop hpart => exact hpart ▸ List.mem_append_right _ List.mem_cons_self

/-- Neither is one without letters around. -/
theorem CutAtSigma.within {before part after : List Char} (h : CutAtSigma before part after) :
    startsCased before = true ∨ startsCased after = true := by
  cases h with
  | start _ _ hword _ => exact .inl hword
  | stop _ _ _ hgoesOn => exact .inr hgoesOn

end LetterCase

/-! ## Membership -/

/-- A search finds just what occurs. -/
theorem occursIn_iff {needle cs : List Char} : occursIn needle cs = true ↔ needle <:+: cs := by
  induction cs with
  | nil => rw [occursIn, List.isEmpty_iff, List.infix_nil]
  | cons c rest ih =>
    rw [occursIn, Bool.or_eq_true, ih, List.isPrefixOf_iff_prefix, List.infix_cons_iff]

/-- The expression `left in right`. -/
theorem Evaluator.eval_membership {E : Evaluator} {n : Nat} {left right : Expr} {place : Span}
    {s t u : State} {a b : Value} (hleft : E.eval n left s = some (.ok a, t))
    (hright : E.eval n right t = some (.ok b, u)) :
    E.eval n ⟨.membership left right, place⟩ s =
      some (.ok (.boolean (E.comparator.includes b a)), u) := by
  refine EvalM.located_eq_ok.2 ?_
  change (E.eval n left >>= fun a => E.eval n right >>= fun b =>
    pure (Value.boolean (E.comparator.includes b a))) s = _
  rw [EvalM.bind_of_ok hleft, EvalM.bind_of_ok hright]
  rfl

open LetterCase in
/-- **Parts of texts are found** in them if they keep their small form there. All do but those that
are cut off from a word next to a capital sigma, so that those without a capital sigma are found,
and whole words. -/
theorem Value.includes_part (before part after : String) :
    lowerWithin before.toList.reverse part.toList after.toList <:+:
      (lower (before ++ part ++ after)).toList ∧
    (lowerWithin before.toList.reverse part.toList after.toList = (lower part).toList ↔
      ¬ CutAtSigma before.toList.reverse part.toList after.toList) ∧
    ('Σ' ∉ part.toList ∨
        startsCased before.toList.reverse = false ∧ startsCased after.toList = false →
      ¬ CutAtSigma before.toList.reverse part.toList after.toList) ∧
    (¬ CutAtSigma before.toList.reverse part.toList after.toList →
      (string (before ++ part ++ after)).includes (string part) = true ∧
      ∀ (E : Evaluator) (n : Nat) (left right : Expr) (place : Span) (s t u : State),
        E.comparator.includes = Value.includes →
        E.eval n left s = some (.ok (string part), t) →
        E.eval n right t = some (.ok (string (before ++ part ++ after)), u) →
        E.eval n ⟨.membership left right, place⟩ s = some (.ok (boolean true), u)) := by
  have hoccurs : lowerWithin before.toList.reverse part.toList after.toList <:+:
      (lower (before ++ part ++ after)).toList := by
    rw [lower, String.toList_ofList, String.toList_append, String.toList_append]
    exact lowerWithin_occurs _ _ _
  have hkept : lowerWithin before.toList.reverse part.toList after.toList = (lower part).toList ↔
      ¬ CutAtSigma before.toList.reverse part.toList after.toList := by
    rw [lower, String.toList_ofList]
    exact lowerWithin_eq_iff
  refine ⟨hoccurs, hkept, ?_, fun hwhole => ?_⟩
  · rintro (hsigma | ⟨hbefore, hafter⟩) hcut
    · exact hsigma hcut.mem
    · rcases hcut.within with h | h
      · exact Bool.false_ne_true (hbefore.symm.trans h)
      · exact Bool.false_ne_true (hafter.symm.trans h)
  · have hfound : (string (before ++ part ++ after)).includes (string part) = true :=
      occursIn_iff.2 (hkept.2 hwhole ▸ hoccurs)
    refine ⟨hfound, fun E n left right place s t u hincludes hleft hright => ?_⟩
    rw [Evaluator.eval_membership hleft hright, hincludes, hfound]

/-- The expression `part in text`, with texts for its sides. -/
def literalMembership (part text : String) : Expr :=
  ⟨.membership ⟨.literal (.string part), ⟨0, 1⟩⟩ ⟨.literal (.string text), ⟨2, 3⟩⟩, ⟨0, 3⟩⟩

/-- A part with a sigma in the middle of a word is found. -/
theorem Value.includes_part_insideWord :
    ¬ LetterCase.CutAtSigma "ΟΔΟ".toList.reverse "ΣΗ".toList "ΜΑ".toList ∧
      (string ("ΟΔΟ" ++ "ΣΗ" ++ "ΜΑ")).includes (string "ΣΗ") = true ∧
      ∀ s, (Evaluator.ofMode .standard).eval 0 (literalMembership "ΣΗ" ("ΟΔΟ" ++ "ΣΗ" ++ "ΜΑ")) s =
        some (.ok (boolean true), s) := by
  obtain ⟨-, hkept, -, hfound⟩ := includes_part "ΟΔΟ" "ΣΗ" "ΜΑ"
  have hwhole := hkept.1 rfl
  obtain ⟨hincludes, heval⟩ := hfound hwhole
  exact ⟨hwhole, hincludes, fun s => heval (.ofMode .standard) 0 _ _ _ s s s rfl rfl rfl⟩

/-- A word that goes on after a sigma does not have the word in it that ends there. -/
theorem Value.includes_part_cut :
    "ΑΣ".toList <:+: "ΑΣΑ".toList ∧ (string "ΑΣΑ").includes (string "ΑΣ") = false ∧
      ∀ s, (Evaluator.ofMode .standard).eval 0 (literalMembership "ΑΣ" "ΑΣΑ") s =
        some (.ok (boolean false), s) :=
  ⟨⟨[], ['Α'], rfl⟩, rfl, fun _ => rfl⟩

end Manifest
