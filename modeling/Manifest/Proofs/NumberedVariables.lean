import Manifest.Proofs.Flattening
import Manifest.Proofs.Reserved

/-!
# Numbered variables

The variable of a captured group is spelled with a number or with a name of digits, by itself or as
a segment of a text. Once a match has been tried, the spellings are the same: they come to what the
innermost match has in the group. Before that a group has no value. The number then comes to
nothing, but the name is treated as that of an unknown variable, so that it is rejected where
variables are strict.

* `Environment.hasCaptures`, `Environment.groupValue` — whether a match has been tried, and what a
  group comes to.
* `Evaluator.Reads` — a variable is read by itself and in texts, with the same result.
* `Evaluator.reads_numbered` — how both spellings are read, and which names are rejected.
-/

namespace Manifest

/-! ## Names of digits -/

/-- A number that fits a machine word is read back from its digits. -/
theorem groupNumber?_toString {n : Int} (hn : 0 ≤ n) (hfits : n < 0x10000000000000000) :
    groupNumber? (toString n) = some n.toNat := by
  obtain ⟨k, rfl⟩ := Int.eq_ofNat_of_zero_le hn
  have hdigits : (toString (k : Int)).toList = Nat.toDigits 10 k := String.toList_ofList
  have hread : Nat.ofDigitChars 10 (toString (k : Int)).toList 0 = k := by
    rw [hdigits, Nat.ofDigitChars_ten_toDigits]
  rw [Nat.ofDigitChars] at hread
  rw [groupNumber?, hread]
  exact if_pos (by omega)

namespace Environment

/-! ## Groups -/

/-- Whether there are captures, be they those of a match or of one that failed. -/
def hasCaptures (env : Environment) : Bool :=
  env.layers.any (·.captures?.isSome)

/-- What a group comes to: its text in the innermost captures, or nothing if it took no part in the
match, if it does not exist, if the match failed, or if there are no captures. -/
def groupValue (env : Environment) (i : Nat) : Value :=
  match env.layers.findSome? Layer.captures? with
  | some (some m) => .ofGroup (m.group? i)
  | _ => .absent

theorem hasCaptures_eq (env : Environment) :
    env.hasCaptures = (env.layers.findSome? Layer.captures?).isSome :=
  List.isSome_findSome?.symm

/-- Without captures no group has a value. -/
theorem groupValue_of_noCaptures {env : Environment} (h : env.hasCaptures = false) (i : Nat) :
    env.groupValue i = .absent := by
  rw [hasCaptures_eq, Option.isSome_eq_false_iff, Option.isNone_iff_eq_none] at h
  rw [groupValue, h]

/-- The digits of a number stand for its group, unless there are no captures. -/
theorem get?_number {n : Int64} (hn : 0 ≤ n.toInt) (env : Environment) :
    env.get? (toString n.toInt) =
      if env.hasCaptures then some (env.groupValue n.toInt.toNat) else none := by
  have hnumber : groupNumber? (toString n.toInt) = some n.toInt.toNat :=
    groupNumber?_toString hn (n.toInt_lt.trans (by decide))
  rw [get?, if_pos (isNumericName_toString hn), group?, hasCaptures_eq, groupValue]
  rcases env.layers.findSome? Layer.captures? with _ | _ | m
  · rfl
  · rfl
  · rw [hnumber]
    rfl

end Environment

namespace Evaluator

open EvalM

variable {E : Evaluator} {k : Nat} {s : State}

/-! ## Reading variables -/

/-- In this state a variable is read with this result, by itself and as a segment of a text. By
itself it leaves the state as it is. A text puts the value between what stands before it and what
stands after it; a failure ends the text. The error is at the variable or the segment. -/
structure Reads (E : Evaluator) (k : Nat) (spelling : Form) (s : State)
    (r : Except Cause Value) : Prop where
  alone : ∀ inner place, E.eval k ⟨.variable ⟨spelling, inner⟩, place⟩ s =
    some (r.mapError fun cause => (EvalError.ofCause cause).withNode "Variable" place, s)
  inText : ∀ before after inner place whole start text,
    E.evalText (E.invoke k) before start = some (.ok text, s) →
    E.eval k ⟨.interpolation (before ++ ⟨.text ⟨spelling, inner⟩, place⟩ :: after), whole⟩ start =
      match r with
      | .ok v => (do
          let rest ← E.evalText (E.invoke k) after
          pure (Value.string (text ++ v.interpolated ++ rest))) s
      | .error cause => some (.error ((EvalError.ofCause cause).withNode "Text" place), s)

/-- A text with a segment in the middle is put together from three. -/
theorem eval_interpolation_append (before after : List Expr) (segment : Expr) (whole : Span) :
    E.eval k ⟨.interpolation (before ++ segment :: after), whole⟩ = (do
      let text ← E.evalText (E.invoke k) before
      let v ← E.evalSegment (E.invoke k) segment
      let rest ← E.evalText (E.invoke k) after
      pure (Value.string (text ++ v.interpolated ++ rest))) := by
  rw [eval, evalExpr_interpolation, evalText_append]
  simp only [evalText, evalSegments, bind_assoc, pure_bind, String.join_cons, String.append_assoc]

/-- A variable that is spelled with a name or a number is read as it is looked up. -/
theorem reads_of_lookup {spelling : Form} {r : Except Cause Value}
    (hspelling : ∀ inner place, E.evalSegment (E.invoke k) ⟨.text ⟨spelling, inner⟩, place⟩ =
      located "Text" place (E.lookupVariable ⟨spelling, inner⟩))
    (hlookup : ∀ inner, E.lookupVariable ⟨spelling, inner⟩ s =
      some (r.mapError EvalError.ofCause, s)) :
    E.Reads k spelling s r where
  alone inner place := by
    change located "Variable" place (E.lookupVariable ⟨spelling, inner⟩) s = _
    rw [located, hlookup]
    cases r <;> rfl
  inText before after inner place whole start text htext := by
    have hsegment : E.evalSegment (E.invoke k) ⟨.text ⟨spelling, inner⟩, place⟩ s =
        some (r.mapError fun cause => (EvalError.ofCause cause).withNode "Text" place, s) := by
      rw [hspelling, located, hlookup]
      cases r <;> rfl
    rw [eval_interpolation_append, bind_of_ok htext, bind_apply, hsegment]
    cases r <;> rfl

/-- There is only one result. -/
theorem Reads.unique {spelling : Form} {r r' : Except Cause Value} (h : E.Reads k spelling s r)
    (h' : E.Reads k spelling s r') : r = r' := by
  have hsame := (h.alone ⟨0, 0⟩ ⟨0, 0⟩).symm.trans (h'.alone ⟨0, 0⟩ ⟨0, 0⟩)
  cases r <;> cases r' <;> cases hsame <;> rfl

/-- A name is read as what it stands for. -/
theorem reads_name (E : Evaluator) (k : Nat) (name : String) (s : State) :
    E.Reads k (.qualifiedName name) s
      (match s.env.get? name with
        | some v => .ok v
        | none =>
          if E.mode.strictVariables then .error (.unknownVariable name) else .ok .absent) := by
  refine reads_of_lookup (fun _ _ => rfl) fun inner => ?_
  change (match s.env.get? name with
    | some v => pure v
    | none => if E.mode.strictVariables then failWith (.unknownVariable name) else pure .absent :
      EvalM Value) s = _
  cases s.env.get? name with
  | some v => rfl
  | none => cases E.mode.strictVariables <;> rfl

/-- A number is read as its group, or as nothing. -/
theorem reads_number {n : Int64} (hn : 0 ≤ n.toInt) (E : Evaluator) (k : Nat) (s : State) :
    E.Reads k (.literal (.integer n)) s (.ok (s.env.groupValue n.toInt.toNat)) := by
  have hname : variableName? (.literal (.integer n)) = some (toString n.toInt) := if_pos hn
  have hgroup : (s.env.get? (toString n.toInt)).getD .absent =
      s.env.groupValue n.toInt.toNat := by
    rw [Environment.get?_number hn]
    cases hcaptures : s.env.hasCaptures with
    | true => rfl
    | false => exact (Environment.groupValue_of_noCaptures hcaptures _).symm
  refine reads_of_lookup (fun _ _ => rfl) fun inner => ?_
  rw [lookupVariable]
  simp only [hname]
  exact congrArg (fun v => some (Except.ok v, s)) hgroup

/-- So are its digits, unless there are no captures and variables are strict. -/
theorem reads_digits {n : Int64} (hn : 0 ≤ n.toInt) (E : Evaluator) (k : Nat) (s : State) :
    E.Reads k (.qualifiedName (toString n.toInt)) s
      (if E.mode.strictVariables && !s.env.hasCaptures
        then .error (.unknownVariable (toString n.toInt))
        else .ok (s.env.groupValue n.toInt.toNat)) := by
  have hread := E.reads_name k (toString n.toInt) s
  rw [Environment.get?_number hn] at hread
  cases hcaptures : s.env.hasCaptures with
  | true =>
    rw [hcaptures] at hread
    rwa [Bool.not_true, Bool.and_false]
  | false =>
    rw [hcaptures] at hread
    rwa [Bool.not_false, Bool.and_true, Environment.groupValue_of_noCaptures hcaptures]

/-- A name is rejected as unknown only where variables are strict, and if it stands for nothing. -/
theorem reads_unknown_iff (E : Evaluator) (k : Nat) (name : String) (s : State) :
    E.Reads k (.qualifiedName name) s (.error (.unknownVariable name)) ↔
      E.mode.strictVariables = true ∧ s.env.get? name = none := by
  have hread := E.reads_name k name s
  constructor
  · intro h
    have hsame := h.unique hread
    split at hsame
    · cases hsame
    · next hunknown =>
      split at hsame
      · next hstrict => exact ⟨hstrict, hunknown⟩
      · cases hsame
  · rintro ⟨hstrict, hunknown⟩
    rw [hunknown, hstrict] at hread
    exact hread

/-- **Numbered variables**: a number that is not negative is read as its group, in every state, and
never fails. Its digits are read as the same, except where variables are strict and no match has
been tried: there they are rejected as an unknown variable. Under strict variables any name is
rejected that stands for nothing, and no other. -/
theorem reads_numbered (E : Evaluator) (k : Nat) {n : Int64} (hn : 0 ≤ n.toInt) (s : State) :
    E.Reads k (.literal (.integer n)) s (.ok (s.env.groupValue n.toInt.toNat)) ∧
    E.Reads k (.qualifiedName (toString n.toInt)) s
      (if E.mode.strictVariables && !s.env.hasCaptures
        then .error (.unknownVariable (toString n.toInt))
        else .ok (s.env.groupValue n.toInt.toNat)) ∧
    ∀ name, E.Reads k (.qualifiedName name) s (.error (.unknownVariable name)) ↔
      E.mode.strictVariables = true ∧ s.env.get? name = none :=
  ⟨reads_number hn E k s, reads_digits hn E k s, fun name => E.reads_unknown_iff k name s⟩

/-- The text `<${1}>`, where the variable may be spelled with a number or with a name. -/
def groupInText (spelling : Form) : Expr :=
  ⟨.interpolation [⟨.literal (.string "<"), ⟨1, 2⟩⟩, ⟨.text ⟨spelling, ⟨4, 5⟩⟩, ⟨2, 6⟩⟩,
    ⟨.literal (.string ">"), ⟨6, 7⟩⟩], ⟨0, 8⟩⟩

/-- A state in which `"ab"` has been matched by `a(b)`. -/
def oneGroup : State :=
  .initial ((Environment.ofGlobals []).setCaptures (some ⟨[some "ab", some "b"]⟩))

/-- After a match, both spellings of the first group put its text into a longer one. -/
theorem reads_numbered_first :
    0 ≤ (1 : Int64).toInt ∧
    Library.evaluator.eval 0 (groupInText (.literal (.integer 1))) oneGroup =
      some (.ok (.string "<b>"), oneGroup) ∧
    Library.evaluator.eval 0 (groupInText (.qualifiedName "1")) oneGroup =
      some (.ok (.string "<b>"), oneGroup) := by
  obtain ⟨hnumber, hname, -⟩ := reads_numbered Library.evaluator 0 (n := 1) (by decide) oneGroup
  refine ⟨by decide, ?_, ?_⟩
  · exact hnumber.inText [⟨.literal (.string "<"), ⟨1, 2⟩⟩] [⟨.literal (.string ">"), ⟨6, 7⟩⟩]
      ⟨4, 5⟩ ⟨2, 6⟩ ⟨0, 8⟩ oneGroup "<" rfl
  · exact hname.inText [⟨.literal (.string "<"), ⟨1, 2⟩⟩] [⟨.literal (.string ">"), ⟨6, 7⟩⟩]
      ⟨4, 5⟩ ⟨2, 6⟩ ⟨0, 8⟩ oneGroup "<" rfl

/-- Where nothing is bound and no match has been tried, the name `1` is rejected, but the number is
not. -/
theorem numbered_spellings_differ :
    (∃ e, Library.evaluator.eval 0 ⟨.variable ⟨.qualifiedName "1", ⟨1, 2⟩⟩, ⟨0, 2⟩⟩ nothingBound =
      some (.error e, nothingBound)) ∧
    Library.evaluator.eval 0 ⟨.variable ⟨.literal (.integer 1), ⟨1, 2⟩⟩, ⟨0, 2⟩⟩ nothingBound =
      some (.ok .absent, nothingBound) :=
  ⟨⟨_, rfl⟩, rfl⟩

end Evaluator

end Manifest
