import Manifest.Proofs.Assignment

/-!
# Assigning to reserved names

Names that belong to a namespace or to a captured group are *reserved*: they may not be bound. An
expression that names one, alone or inside a list (`NamesReserved`), can nevertheless stand on the
left of an assignment that succeeds, because a name is only looked at when it is about to be bound
(`Evaluator.reserved_spared`). This happens in three cases (`Evaluator.Spared`):

* a list takes an array that ends before the name's turn, so that the name is not reached;
* something is added to a variable without a value, which gives just that;
* something is removed from a variable without a value, which gives nothing.

Otherwise such an assignment fails, whatever the right side gives
(`Evaluator.eval_assignment_reserved`).
-/

namespace Manifest

/-! ## Names of targets -/

/-- A name occurs in a target. -/
inductive Target.Names : Target → String → Prop
  | own (name : String) : Names (.variable name) name
  | member {targets : List Target} {target : Target} {name : String} (mem : target ∈ targets)
    (names : target.Names name) : Names (.list targets) name

namespace Target

/-- Only an array can have nothing for a member of a list: every other value has a part for it, the
value under a name or the whole. -/
theorem part?_of_not_array {value : Value} (h : ∀ items, value ≠ .array items) (target : Target) :
    ∃ part, (∀ i, target.part? value i = some part) ∧
      (part = value ∨ ∃ name, target = .variable name) := by
  cases value with
  | array items => exact absurd rfl (h items)
  | hash entries =>
    rcases target with name | targets
    · exact ⟨_, fun _ => rfl, .inr ⟨name, rfl⟩⟩
    · exact ⟨_, fun _ => rfl, .inl rfl⟩
  | _ => cases target <;> exact ⟨_, fun _ => rfl, .inl rfl⟩

/-- What a member binds is bound by the list. -/
theorem mem_memberBindings {target : Target} {value part : Value} {b : String × Value}
    (hpart : ∀ i, target.part? value i = some part) (hb : b ∈ target.bindings part)
    {targets : List Target} (hmem : target ∈ targets) (i : Nat) :
    b ∈ memberBindings targets value i := by
  induction targets generalizing i with
  | nil => cases hmem
  | cons head rest ih =>
    rw [memberBindings, List.mem_append]
    rcases List.mem_cons.1 hmem with rfl | hrest
    · rw [hpart i]
      exact .inl hb
    · exact .inr (ih hrest (i + 1))

/-- Every name of a target is reached, unless the value is an array. -/
theorem Names.mem_bindings {target : Target} {name : String} (h : target.Names name)
    {value : Value} (hvalue : ∀ items, value ≠ .array items) :
    ∃ part, (name, part) ∈ target.bindings value := by
  induction h with
  | own name => exact ⟨value, List.mem_singleton_self _⟩
  | @member targets target name hmem hnames ih =>
    obtain ⟨part, hpart, rfl | ⟨_, rfl⟩⟩ := part?_of_not_array hvalue target
    · obtain ⟨under, hunder⟩ := ih
      exact ⟨under, mem_memberBindings hpart hunder hmem 0⟩
    · cases hnames
      exact ⟨part, mem_memberBindings hpart (List.mem_singleton_self _) hmem 0⟩

/-- The targets of expressions contain the target of each one. -/
theorem ofExpr_of_mem {es : List Expr} {targets : List Target} (h : ofExprs es = .ok targets)
    {e : Expr} (he : e ∈ es) : ∃ target ∈ targets, ofExpr e = .ok target := by
  induction es generalizing targets with
  | nil => cases he
  | cons head rest ih =>
    rw [ofExprs] at h
    rcases hhead : ofExpr head with err | first <;> rw [hhead] at h
    · cases h
    · rcases hrest : ofExprs rest with err | others <;> rw [hrest] at h <;> cases h
      rcases List.mem_cons.1 he with rfl | hin
      · exact ⟨first, List.mem_cons_self, hhead⟩
      · obtain ⟨target, htarget, hof⟩ := ih hrest hin
        exact ⟨target, List.mem_cons_of_mem _ htarget, hof⟩

end Target

/-! ## Reserved names -/

/-- An expression is, or is a list that contains at any depth, a variable with a reserved name: one
with two colons in it, one of digits only, or a number. -/
inductive NamesReserved : Expr → Prop
  | qualified {name : String} {place span : Span} (colons : isQualifiedName name = true) :
    NamesReserved ⟨.variable ⟨.qualifiedName name, place⟩, span⟩
  | numeric {name : String} {place span : Span} (digits : isNumericName name = true) :
    NamesReserved ⟨.variable ⟨.qualifiedName name, place⟩, span⟩
  | number (n : Int64) (place span : Span) :
    NamesReserved ⟨.variable ⟨.literal (.integer n), place⟩, span⟩
  | member {items : List Expr} {e : Expr} {span : Span} (mem : e ∈ items)
    (names : NamesReserved e) : NamesReserved ⟨.list items, span⟩

/-- A number that is not negative is written in digits. -/
theorem isNumericName_toString {n : Int} (hn : 0 ≤ n) : isNumericName (toString n) = true := by
  obtain ⟨k, rfl⟩ := Int.eq_ofNat_of_zero_le hn
  have hdigits : (toString (k : Int)).toList = Nat.toDigits 10 k := String.toList_ofList
  rw [isNumericName, hdigits, Bool.and_eq_true, List.all_eq_true]
  refine ⟨?_, fun c hc => Nat.isDigit_of_mem_toDigits (by decide) (by decide) hc⟩
  rw [Bool.not_eq_true', List.isEmpty_eq_false_iff]
  exact Nat.toDigits_ne_nil

/-- The target of a variable. -/
theorem Target.ofExpr_variable_eq_ok {inner : Expr} {span : Span} {target : Target}
    (h : Target.ofExpr ⟨.variable inner, span⟩ = .ok target) :
    ∃ name, variableName? inner.form = some name ∧ target = .variable name := by
  rw [Target.ofExpr, Target.ofForm] at h
  rcases hname : variableName? inner.form with _ | name <;> rw [hname] at h <;> cases h
  exact ⟨name, rfl, rfl⟩

/-- If an expression with a reserved name denotes a target, then that name occurs in it. -/
theorem NamesReserved.names {e : Expr} (h : NamesReserved e) {target : Target}
    (htarget : Target.ofExpr e = .ok target) :
    ∃ name, target.Names name ∧ isBindable name = false := by
  induction h generalizing target with
  | qualified colons =>
    obtain ⟨name, hname, rfl⟩ := Target.ofExpr_variable_eq_ok htarget
    cases hname
    exact ⟨_, .own _, by rw [isBindable, colons]; rfl⟩
  | numeric digits =>
    obtain ⟨name, hname, rfl⟩ := Target.ofExpr_variable_eq_ok htarget
    cases hname
    exact ⟨_, .own _, by rw [isBindable, digits, Bool.not_true, Bool.and_false]⟩
  | number n place span =>
    obtain ⟨name, hname, rfl⟩ := Target.ofExpr_variable_eq_ok htarget
    rw [variableName?] at hname
    split at hname
    · next hn =>
      cases hname
      refine ⟨_, .own _, ?_⟩
      rw [isBindable, isNumericName_toString hn, Bool.not_true, Bool.and_false]
    · cases hname
  | @member items e span hmem hnames ih =>
    rw [Target.ofExpr, Target.ofForm] at htarget
    rcases hitems : Target.ofExprs items with err | targets <;> rw [hitems] at htarget <;>
      cases htarget
    obtain ⟨inner, hinner, hof⟩ := Target.ofExpr_of_mem hitems hmem
    obtain ⟨name, hname, hreserved⟩ := ih hof
    exact ⟨name, .member hinner hname, hreserved⟩

/-! ## Assignments that succeed -/

namespace Evaluator

open EvalM

variable {E : Evaluator} {n : Nat} {left right : Expr} {span : Span} {s t : State} {v : Value}

/-- An assignment succeeds if its target could be found, its right side succeeds, and the value can
be assigned. -/
theorem eval_assign_eq_ok :
    E.eval n ⟨.assignment .assign left right, span⟩ s = some (.ok v, t) ↔
      ∃ target w u, Target.ofExpr left = .ok target ∧ E.eval n right s = some (.ok w, u) ∧
        assignTarget target w u = some (.ok v, t) := by
  refine located_eq_ok.trans ?_
  rw [evalForm_assign, ofExcept_bind_eq_ok]
  constructor
  · rintro ⟨target, hfound, hrest⟩
    obtain ⟨w, u, hright, hassign⟩ := bind_eq_ok.1 hrest
    exact ⟨target, w, u, hfound, hright, hassign⟩
  · rintro ⟨target, w, u, hfound, hright, hassign⟩
    exact ⟨target, hfound, bind_eq_ok.2 ⟨w, u, hright, hassign⟩⟩

/-- The name of a compound assignment is that of a single variable. -/
theorem compoundName_eq_ok {name : String} :
    compoundName left = .ok name ↔ Target.ofExpr left = .ok (.variable name) := by
  rw [compoundName]
  rcases Target.ofExpr left with e | name' | targets <;> simp

/-- A compound assignment succeeds if its name could be found, its right side succeeds, and the
value can be combined. -/
theorem eval_compound_eq_ok {op : ArithmeticOp} :
    E.eval n ⟨.assignment (.compound op) left right, span⟩ s = some (.ok v, t) ↔
      isCompound op = true ∧ ∃ name w u, Target.ofExpr left = .ok (.variable name) ∧
        E.eval n right s = some (.ok w, u) ∧
        assignCompound (.compound op) op name w u = some (.ok v, t) := by
  refine located_eq_ok.trans ?_
  rw [evalForm_compound]
  cases isCompound op with
  | false => exact ⟨fun h => (by cases h), fun h => by cases h.1⟩
  | true =>
    rw [if_pos rfl, ofExcept_bind_eq_ok]
    constructor
    · rintro ⟨name, hname, hrest⟩
      obtain ⟨w, u, hright, hassign⟩ := bind_eq_ok.1 hrest
      exact ⟨rfl, name, w, u, compoundName_eq_ok.1 hname, hright, hassign⟩
    · rintro ⟨-, name, w, u, hfound, hright, hassign⟩
      exact ⟨name, compoundName_eq_ok.2 hfound, bind_eq_ok.2 ⟨w, u, hright, hassign⟩⟩

section Compound

variable {op : AssignOp} {arith : ArithmeticOp} {name : String} {value : Value}

theorem read_variable (name : String) (s : State) :
    EvalM.read (·.env.get? name) s = some (.ok (s.env.get? name), s) :=
  rfl

/-- A variable without a value is left alone. -/
theorem assignCompound_of_unset (h : (s.env.get? name).getD .absent = .absent) :
    assignCompound op arith name value s =
      some (.ok (if arith = .add then value else .absent), s) := by
  rw [assignCompound, bind_of_ok (read_variable name s), h]
  rfl

/-- A variable with a value is combined with another value and then bound. -/
theorem assignCompound_of_set (h : (s.env.get? name).getD .absent ≠ .absent) :
    assignCompound op arith name value s =
      (ofExcept (compoundValue op arith ((s.env.get? name).getD .absent) value) >>=
        assignTarget (.variable name)) s := by
  rw [assignCompound, bind_of_ok (read_variable name s)]
  generalize (s.env.get? name).getD .absent = current at h ⊢
  cases current with
  | absent => exact absurd rfl h
  | _ => rfl

/-- Combining a reserved name with a value succeeds only if the name has no value. -/
theorem assignCompound_eq_ok (hname : isBindable name = false) :
    assignCompound op arith name value s = some (.ok v, t) ↔
      (s.env.get? name).getD .absent = .absent ∧
        v = (if arith = .add then value else .absent) ∧ t = s := by
  by_cases hcurrent : (s.env.get? name).getD .absent = .absent
  · rw [assignCompound_of_unset hcurrent]
    refine ⟨fun h => ?_, fun ⟨_, hv, ht⟩ => by rw [hv, ht]⟩
    cases h
    exact ⟨hcurrent, rfl, rfl⟩
  · rw [assignCompound_of_set hcurrent, ofExcept_bind_eq_ok]
    refine ⟨fun ⟨combined, _, hassign⟩ => ?_, fun h => absurd h.1 hcurrent⟩
    -- the name is looked at here, when it is about to be bound
    have hbindable := (assignTarget_eq_ok.1 hassign).1 (name, combined) (List.mem_singleton_self _)
    rw [hname] at hbindable
    cases hbindable

/-- Combining a name with a value has an outcome. -/
theorem isSome_assignCompound (op : AssignOp) (arith : ArithmeticOp) (name : String)
    (value : Value) (s : State) : (assignCompound op arith name value s).isSome = true := by
  by_cases hcurrent : (s.env.get? name).getD .absent = .absent
  · rw [assignCompound_of_unset hcurrent]
    rfl
  · rw [assignCompound_of_set hcurrent]
    refine isSome_bind (isSome_ofExcept _ s) fun combined u _ => ?_
    rw [assignTarget_apply]
    rfl

end Compound

/-- An assignment ends if its right side does. -/
theorem isSome_eval_assignment (h : (E.eval n right s).isSome = true) (op : AssignOp)
    (left : Expr) (span : Span) :
    (E.eval n ⟨.assignment op left right, span⟩ s).isSome = true := by
  refine isSome_located.trans ?_
  cases op with
  | assign =>
    rw [evalForm_assign]
    refine isSome_bind (isSome_ofExcept _ s) fun target u hleft => ?_
    obtain ⟨-, rfl⟩ := ofExcept_eq_ok.1 hleft
    refine isSome_bind h fun w t _ => ?_
    rw [assignTarget_apply]
    rfl
  | compound op =>
    rw [evalForm_compound]
    split
    · refine isSome_bind (isSome_ofExcept _ s) fun name u hleft => ?_
      obtain ⟨-, rfl⟩ := ofExcept_eq_ok.1 hleft
      exact isSome_bind h fun w t _ => isSome_assignCompound _ op name w t
    · rfl

/-! ## Reserved names that are spared -/

/-- The variable `$a::b`. -/
def qualifiedVariable : Expr :=
  ⟨.variable ⟨.qualifiedName "a::b", ⟨0, 5⟩⟩, ⟨0, 5⟩⟩

/-- The list `[$1]`. -/
def groupList : Expr :=
  ⟨.list [⟨.variable ⟨.literal (.integer 1), ⟨1, 3⟩⟩, ⟨1, 3⟩⟩], ⟨0, 4⟩⟩

/-- Neither `$a::b += 1` nor `[$1] = []` fails, though both assign to reserved names. -/
theorem reserved_spared :
    NamesReserved qualifiedVariable ∧
      Library.evaluator.eval 0
          ⟨.assignment (.compound .add) qualifiedVariable ⟨.literal (.integer 1), ⟨9, 10⟩⟩, ⟨0, 10⟩⟩
          nothingBound = some (.ok (.integer 1), nothingBound) ∧
      NamesReserved groupList ∧
      Library.evaluator.eval 0 ⟨.assignment .assign groupList ⟨.list [], ⟨7, 9⟩⟩, ⟨0, 9⟩⟩
          nothingBound = some (.ok (.array []), nothingBound) :=
  ⟨.qualified rfl, rfl, .member List.mem_cons_self (.number 1 _ _), rfl⟩

/-- How an assignment to a reserved name succeeds after all: from the value of the right side and
the state in which it was there, to the value of the assignment and the state afterwards. -/
inductive Spared (left : Expr) : AssignOp → Value → State → Value → State → Prop
  /-- an array ends before the name's turn, and the names that are reached are bound -/
  | unreached {targets : List Target} {items : List Value} {u : State}
    (found : Target.ofExpr left = .ok (.list targets))
    (bindable : ∀ b ∈ (Target.list targets).bindings (.array items), isBindable b.1 = true) :
    Spared left .assign (.array items) u (.array items)
      { u with env := u.env.setAll ((Target.list targets).bindings (.array items)) }
  /-- something is added to a variable without a value -/
  | addUnset {name : String} {value : Value} {u : State}
    (found : Target.ofExpr left = .ok (.variable name))
    (unset : (u.env.get? name).getD .absent = .absent) :
    Spared left (.compound .add) value u value u
  /-- something is removed from a variable without a value -/
  | removeUnset {name : String} {value : Value} {u : State}
    (found : Target.ofExpr left = .ok (.variable name))
    (unset : (u.env.get? name).getD .absent = .absent) :
    Spared left (.compound .sub) value u .absent u

/-- An assignment by `=` to a reserved name can succeed only if its value is an array that ends
before the name is reached. -/
theorem spared_of_bindable (hreserved : NamesReserved left) {target : Target} {value : Value}
    (hfound : Target.ofExpr left = .ok target)
    (hall : ∀ b ∈ target.bindings value, isBindable b.1 = true) (u : State) :
    Spared left .assign value u value
      { u with env := u.env.setAll (target.bindings value) } := by
  obtain ⟨name, hnames, hname⟩ := hreserved.names hfound
  have hreached : ¬ ∃ part, (name, part) ∈ target.bindings value := by
    rintro ⟨part, hmem⟩
    have hbindable := hall (name, part) hmem
    rw [hname] at hbindable
    cases hbindable
  by_cases hvalue : ∃ items, value = .array items
  · obtain ⟨items, rfl⟩ := hvalue
    cases hnames with
    | own => exact absurd ⟨_, List.mem_singleton_self _⟩ hreached
    | member => exact .unreached hfound hall
  · exact absurd (hnames.mem_bindings fun items h => hvalue ⟨items, h⟩) hreached

/-- **Reserved names are rejected unless they are spared**: if an expression names one, an
assignment to it succeeds exactly when its right side does and one of the three exceptions applies.
In all other cases it fails, provided that the right side ends. -/
theorem eval_assignment_reserved (hreserved : NamesReserved left) (op : AssignOp) (right : Expr)
    (span : Span) (n : Nat) (s : State) :
    (∀ v t, E.eval n ⟨.assignment op left right, span⟩ s = some (.ok v, t) ↔
      ∃ w u, E.eval n right s = some (.ok w, u) ∧ Spared left op w u v t) ∧
    ((E.eval n right s).isSome = true →
      (E.eval n ⟨.assignment op left right, span⟩ s).isSome = true) := by
  refine ⟨fun v t => ⟨fun h => ?_, ?_⟩, fun h => isSome_eval_assignment h op left span⟩
  · cases op with
    | assign =>
      obtain ⟨target, w, u, hfound, hright, hassign⟩ := eval_assign_eq_ok.1 h
      obtain ⟨hall, rfl, rfl⟩ := assignTarget_eq_ok.1 hassign
      exact ⟨v, u, hright, spared_of_bindable hreserved hfound hall u⟩
    | compound op =>
      obtain ⟨hop, name, w, u, hfound, hright, hassign⟩ := eval_compound_eq_ok.1 h
      -- the only name that occurs in a variable is its own
      obtain ⟨_, hnames, hname⟩ := hreserved.names hfound
      cases hnames
      obtain ⟨hunset, rfl, rfl⟩ := (assignCompound_eq_ok hname).1 hassign
      refine ⟨w, t, hright, ?_⟩
      cases op with
      | add => exact .addUnset hfound hunset
      | sub => exact .removeUnset hfound hunset
      | _ => cases hop
  · rintro ⟨w, u, hright, hspared⟩
    cases hspared with
    | unreached hfound hall =>
      exact eval_assign_eq_ok.2
        ⟨_, _, _, hfound, hright, assignTarget_eq_ok.2 ⟨hall, rfl, rfl⟩⟩
    | addUnset hfound hunset =>
      exact eval_compound_eq_ok.2
        ⟨rfl, _, _, _, hfound, hright, assignCompound_of_unset hunset⟩
    | removeUnset hfound hunset =>
      exact eval_compound_eq_ok.2
        ⟨rfl, _, _, _, hfound, hright, assignCompound_of_unset hunset⟩

/-- The list `[$a, [$x::y]]`. -/
def nestedList : Expr :=
  ⟨.list [⟨.variable ⟨.qualifiedName "a", ⟨1, 3⟩⟩, ⟨1, 3⟩⟩,
    ⟨.list [⟨.variable ⟨.qualifiedName "x::y", ⟨6, 11⟩⟩, ⟨6, 11⟩⟩], ⟨5, 12⟩⟩], ⟨0, 13⟩⟩

/-- A number reaches every name, so that `[$a, [$x::y]] = 3` fails. -/
theorem eval_assignment_reserved_nested : NamesReserved nestedList ∧
    ∃ e t, Library.evaluator.eval 0
      ⟨.assignment .assign nestedList ⟨.literal (.integer 3), ⟨16, 17⟩⟩, ⟨0, 17⟩⟩ nothingBound =
        some (.error e, t) := by
  have hreserved : NamesReserved nestedList :=
    .member (List.mem_cons_of_mem _ List.mem_cons_self)
      (.member List.mem_cons_self (.qualified rfl))
  obtain ⟨hok, hends⟩ := eval_assignment_reserved (E := Library.evaluator) hreserved .assign
    ⟨.literal (.integer 3), ⟨16, 17⟩⟩ ⟨0, 17⟩ 0 nothingBound
  obtain ⟨⟨r, t⟩, hrun⟩ := Option.isSome_iff_exists.1 (hends rfl)
  refine ⟨hreserved, ?_⟩
  cases r with
  | error e => exact ⟨e, t, hrun⟩
  | ok v =>
    obtain ⟨w, u, hright, hspared⟩ := (hok v t).1 hrun
    cases hright
    cases hspared

end Evaluator

end Manifest
