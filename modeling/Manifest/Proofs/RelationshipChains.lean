import Manifest.Proofs.Choices
import Manifest.Proofs.Law
import Manifest.Proofs.Library
import Manifest.Proofs.Parameters
import Manifest.Proofs.RegionLogic

/-!
# Chains of relationships

In `a -> b <~ c` every operator relates the operand before it to the one after it, whichever way it
points, and hands on the one after it. So a chain records the edges between neighbours, from left to
right, and comes to its last operand. If an operand fails, the edges between those before it have
been recorded.

* `RelationshipOp.relates` — the edges that an operator asks for, written out for each operator.
* `Expr.chain`, `chainEdges` — a chain, and the edges between the values of its operands.
* `EvalM.Edgeless` — a step has an outcome that neither depends on the edges nor changes them.
* `Evaluator.eval_edgeless` — expressions without relationships and calls are such steps.
* `Evaluator.eval_chain` — what a chain of such operands comes to, and what it records.
-/

namespace Manifest

/-! ## Edges -/

/-- An edge from each resource of one operand to each resource of another one. -/
def edgesFromTo (kind : EdgeKind) (source target : Value) : List Edge :=
  (source.resources.product target.resources).map fun (s, t) => ⟨s, t, kind⟩

namespace RelationshipOp

/-- The edges that an operator asks for: `->` and `~>` have their source on the left, `<-` and `<~`
on the right, and the waves notify. -/
def relates : RelationshipOp → (left right : Value) → List Edge
  | .before, left, right => edgesFromTo .before left right
  | .notifies, left, right => edgesFromTo .notify left right
  | .after, left, right => edgesFromTo .before right left
  | .subscribes, left, right => edgesFromTo .notify right left

theorem edges_eq_relates (op : RelationshipOp) (left right : Value) :
    op.edges left right = op.relates left right := by
  cases op <;> simp [edges, sourceOnLeft, edgeKind, relates, edgesFromTo, List.product,
    List.map_flatMap, Function.comp_def]

end RelationshipOp

/-- The edges between neighbours: the first operator relates the first two values, the next one the
second and the third, and so on. -/
def chainEdges : List RelationshipOp → List Value → List Edge
  | op :: ops, left :: right :: rest => op.relates left right ++ chainEdges ops (right :: rest)
  | _, _ => []

theorem chainEdges_nil (ops : List RelationshipOp) : chainEdges ops [] = [] := by
  cases ops <;> rfl

/-- Operators that no value follows have no edges. -/
theorem chainEdges_append {ops : List RelationshipOp} {left : Value} {rest : List Value}
    (h : rest.length = ops.length) (more : List RelationshipOp) :
    chainEdges (ops ++ more) (left :: rest) = chainEdges ops (left :: rest) := by
  induction ops generalizing left rest with
  | nil =>
    obtain rfl := List.length_eq_zero_iff.1 h
    cases more <;> rfl
  | cons op ops ih =>
    cases rest with
    | nil => cases h
    | cons right rest =>
      exact congrArg (op.relates left right ++ ·) (ih (Nat.succ.inj h))

/-! ## Chains -/

/-- An operator and the operand after it. -/
structure Link where
  /-- the operator -/
  op : RelationshipOp
  /-- its right operand -/
  operand : Expr
  /-- where the relationship stands that ends with this operand -/
  place : Span

/-- The chain `first op₁ e₁ op₂ e₂ …`, nested to the left. -/
def Expr.chain (first : Expr) (links : List Link) : Expr :=
  links.foldl (fun left link => ⟨.relationship link.op left link.operand, link.place⟩) first

/-! ## Steps without edges -/

/-- The state with other edges. -/
def State.withEdges (s : State) (edges : List Edge) : State :=
  { s with edges := edges }

theorem State.notePattern_withEdges (s : State) (source : String) (edges : List Edge) :
    (s.withEdges edges).notePattern source = (s.notePattern source).withEdges edges := by
  rw [notePattern, notePattern, apply_ite (withEdges · edges)]
  rfl

namespace EvalM

variable {α β : Type} {m : EvalM α}

/-- A step has an outcome, and the same one whatever the edges are, which it leaves as they are. -/
def Edgeless (m : EvalM α) : Prop :=
  ∀ s : State, ∃ r, ∃ t : State, ∀ edges, m (s.withEdges edges) = some (r, t.withEdges edges)

theorem Edgeless.exists_eq_some (hm : Edgeless m) (s : State) : ∃ r t, m s = some (r, t) :=
  have ⟨r, t, hrun⟩ := hm s
  ⟨r, t.withEdges s.edges, hrun s.edges⟩

theorem Edgeless.withEdges (hm : Edgeless m) {s t : State} {r : Except EvalError α}
    (h : m s = some (r, t)) (edges : List Edge) :
    m (s.withEdges edges) = some (r, t.withEdges edges) := by
  obtain ⟨r', t', hrun⟩ := hm s
  cases h.symm.trans (hrun s.edges)
  exact hrun edges

/-- A step is edgeless if it only reads and changes the environment. -/
theorem edgeless_of_env (f : Environment → Except EvalError α × Environment)
    (h : ∀ s, m s = some ((f s.env).1, { s with env := (f s.env).2 })) : Edgeless m :=
  fun s => ⟨(f s.env).1, { s with env := (f s.env).2 }, fun edges => h (s.withEdges edges)⟩

theorem edgeless_compile (engine : RegexEngine) (source : String) :
    Edgeless (compile engine source) := by
  intro s
  cases hsource : Regex.ofSource source with
  | error cause => exact ⟨_, s, fun _ => by rw [compile, hsource]⟩
  | ok r =>
    exact ⟨.ok r, s.notePattern source, fun edges => by
      rw [compile, hsource, ← State.notePattern_withEdges]⟩

theorem Edgeless.bind {f : α → EvalM β} (hm : Edgeless m) (hf : ∀ a, Edgeless (f a)) :
    Edgeless (m >>= f) := by
  intro s
  obtain ⟨_ | a, t, hrun⟩ := hm s
  · exact ⟨_, t, fun edges => by rw [bind_apply, hrun]⟩
  · obtain ⟨r, u, hnext⟩ := hf a t
    exact ⟨r, u, fun edges => by rw [bind_of_ok (hrun edges), hnext]⟩

theorem Edgeless.located (hm : Edgeless m) (kind : String) (span : Span) :
    Edgeless (located kind span m) := by
  intro s
  obtain ⟨_ | a, t, hrun⟩ := hm s
  · exact ⟨_, t, fun edges => located_of_error (hrun edges) kind span⟩
  · exact ⟨.ok a, t, fun edges => located_eq_ok.2 (hrun edges)⟩

theorem Edgeless.choice (hm : Edgeless m) :
    Edgeless (guarded (changeEnv (·.openFence) >>= fun _ => m)) := by
  intro s
  obtain ⟨r, t, hrun⟩ := hm s.fenced
  exact ⟨r, { t with env := t.env.restore s.env.level },
    fun edges => choice_of_fenced (s := s.withEdges edges) (hrun edges)⟩

/-- To be edgeless is a logic of steps for expressions without relationships and calls. -/
def edgelessLogic : RegionLogic .edgeFree where
  Rel _ := fun m _ => Edgeless m
  answer _ := edgeless_of_env (fun env => (.ok _, env)) fun _ => rfl
  raise _ := edgeless_of_env (fun env => (.error _, env)) fun _ => rfl
  lookup name := edgeless_of_env (fun env => (.ok (env.get? name), env)) fun _ => rfl
  compile := edgeless_compile
  captured h := absurd rfl h.2
  record h := absurd rfl h.1
  set _ name value _ := edgeless_of_env (fun env => (.ok (), env.set name value)) fun _ => rfl
  setCaptures _ m := edgeless_of_env (fun env => (.ok (), env.setCaptures m)) fun _ => rfl
  bind hm hf := hm.bind fun a => hf a (NodeSet.owns_all a)
  located _ hm := hm.located _ _
  choice hm := hm.choice

end EvalM

/-! ## Evaluation -/

namespace Evaluator

open EvalM

variable (E : Evaluator) (n : Nat)

/-- An expression without relationships and calls has an outcome. It neither depends on the edges
nor changes them. -/
theorem eval_edgeless {e : Expr} (he : e.EdgeFree) : Edgeless (E.eval n e) := by
  have hedgeless : edgelessLogic.Rel false (E.evalExpr (E.invoke n) e)
      ((E.under E.mode E.callLimit).evalExpr (E.invoke n) e) :=
    RegionLogic.rel_evalExpr (fun inner => edgelessLogic.rel_lookupVariable E inner)
      (fun h => absurd rfl h.2) he
  exact hedgeless

/-- Goes on with the next link of a chain, given the value before it. -/
def follow (left : Value) (link : Link) : EvalM Value := do
  let right ← E.eval n link.operand
  record (link.op.relates left right)
  pure right

/-- A relationship is followed from its left operand. -/
theorem eval_relationship (op : RelationshipOp) (left right : Expr) (place : Span) :
    E.eval n ⟨.relationship op left right, place⟩ =
      E.eval n left >>= fun v => E.follow n v ⟨op, right, place⟩ := by
  have hplaced : Placed (E.eval n left >>= fun v => E.follow n v ⟨op, right, place⟩) :=
    (E.placed_evalExpr _ left).bind fun _ => (E.placed_evalExpr _ right).bind fun _ =>
      fun _ _ _ h => by cases h
  rw [← hplaced.located_eq _ place]
  simp only [follow, ← RelationshipOp.edges_eq_relates]
  rfl

/-- The links of a chain are followed one after the other. -/
theorem eval_chain_eq (first : Expr) (links : List Link) :
    E.eval n (.chain first links) =
      E.eval n first >>= fun v => links.foldlM (E.follow n) v := by
  induction links generalizing first with
  | nil => exact (bind_pure _).symm
  | cons link rest ih =>
    rw [Expr.chain, List.foldl_cons, ← Expr.chain, ih, eval_relationship, bind_assoc]
    rfl

variable {E n}

/-- Followed as far as the operands give values, a chain hands on the last of them, and the edges
between neighbours have been recorded. -/
theorem follow_of_ok {links : List Link} (hlinks : ∀ l ∈ links, l.operand.EdgeFree) {left : Value}
    {vs : List Value} {s t : State}
    (h : (links.map (·.operand)).mapM (E.eval n) s = some (.ok vs, t)) (edges : List Edge) :
    links.foldlM (E.follow n) left (s.withEdges edges) =
      some (.ok (vs.getLast?.getD left),
        t.withEdges (edges ++ chainEdges (links.map (·.op)) (left :: vs))) := by
  induction links generalizing left vs s edges with
  | nil =>
    cases h
    exact congrArg (fun es => some (Except.ok left, t.withEdges es)) (List.append_nil edges).symm
  | cons link rest ih =>
    obtain ⟨hlink, hrest⟩ := List.forall_mem_cons.1 hlinks
    obtain ⟨right, u, vs, hright, hvs, rfl⟩ := mapM_cons_eq_ok.1 h
    have hfollow : E.follow n left link (s.withEdges edges) =
        some (.ok right, u.withEdges (edges ++ link.op.relates left right)) :=
      bind_of_ok ((E.eval_edgeless n hlink).withEdges hright edges) _
    rw [List.foldlM_cons, bind_of_ok hfollow, ih hrest hvs, List.append_assoc, List.getLast?_cons]
    rfl

/-- At the first operand that fails, so does the chain, once the edges between the operands before
it have been recorded. -/
theorem follow_of_error {done rest : List Link} {link : Link}
    (hdone : ∀ l ∈ done, l.operand.EdgeFree) (hlink : link.operand.EdgeFree) {left : Value}
    {vs : List Value} {s t u : State} {err : EvalError}
    (hvs : (done.map (·.operand)).mapM (E.eval n) s = some (.ok vs, u))
    (herr : E.eval n link.operand u = some (.error err, t)) (edges : List Edge) :
    (done ++ link :: rest).foldlM (E.follow n) left (s.withEdges edges) =
      some (.error err,
        t.withEdges (edges ++ chainEdges ((done ++ link :: rest).map (·.op)) (left :: vs))) := by
  have hcount : vs.length = (done.map (·.op)).length := by
    rw [length_of_mapM hvs, List.length_map, List.length_map]
  rw [List.foldlM_append, bind_of_ok (follow_of_ok hdone hvs edges), List.foldlM_cons, follow,
    bind_assoc, bind_apply, (E.eval_edgeless n hlink).withEdges herr, List.map_append,
    chainEdges_append hcount]

/-- Of expressions that are evaluated one after the other, some give these values, and the next one
fails. -/
def FailsAfter (E : Evaluator) (n : Nat) (es : List Expr) (s : State) (vs : List Value)
    (err : EvalError) (t : State) : Prop :=
  ∃ before e after u, es = before ++ e :: after ∧
    before.mapM (E.eval n) s = some (.ok vs, u) ∧ E.eval n e u = some (.error err, t)

/-- Expressions without relationships and calls all evaluate, or there is a first that fails. -/
theorem mapM_ok_or_failsAfter {es : List Expr} (hes : ∀ e ∈ es, e.EdgeFree) (s : State) :
    (∃ vs t, es.mapM (E.eval n) s = some (.ok vs, t)) ∨
      ∃ vs err t, E.FailsAfter n es s vs err t := by
  induction es generalizing s with
  | nil => exact .inl ⟨[], s, rfl⟩
  | cons e rest ih =>
    obtain ⟨he, hrest⟩ := List.forall_mem_cons.1 hes
    obtain ⟨err | v, u, hrun⟩ := (E.eval_edgeless n he).exists_eq_some s
    · exact .inr ⟨[], err, u, [], e, rest, s, rfl, rfl, hrun⟩
    · rcases ih hrest u with ⟨vs, t, hvs⟩ | ⟨vs, err, t, before, x, after, w, rfl, hvs, herr⟩
      · exact .inl ⟨v :: vs, t, mapM_cons_eq_ok.2 ⟨v, u, vs, hrun, hvs, rfl⟩⟩
      · exact .inr ⟨v :: vs, err, t, e :: before, x, after, w, rfl,
          mapM_cons_eq_ok.2 ⟨v, u, vs, hrun, hvs, rfl⟩, herr⟩

/-- **Chains of relationships**: if all operands evaluate, one after the other, the chain comes to
the last value, and the edges between neighbours have been added to those that there were. If an
operand fails, so does the chain, and the edges between the operands before it have been added. One
of the two is the case. -/
theorem eval_chain (E : Evaluator) (n : Nat) {first : Expr} {links : List Link}
    (hfirst : first.EdgeFree) (hlinks : ∀ l ∈ links, l.operand.EdgeFree) (s : State) :
    (∀ vs t, (first :: links.map (·.operand)).mapM (E.eval n) s = some (.ok vs, t) →
      ∃ v, vs.getLast? = some v ∧
        E.eval n (.chain first links) s =
          some (.ok v, { t with edges := s.edges ++ chainEdges (links.map (·.op)) vs })) ∧
    (∀ vs err t, E.FailsAfter n (first :: links.map (·.operand)) s vs err t →
      E.eval n (.chain first links) s =
        some (.error err, { t with edges := s.edges ++ chainEdges (links.map (·.op)) vs })) ∧
    ((∃ vs t, (first :: links.map (·.operand)).mapM (E.eval n) s = some (.ok vs, t)) ∨
      ∃ vs err t, E.FailsAfter n (first :: links.map (·.operand)) s vs err t) := by
  have hkeeps : ∀ {r u}, E.eval n first s = some (r, u) →
      E.eval n first s = some (r, u.withEdges s.edges) := fun h =>
    (E.eval_edgeless n hfirst).withEdges h s.edges
  rw [eval_chain_eq]
  refine ⟨fun vs t h => ?ok, ?error, mapM_ok_or_failsAfter
    (List.forall_mem_cons.2 ⟨hfirst, List.forall_mem_map.2 hlinks⟩) s⟩
  case ok =>
    obtain ⟨left, u, vs, hleft, hvs, rfl⟩ := mapM_cons_eq_ok.1 h
    refine ⟨_, List.getLast?_cons, ?_⟩
    rw [bind_of_ok (hkeeps hleft)]
    exact follow_of_ok hlinks hvs s.edges
  case error =>
    rintro vs err t ⟨before, e, after, u, hsplit, hbefore, herr⟩
    cases before with
    | nil =>
      obtain ⟨rfl, -⟩ := List.cons.inj hsplit
      rw [List.mapM_nil] at hbefore
      cases hbefore
      rw [bind_apply, hkeeps herr, chainEdges_nil, List.append_nil]
      rfl
    | cons b before =>
      obtain ⟨rfl, hrest⟩ := List.cons.inj hsplit
      obtain ⟨done, _, rfl, rfl, hnext⟩ := List.map_eq_append_iff.1 hrest
      obtain ⟨link, rest, rfl, rfl, -⟩ := List.map_eq_cons_iff.1 hnext
      obtain ⟨hdone, hlink⟩ := List.forall_mem_append.1 hlinks
      obtain ⟨left, w, vs, hleft, hvs, rfl⟩ := mapM_cons_eq_ok.1 hbefore
      rw [bind_of_ok (hkeeps hleft)]
      exact follow_of_error hdone (hlink link List.mem_cons_self) hvs herr s.edges

/-- The links of the chain `["a", "b"] -> "c" <~ last`. -/
def mixedLinks (last : Form) : List Link :=
  [⟨.before, ⟨.literal (.string "c"), ⟨14, 17⟩⟩, ⟨0, 17⟩⟩, ⟨.subscribes, ⟨last, ⟨21, 25⟩⟩, ⟨0, 25⟩⟩]

/-- The chain `["a", "b"] -> "c" <~ last`. -/
def mixedChain (last : Form) : Expr :=
  .chain ⟨.list [⟨.literal (.string "a"), ⟨1, 4⟩⟩, ⟨.literal (.string "b"), ⟨6, 9⟩⟩], ⟨0, 10⟩⟩
    (mixedLinks last)

/-- With `"d"` at the end, three edges are recorded, the last of them from right to left. With
`-"d"`, which fails, there are the two edges to `"c"` only. -/
theorem eval_chain_mixed :
    (∃ t, Library.evaluator.eval 0 (mixedChain (.literal (.string "d")))
          (.initial (.ofGlobals [])) = some (.ok (.string "d"), t) ∧
      t.edges = [⟨.string "a", .string "c", .before⟩, ⟨.string "b", .string "c", .before⟩,
        ⟨.string "d", .string "c", .notify⟩]) ∧
    ∃ err t, Library.evaluator.eval 0
          (mixedChain (.unary .neg ⟨.literal (.string "d"), ⟨22, 25⟩⟩))
          (.initial (.ofGlobals [])) = some (.error err, t) ∧
      t.edges = [⟨.string "a", .string "c", .before⟩, ⟨.string "b", .string "c", .before⟩] := by
  have hliteral : ∀ value place, Expr.EdgeFree ⟨.literal value, place⟩ :=
    fun _ _ => Expr.edgeFree_iff.2 ⟨nofun, nofun⟩
  have hfirst : Expr.EdgeFree
      ⟨.list [⟨.literal (.string "a"), ⟨1, 4⟩⟩, ⟨.literal (.string "b"), ⟨6, 9⟩⟩], ⟨0, 10⟩⟩ :=
    Expr.edgeFree_iff.2 ⟨nofun,
      List.forall_mem_cons.2 ⟨hliteral _ _, List.forall_mem_singleton.2 (hliteral _ _)⟩⟩
  have hlinks : ∀ last, Expr.EdgeFree ⟨last, ⟨21, 25⟩⟩ →
      ∀ l ∈ mixedLinks last, l.operand.EdgeFree := fun _ hlast =>
    List.forall_mem_cons.2 ⟨hliteral _ _, List.forall_mem_singleton.2 hlast⟩
  constructor
  · obtain ⟨v, hv, hrun⟩ := (eval_chain Library.evaluator 0 hfirst (hlinks _ (hliteral _ _))
      (.initial (.ofGlobals []))).1 _ _ rfl
    cases hv
    exact ⟨_, hrun, rfl⟩
  · have hneg : Expr.EdgeFree ⟨.unary .neg ⟨.literal (.string "d"), ⟨22, 25⟩⟩, ⟨21, 25⟩⟩ :=
      Expr.edgeFree_iff.2 ⟨nofun, List.forall_mem_singleton.2 (hliteral _ _)⟩
    have hfails := (eval_chain Library.evaluator 0 hfirst (hlinks _ hneg)
      (.initial (.ofGlobals []))).2.1
    exact ⟨_, _, hfails _ _ _ ⟨[_, _], _, [], _, rfl, rfl, rfl⟩, rfl⟩

end Evaluator

end Manifest
