import Mathlib.Data.List.Find
import Manifest.Proofs.Identity
import Manifest.Value.Digest

/-!
# Identity of keys

Identity is an equivalence of well-formed values (`Value.identical_equivalence`). Two hashes are
identical exactly when they have the same entries, in whatever order; and it makes no difference
which of two identical values is looked up, be it entry by entry or by codes, since identical values
have the same digest (`Value.digest_eq`).
-/

namespace Manifest

/-! ## Entries in another order -/

/-- Two entries with identical keys and identical values. -/
def SameEntry (e f : Value × Value) : Prop :=
  e.1.identical f.1 = true ∧ e.2.identical f.2 = true

/-- Two lists of entries are the same up to their order: the entries of one of them can be put into
an order in which they are identical to those of the other one, place by place. -/
def Entries.SameUpToOrder (xs ys : Entries) : Prop :=
  ∃ zs, List.Forall₂ SameEntry xs zs ∧ zs.Perm ys

namespace Value

variable {a b c : Value}

/-! ## An equivalence -/

theorem identicalAll_self {items : List Value} (h : ∀ v ∈ items, v.identical v = true) :
    identicalAll items items = true :=
  identicalAll_iff.2 (List.forall₂_same.2 h)

/-- A value is identical to itself. -/
theorem identical_self (ha : WellFormed a) : a.identical a = true := by
  induction ha with
  | @ofParts a here parts ih =>
    cases a with
    | array items => exact identicalAll_self ih
    | hash entries =>
      have hwf : WellFormed (.hash entries) := .ofParts here parts
      have hkeys := keysMatch hwf hwf fun e he => identityLaw (parts _ (key_mem_parts he))
      exact (identical_hash hkeys.there).2 ⟨rfl, fun e he =>
        ⟨e, he, ih _ (key_mem_parts he), ih _ (value_mem_parts he)⟩⟩
    | type t =>
      obtain ⟨name, params⟩ := t
      have hparams : identicalAll params params = true := identicalAll_self ih
      rw [identical, TypeRef.identical, beq_self_eq_true, hparams]
      rfl
    | closure c =>
      exact (identical_closure here).2 ⟨rfl, rfl, fun b hb =>
        ⟨b, hb, rfl, ih _ (capture_mem_parts hb)⟩⟩
    | _ => simp [identical]

theorem identical_symm (ha : WellFormed a) (hb : WellFormed b) (h : a.identical b = true) :
    b.identical a = true :=
  ((identityLaw ha).comm_iff hb).1 h

theorem identical_trans (ha : WellFormed a) (hb : WellFormed b) (hc : WellFormed c)
    (hab : a.identical b = true) (hbc : b.identical c = true) : a.identical c = true :=
  ((identityLaw ha).congr_iff hb hab hc).2 hbc

/-! ## Hashes -/

/-- Hashes are identical exactly when they have the same entries, in whatever order. -/
theorem identical_hash_iff {xs ys : Entries} (hx : WellFormed (.hash xs))
    (hy : WellFormed (.hash ys)) :
    (Value.hash xs).identical (.hash ys) = true ↔ xs.SameUpToOrder ys := by
  have hkeys := keysMatch hx hy fun e he => identityLaw (hx.parts _ (key_mem_parts he))
  rw [identical_hash hkeys.there]
  constructor
  · rintro ⟨hlength, hcovers⟩
    exact hcovers.exists_perm hkeys hlength
  · rintro ⟨zs, hsame, hperm⟩
    refine ⟨hsame.length_eq.trans hperm.length_eq, fun e he => ?_⟩
    obtain ⟨f, hf, hef⟩ := exists_of_forall₂ (List.Forall₂.flip (R := flip SameEntry) hsame) e he
    exact ⟨f, hperm.mem_iff.1 hf, hef⟩

/-! ## Digests -/

theorem digestAll_eq (xs : List Value) {ys : List Value}
    (h : ∀ x ∈ xs, ∀ {y}, x.identical y = true → x.digest = y.digest)
    (hsame : identicalAll xs ys = true) : xs.length = ys.length ∧ digestAll xs = digestAll ys := by
  have hplaces := identicalAll_iff.1 hsame
  refine ⟨hplaces.length_eq, ?_⟩
  clear hsame
  induction hplaces with
  | nil => rfl
  | cons hhead _ ih =>
    obtain ⟨hx, hrest⟩ := List.forall_mem_cons.1 h
    rw [digestAll, digestAll, hx hhead, ih hrest]

/-- Identical values have the same digest. -/
theorem digest_eq (h : a.identical b = true) : a.digest = b.digest := by
  induction a using Value.induction generalizing b with
  | ofParts a ih =>
    cases a with
    | array items =>
      cases b with
      | array ys =>
        have ⟨hlength, hdigest⟩ := digestAll_eq items ih h
        rw [digest, digest, hlength, hdigest]
      | _ => cases h
    | hash entries =>
      cases b with
      | hash ys =>
        obtain ⟨hlength, -⟩ := Bool.and_eq_true_iff.1 h
        rw [digest, digest, eq_of_beq hlength]
      | _ => cases h
    | type t =>
      cases b with
      | type u =>
        obtain ⟨name, params⟩ := t
        obtain ⟨name', params'⟩ := u
        obtain ⟨hname, hall⟩ := Bool.and_eq_true_iff.1 h
        have ⟨hlength, hdigest⟩ := digestAll_eq params ih hall
        rw [digest, digest, TypeRef.digest, TypeRef.digest, eq_of_beq hname, hlength, hdigest]
      | _ => cases h
    | closure c =>
      cases b with
      | closure d =>
        obtain ⟨lambda, captures⟩ := c
        obtain ⟨lambda', captures'⟩ := d
        have hid : (lambda.id == lambda'.id) = true :=
          (Bool.and_eq_true_iff.1 (Bool.and_eq_true_iff.1 h).1).1
        rw [digest, digest, eq_of_beq hid]
      | _ => cases h
    | regex r =>
      cases b with
      | regex s => rw [digest, digest, eq_of_beq h]
      | _ => cases h
    | _ => cases b <;> simp_all [identical]

end Value

namespace Entries

variable {a b : Value}

/-- Looking at the codes first finds the same entry as looking at the keys. -/
theorem locate?_eq (code : Digest → UInt64) (entries : Entries) (key : Value) :
    entries.locate? code key = List.find? (fun e => key.identical e.1) entries := by
  rw [locate?]
  congr 1
  funext e
  cases h : key.identical e.1 with
  | true => rw [Value.digest_eq h, beq_self_eq_true, Bool.and_self]
  | false => rw [Bool.and_false]

/-- Identical values find the same entry. -/
theorem find?_congr (ha : a.WellFormed) (hb : b.WellFormed) (h : a.identical b = true)
    {entries : Entries} (hentries : (Value.hash entries).WellFormed) :
    List.find? (fun e => a.identical e.1) entries = List.find? (fun e => b.identical e.1) entries :=
  List.find?_congr fun e he =>
    (Value.identityLaw ha).congr b hb h e.1 (hentries.parts _ (Value.key_mem_parts he))

end Entries

/-- **Identity is an equivalence** of well-formed values. Hashes are identical exactly when they
have the same entries, in whatever order; and identical values find the same entry in every hash,
whatever codes are computed from digests. -/
theorem Value.identical_equivalence :
    Equivalence (fun a b : { v : Value // v.WellFormed } => a.1.identical b.1 = true) ∧
      (∀ xs ys : Entries, (Value.hash xs).WellFormed → (Value.hash ys).WellFormed →
        ((Value.hash xs).identical (.hash ys) = true ↔ xs.SameUpToOrder ys)) ∧
      ∀ a b : Value, a.WellFormed → b.WellFormed → a.identical b = true →
        ∀ entries : Entries, (Value.hash entries).WellFormed →
          entries.get? a = entries.get? b ∧
            ∀ code, entries.locate? code a = entries.locate? code b := by
  refine ⟨⟨fun a => identical_self a.2, fun {a b} => identical_symm a.2 b.2,
    fun {a b c} => identical_trans a.2 b.2 c.2⟩, fun _ _ => identical_hash_iff, ?_⟩
  intro a b ha hb h entries hentries
  have hfind := Entries.find?_congr ha hb h hentries
  refine ⟨congrArg (Option.map Prod.snd) hfind, fun code => ?_⟩
  rw [Entries.locate?_eq, Entries.locate?_eq, hfind]

/-- The hash `{[1] => "on", mode => 2.5}`. -/
def setting : Value :=
  .hash [(.array [.integer 1], .string "on"), (.string "mode", .float ⟨0x4004000000000000⟩)]

/-- The hash `{mode => 2.5, [1] => "on"}`. -/
def settingReordered : Value :=
  .hash [(.string "mode", .float ⟨0x4004000000000000⟩), (.array [.integer 1], .string "on")]

/-- The hash that has the first of the two as a key. -/
def settings : Entries :=
  [(.absent, .integer 1), (setting, .string "found")]

/-- The two are identical because one is the other one in another order, so that the second one is
found under the first one. -/
theorem Value.identical_equivalence_reordered : setting.WellFormed ∧ settingReordered.WellFormed ∧
    (Value.hash settings).WellFormed ∧ settingReordered.identical setting = true ∧
      settings.get? settingReordered = some (.string "found") := by
  have hatom : ∀ {v : Value}, v.isAtom = true → v.HasDistinctKeys → v.WellFormed := all_of_isAtom
  have hpair : ∀ {e f : Value × Value}, e.1.identical f.1 = false → e.1.WellFormed →
      e.2.WellFormed → f.1.WellFormed → f.2.WellFormed → (Value.hash [e, f]).WellFormed :=
    fun hne hk hv hl hw => all_hash.2 ⟨List.pairwise_pair.2 (Bool.not_eq_true _ ▸ hne),
      List.forall_mem_cons.2 ⟨⟨hk, hv⟩, List.forall_mem_singleton.2 ⟨hl, hw⟩⟩⟩
  have hkey : (Value.array [.integer 1]).WellFormed :=
    all_array.2 ⟨trivial, List.forall_mem_singleton.2 (hatom rfl trivial)⟩
  have hsetting : setting.WellFormed :=
    hpair rfl hkey (hatom rfl trivial) (hatom rfl trivial) (hatom rfl trivial)
  have hreordered : settingReordered.WellFormed :=
    hpair rfl (hatom rfl trivial) (hatom rfl trivial) hkey (hatom rfl trivial)
  have hsettings : (Value.hash settings).WellFormed :=
    hpair rfl (hatom rfl trivial) (hatom rfl trivial) hsetting (hatom rfl trivial)
  obtain ⟨hequivalence, hhash, hfind⟩ := identical_equivalence
  have hsame : setting.identical settingReordered = true := by
    refine (hhash _ _ hsetting hreordered).2 ⟨_, .cons ⟨?_, ?_⟩ (.cons ⟨?_, ?_⟩ .nil), .swap _ _ _⟩
    all_goals rfl
  refine ⟨hsetting, hreordered, hsettings,
    hequivalence.symm (x := ⟨_, hsetting⟩) (y := ⟨_, hreordered⟩) hsame, ?_⟩
  exact (hfind _ _ hsetting hreordered hsame settings hsettings).1.symm

end Manifest
