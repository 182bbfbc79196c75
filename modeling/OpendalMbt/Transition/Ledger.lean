import Mathlib.Algebra.BigOperators.Group.List.Basic
import Mathlib.Algebra.Order.Group.Multiset
import OpendalMbt.Transition.Call

/-!
# Ledgers

A ledger logs what has been made and what has been given back. It is balanced with an
account of what is owned when nothing was made twice and whatever was made is either given
back or owned, so that with nothing owned each thing made was given back exactly once.

* `Ledger.Balanced.settled`: what a balanced ledger says when nothing is owned;
* `Ledger.Balanced.custody`: with many owners, each thing has one of them or was given back once;
* `Ledger.Moves`: a step that makes nothing, and what is owned before and after it;
* `Accounts`, `Spends`: how a call changes what is owned, whatever else is owned at the time;
* `exists_sum_rest`: one item of a list apart from the others.
-/

namespace OpendalMbt.Transition

structure Ledger (ι : Type) where
  created : List ι := []
  gone : List ι := []
  deriving Repr

variable {ι : Type}

namespace Ledger

def create (x : ι) (l : Ledger ι) : Ledger ι := { l with created := x :: l.created }

def retire (x : ι) (l : Ledger ι) : Ledger ι := { l with gone := x :: l.gone }

def Live (x : ι) (l : Ledger ι) : Prop := x ∈ l.created ∧ x ∉ l.gone

instance [DecidableEq ι] (x : ι) (l : Ledger ι) : Decidable (l.Live x) :=
  inferInstanceAs (Decidable (_ ∧ _))

structure Balanced (l : Ledger ι) (owned : Multiset ι) : Prop where
  distinct : l.created.Nodup
  covered : (l.created : Multiset ι) = l.gone + owned

variable {l : Ledger ι} {x : ι} {owned : Multiset ι}

theorem Balanced.create (h : l.Balanced owned) (hx : x ∉ l.created) :
    (l.create x).Balanced ({x} + owned) where
  distinct := List.nodup_cons.mpr ⟨hx, h.distinct⟩
  covered := by
    show ((x :: l.created : List ι) : Multiset ι) = l.gone + ({x} + owned)
    rw [← Multiset.cons_coe, h.covered, Multiset.singleton_add, Multiset.add_cons]

theorem Balanced.retire (h : l.Balanced ({x} + owned)) : (l.retire x).Balanced owned where
  distinct := h.distinct
  covered := by
    show (l.created : Multiset ι) = ((x :: l.gone : List ι) : Multiset ι) + owned
    rw [h.covered, ← Multiset.cons_coe, Multiset.singleton_add, Multiset.add_cons,
      Multiset.cons_add]

theorem Balanced.live (h : l.Balanced ({x} + owned)) : l.Live x := by
  have hcovered := h.covered
  rw [Multiset.singleton_add, Multiset.add_cons] at hcovered
  have hmem : x ∈ l.created := by
    rw [← Multiset.mem_coe, hcovered]
    exact Multiset.mem_cons_self x _
  refine ⟨hmem, ?_⟩
  intro hgone
  have hnodup : (l.created : Multiset ι).Nodup := Multiset.coe_nodup.mpr h.distinct
  rw [hcovered] at hnodup
  apply (Multiset.nodup_cons.mp hnodup).1
  exact Multiset.mem_add.mpr (Or.inl (Multiset.mem_coe.mpr hgone))

/-- Nothing was given back twice. -/
theorem Balanced.gone_nodup (h : l.Balanced owned) : l.gone.Nodup := by
  have hnodup : (l.created : Multiset ι).Nodup := Multiset.coe_nodup.mpr h.distinct
  rw [h.covered] at hnodup
  exact Multiset.coe_nodup.mp (Multiset.nodup_of_le (Multiset.le_add_right _ _) hnodup)

/-- A ledger says what is owned. -/
theorem Balanced.unique {owned' : Multiset ι} (h : l.Balanced owned) (h' : l.Balanced owned') :
    owned = owned' :=
  add_left_cancel (h.covered.symm.trans h'.covered)

/-- Whatever was made was given back or is owned, and that once. -/
theorem Balanced.count_eq_one [DecidableEq ι] (h : l.Balanced owned) (hx : x ∈ l.created) :
    l.gone.count x + owned.count x = 1 := by
  have hcount := congrArg (Multiset.count x) h.covered
  rw [Multiset.count_add, Multiset.coe_count, Multiset.coe_count,
    List.count_eq_one_of_mem h.distinct hx] at hcount
  exact hcount.symm

theorem Balanced.mem_created (h : l.Balanced owned) (hx : x ∈ owned) : x ∈ l.created := by
  rw [← Multiset.mem_coe, h.covered]
  exact Multiset.mem_add.mpr (Or.inr hx)

/-- With nothing owned, whatever was made was given back once, and nothing else was. -/
theorem Balanced.settled [DecidableEq ι] (h : l.Balanced 0) :
    (∀ x ∈ l.created, l.gone.count x = 1) ∧ ∀ x ∈ l.gone, x ∈ l.created := by
  have hcovered : (l.created : Multiset ι) = l.gone := by
    rw [h.covered, add_zero]
  have hperm : l.created.Perm l.gone := Multiset.coe_eq_coe.mp hcovered
  constructor
  · intro x hx
    rw [← hperm.count_eq x]
    exact List.count_eq_one_of_mem h.distinct hx
  · intro x hx
    exact hperm.mem_iff.mpr hx

/-! ### Steps that make nothing -/

/-- From owning `pre` to owning `post`, whatever else is owned at the time. -/
structure Moves (l l' : Ledger ι) (pre post : Multiset ι) : Prop where
  created : l'.created = l.created
  balanced : ∀ frame, l.Balanced (pre + frame) → l'.Balanced (post + frame)

variable {l' l'' : Ledger ι} {pre mid post : Multiset ι}

theorem Moves.of_eq (h : pre = post) : Moves l l pre post where
  created := rfl
  balanced := by
    intro frame hl
    rw [← h]
    exact hl

theorem Moves.trans (h : Moves l l' pre mid) (h' : Moves l' l'' mid post) :
    Moves l l'' pre post where
  created := h'.created.trans h.created
  balanced := by
    intro frame hl
    exact h'.balanced frame (h.balanced frame hl)

theorem Moves.retire (x : ι) (own : Multiset ι) : Moves l (l.retire x) ({x} + own) own where
  created := rfl
  balanced := by
    intro frame hl
    rw [add_assoc] at hl
    exact hl.retire

theorem Moves.frame (h : Moves l l' pre post) (rest : Multiset ι) :
    Moves l l' (pre + rest) (post + rest) where
  created := h.created
  balanced := by
    intro frame hl
    rw [add_assoc] at hl ⊢
    exact h.balanced (rest + frame) hl

end Ledger

/-! ## Calls that own something -/

section Accounts

variable {σ ε α β : Type}

/-- A call that owns `pre` owns `post` when it returns and `err` when it throws, whatever else
is owned at the time; `P s owned` says what it means to own `owned` in the state `s`. -/
def Accounts (P : σ → Multiset ι → Prop) (pre : Multiset ι) (x : Call σ ε α)
    (post : α → Multiset ι) (err : Multiset ι) : Prop :=
  ∀ s frame, P s (pre + frame) →
    match x s with
    | (.ok value, t) => P t (post value + frame)
    | (.error _, t) => P t (err + frame)

variable {P : σ → Multiset ι → Prop} {pre err own : Multiset ι} {post : α → Multiset ι}
  {x : Call σ ε α}

theorem Accounts.pure (value : α) (h : pre = post value) :
    Accounts P pre (pure value : Call σ ε α) post err := by
  intro s frame hs
  rw [h] at hs
  exact hs

theorem Accounts.throw (e : ε) : Accounts P err (Call.throw e : Call σ ε α) post err :=
  fun _ _ h => h

theorem Accounts.bind {post' : β → Multiset ι} {f : α → Call σ ε β}
    (hx : Accounts P pre x post err) (hf : ∀ value, Accounts P (post value) (f value) post' err) :
    Accounts P pre (x >>= f) post' err := by
  intro s frame h
  have hs := hx s frame h
  cases hxs : x s with
  | mk result t =>
    rw [hxs] at hs
    cases result with
    | ok value =>
      rw [Call.bind_apply_ok hxs]
      exact hf value t frame hs
    | error e =>
      rw [Call.bind_apply_error hxs]
      exact hs

/-- What a call does not touch stays owned. -/
theorem Accounts.frame (rest : Multiset ι) (hx : Accounts P pre x post err) :
    Accounts P (pre + rest) x (fun value => post value + rest) (err + rest) := by
  intro s frame h
  rw [add_assoc] at h
  have hs := hx s (rest + frame) h
  cases hxs : x s with
  | mk result t =>
    rw [hxs] at hs
    cases result with
    | ok value =>
      show P t (post value + rest + frame)
      rw [add_assoc]
      exact hs
    | error e =>
      show P t (err + rest + frame)
      rw [add_assoc]
      exact hs

/-- A call beside something that is owned before and after it. -/
theorem Accounts.beside (own : Multiset ι) (hx : Accounts P pre x post 0) :
    Accounts P (own + pre) x (fun value => own + post value) own := by
  have hframe := hx.frame own
  simp only [add_comm _ own, add_zero] at hframe
  exact hframe

/-- A call that starts from nothing, while `own` is owned. -/
theorem Accounts.keep (own : Multiset ι) (hx : Accounts P 0 x post 0) :
    Accounts P own x (fun value => own + post value) own := by
  have hbeside := hx.beside own
  rw [add_zero] at hbeside
  exact hbeside

/-- A call that spends all it owns, while `own` is owned. -/
theorem Accounts.spend (own : Multiset ι) (hx : Accounts P pre x (fun _ => 0) 0) :
    Accounts P (own + pre) x (fun _ => own) own := by
  have hbeside := hx.beside own
  simp only [add_zero] at hbeside
  exact hbeside

/-- A call that leaves nothing behind, while `own` is owned. -/
theorem Accounts.quiet (own : Multiset ι) (hx : Accounts P 0 x (fun _ => 0) 0) :
    Accounts P own x (fun _ => own) own := by
  have hspend := hx.spend own
  rw [add_zero] at hspend
  exact hspend

/-- A cleanup that gives `own` back, whichever way the call ends. -/
theorem Accounts.tryFinally {cleanup : σ → σ}
    (hx : Accounts P own x (fun value => own + post value) own)
    (hcleanup : ∀ s frame, P s (own + frame) → P (cleanup s) frame) :
    Accounts P own (Call.tryFinally x cleanup) post 0 := by
  intro s frame h
  have hs := hx s frame h
  unfold Call.tryFinally
  cases hxs : x s with
  | mk result t =>
    rw [hxs] at hs
    cases result with
    | ok value =>
      show P (cleanup t) (post value + frame)
      apply hcleanup
      rw [← add_assoc]
      exact hs
    | error e =>
      show P (cleanup t) (0 + frame)
      rw [zero_add]
      exact hcleanup t frame hs

/-- A cleanup that gives `own` back when the call throws. -/
theorem Accounts.onError {cleanup : σ → σ} (hx : Accounts P pre x post own)
    (hcleanup : ∀ s frame, P s (own + frame) → P (cleanup s) frame) :
    Accounts P pre (Call.onError x cleanup) post 0 := by
  intro s frame h
  have hs := hx s frame h
  unfold Call.onError
  cases hxs : x s with
  | mk result t =>
    rw [hxs] at hs
    cases result with
    | ok value => exact hs
    | error e =>
      show P (cleanup t) (0 + frame)
      rw [zero_add]
      exact hcleanup t frame hs

end Accounts

/-! ## Calls that spend what they own -/

section Spends

variable {σ ε α β : Type} {ledger : σ → Ledger ι}

/-- A call that owns `pre` owns `post` when it returns and `err` when it throws. -/
def Spends (ledger : σ → Ledger ι) (pre : Multiset ι) (x : Call σ ε α) (post : α → Multiset ι)
    (err : Multiset ι) : Prop :=
  ∀ s frame, (ledger s).Balanced (pre + frame) →
    match x s with
    | (.ok value, t) => (ledger t).Balanced (post value + frame)
    | (.error _, t) => (ledger t).Balanced (err + frame)

/-- A call that leaves nothing behind, however it ends. -/
abbrev Neutral (ledger : σ → Ledger ι) (x : Call σ ε α) : Prop :=
  Spends ledger 0 x (fun _ => 0) 0

variable {pre err : Multiset ι} {post : α → Multiset ι} {x : Call σ ε α}

theorem spends_iff :
    Spends ledger pre x post err ↔ Accounts (fun s => (ledger s).Balanced) pre x post err :=
  Iff.rfl

theorem Spends.pure (value : α) (h : pre = post value) :
    Spends ledger pre (pure value : Call σ ε α) post err :=
  spends_iff.mpr (Accounts.pure value h)

theorem Spends.throw (e : ε) : Spends ledger err (Call.throw e : Call σ ε α) post err :=
  fun _ _ h => h

theorem Spends.bind {post' : β → Multiset ι} {f : α → Call σ ε β} (hx : Spends ledger pre x post err)
    (hf : ∀ value, Spends ledger (post value) (f value) post' err) :
    Spends ledger pre (x >>= f) post' err :=
  spends_iff.mpr ((spends_iff.mp hx).bind hf)

/-- A call that spends all it owns, however it ends. -/
theorem Spends.spent {s : σ} {frame : Multiset ι} (hx : Spends ledger pre x (fun _ => 0) 0)
    (h : (ledger s).Balanced (pre + frame)) : (ledger (x s).2).Balanced frame := by
  have hs := hx s frame h
  cases hxs : x s with
  | mk result t =>
    rw [hxs] at hs
    cases result with
    | ok value =>
      have hleft : (ledger t).Balanced (0 + frame) := hs
      rw [zero_add] at hleft
      exact hleft
    | error e =>
      have hleft : (ledger t).Balanced (0 + frame) := hs
      rw [zero_add] at hleft
      exact hleft

/-- What a call does not touch stays owned. -/
theorem Spends.frame (rest : Multiset ι) (hx : Spends ledger pre x post err) :
    Spends ledger (pre + rest) x (fun value => post value + rest) (err + rest) :=
  spends_iff.mpr ((spends_iff.mp hx).frame rest)

/-- A call that starts from nothing, while `own` is owned. -/
theorem Spends.keep (own : Multiset ι) (hx : Spends ledger 0 x post 0) :
    Spends ledger own x (fun value => own + post value) own :=
  spends_iff.mpr ((spends_iff.mp hx).keep own)

theorem Neutral.keep (own : Multiset ι) (hx : Neutral ledger x) :
    Spends ledger own x (fun _ => own) own :=
  spends_iff.mpr ((spends_iff.mp hx).quiet own)

/-- A cleanup that gives `own` back, whichever way the call ends. -/
theorem Spends.tryFinally {own : Multiset ι} {cleanup : σ → σ} (hx : Spends ledger 0 x post 0)
    (hcleanup : ∀ s frame, (ledger s).Balanced (own + frame) → (ledger (cleanup s)).Balanced frame) :
    Spends ledger own (Call.tryFinally x cleanup) post 0 :=
  spends_iff.mpr ((spends_iff.mp (hx.keep own)).tryFinally hcleanup)

theorem Neutral.tryFinally {own : Multiset ι} {cleanup : σ → σ} (hx : Neutral ledger x)
    (hcleanup : ∀ s frame, (ledger s).Balanced (own + frame) → (ledger (cleanup s)).Balanced frame) :
    Spends ledger own (Call.tryFinally x cleanup) (fun _ => 0) 0 :=
  Spends.tryFinally hx hcleanup

/-- A cleanup that gives `own` back when the call throws. -/
theorem Spends.onError {own : Multiset ι} {cleanup : σ → σ} (hx : Spends ledger pre x post own)
    (hcleanup : ∀ s frame, (ledger s).Balanced (own + frame) → (ledger (cleanup s)).Balanced frame) :
    Spends ledger pre (Call.onError x cleanup) post 0 :=
  spends_iff.mpr ((spends_iff.mp hx).onError hcleanup)

end Spends

/-! ## Lists of owners -/

section Sums

variable {M α : Type} [AddCommMonoid M] {f : α → M} {l : List α} {k : Nat} {x : α}

theorem exists_sum_rest (hx : l[k]? = some x) :
    ∃ rest, (l.map f).sum = f x + rest ∧ ∀ y, ((l.set k y).map f).sum = f y + rest := by
  induction l generalizing k with
  | nil => cases hx
  | cons a l ih =>
    cases k with
    | zero =>
      cases hx
      exact ⟨(l.map f).sum, rfl, fun y => rfl⟩
    | succ k =>
      obtain ⟨rest, hsum, hset⟩ := ih (k := k) hx
      refine ⟨f a + rest, ?_, ?_⟩
      · rw [List.map_cons, List.sum_cons, hsum, add_left_comm]
      · intro y
        rw [List.set_cons_succ, List.map_cons, List.sum_cons, hset y, add_left_comm]

end Sums

section Owners

variable {α : Type} {f : α → Multiset ι} {owners : List α} {x : ι}

theorem mem_sum_map : x ∈ (owners.map f).sum ↔ ∃ owner ∈ owners, x ∈ f owner := by
  induction owners with
  | nil => simp
  | cons a owners ih => simp [ih]

theorem one_le_count_sum {k : Nat} {owner : α} [DecidableEq ι] (hk : owners[k]? = some owner)
    (hx : x ∈ f owner) : 1 ≤ (owners.map f).sum.count x :=
  Multiset.one_le_count_iff_mem.mpr (mem_sum_map.mpr ⟨owner, List.mem_of_getElem? hk, hx⟩)

theorem two_le_count_sum [DecidableEq ι] {j k : Nat} {a b : α} (hjk : j < k)
    (hj : owners[j]? = some a) (hk : owners[k]? = some b) (ha : x ∈ f a) (hb : x ∈ f b) :
    2 ≤ (owners.map f).sum.count x := by
  induction owners generalizing j k with
  | nil => cases hj
  | cons owner owners ih =>
    obtain ⟨k, rfl⟩ := Nat.exists_eq_add_one.mpr (Nat.zero_lt_of_lt hjk)
    rw [List.map_cons, List.sum_cons, Multiset.count_add]
    cases j with
    | zero =>
      cases hj
      have hhead := Multiset.one_le_count_iff_mem.mpr ha
      have htail : 1 ≤ (owners.map f).sum.count x := one_le_count_sum hk hb
      omega
    | succ j =>
      have htail := ih (Nat.lt_of_succ_lt_succ hjk) hj hk
      omega

/-- What a list of owners owns once has one owner. -/
theorem existsUnique_owner [DecidableEq ι] (h : (owners.map f).sum.count x = 1) :
    ∃! k : Nat, ∃ owner, owners[k]? = some owner ∧ x ∈ f owner := by
  have hmem : x ∈ (owners.map f).sum := by
    rw [← Multiset.one_le_count_iff_mem, h]
  obtain ⟨owner, howner, hx⟩ := mem_sum_map.mp hmem
  obtain ⟨k, hk⟩ := List.mem_iff_getElem?.mp howner
  refine ⟨k, ⟨owner, hk, hx⟩, ?_⟩
  intro j hj
  obtain ⟨other, hj, hother⟩ := hj
  rcases Nat.lt_trichotomy j k with hlt | heq | hgt
  · have htwo := two_le_count_sum hlt hj hk hother hx
    omega
  · exact heq
  · have htwo := two_le_count_sum hgt hk hj hx hother
    omega

/-- Each thing that was made has one owner and was not given back, or was given back once and
has none. -/
theorem Ledger.Balanced.custody [DecidableEq ι] {l : Ledger ι}
    (h : l.Balanced (owners.map f).sum) (hx : x ∈ l.created) :
    (x ∉ l.gone ∧ ∃! k : Nat, ∃ owner, owners[k]? = some owner ∧ x ∈ f owner) ∨
      (l.gone.count x = 1 ∧ ∀ owner ∈ owners, x ∉ f owner) := by
  have hone := h.count_eq_one hx
  by_cases hgone : x ∈ l.gone
  · have hpos : 0 < l.gone.count x := List.count_pos_iff.mpr hgone
    refine .inr ⟨by omega, ?_⟩
    intro owner howner hown
    have hmem := Multiset.one_le_count_iff_mem.mpr (mem_sum_map.mpr ⟨owner, howner, hown⟩)
    omega
  · have hzero : l.gone.count x = 0 := List.count_eq_zero.mpr hgone
    exact .inl ⟨hgone, existsUnique_owner (by omega)⟩

end Owners

end OpendalMbt.Transition
