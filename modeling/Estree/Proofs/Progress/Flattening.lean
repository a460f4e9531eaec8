import Estree.Proofs.Progress.Building
import Mathlib.Algebra.BigOperators.Field
import Mathlib.Algebra.BigOperators.Fin
import Mathlib.Algebra.BigOperators.Intervals
import Mathlib.Algebra.Order.BigOperators.Group.List
import Mathlib.Algebra.Order.Field.Rat
import Mathlib.Tactic.Ring

/-!
# A tree of composites counts its leaves

With exact numbers, how much is done of the whole that a tree of composites stands for is a sum over
its leaves: what is done of each leaf counts with the product of the weights on the way to it, each
taken as a part of the weights in its composite.

The sum over the leaves is not taken along the tree. Every composite contributes how much of it is
done, times the product of the weights on the way to it. The sum of these contributions is on the
one hand a sum over all pieces; on the other hand a piece that is the sink of a composite counts
for just what this composite contributes, because it holds its fraction. So all contributions but
that of the root cancel against the pieces that are no leaves.

## Main results

* `Network.flat`: the sum over the leaves;
* `Network.Settled.flat_eq`: it is the fraction of the root where no number is old;
* `Network.nested_flattens`: the last amount that the log of a tree has been told is this sum.
-/

namespace Estree.Progress

open Quantity

/-! ### Exact amounts -/

instance : Quantity ℚ where
  zero := 0
  one := 1
  add := (· + ·)
  mul := (· * ·)
  div := (· / ·)
  isZero x := x == 0
  isPositive x := 0 < x
  isWeight x := 0 < x
  clamp x := if x < 0 then 0 else if 1 < x then 1 else x
  ofNat n := n
  wholePart x := x.floor.toNat

theorem total_eq_sum (xs : List ℚ) : total xs = xs.sum := List.sum_eq_foldl.symm

theorem clamp_eq (x : ℚ) : clamp x = max 0 (min 1 x) := by
  show (if x < 0 then 0 else if 1 < x then 1 else x) = max 0 (min 1 x)
  split_ifs with hneg hbig
  · rw [max_eq_left ((min_le_right 1 x).trans hneg.le)]
  · rw [min_eq_left hbig.le, max_eq_right zero_le_one]
  · rw [min_eq_right (not_lt.mp hbig), max_eq_right (not_lt.mp hneg)]

theorem Piece.share_eq (p : Piece ℚ) :
    p.share = if p.total = 0 then 0 else max 0 (min 1 (p.worked / p.total)) := by
  rw [← clamp_eq]
  show (if (p.total == 0) = true then 0 else clamp (p.worked / p.total)) = _
  simp only [beq_iff_eq]

theorem Piece.share_bounds (p : Piece ℚ) : 0 ≤ p.share ∧ p.share ≤ 1 := by
  rw [p.share_eq]
  split_ifs
  · exact ⟨le_refl 0, zero_le_one⟩
  · exact ⟨le_max_left _ _, max_le zero_le_one (min_le_left _ _)⟩

/-- A report does not change how much a piece counts. -/
theorem Piece.weight_take (p : Piece ℚ) (report : Report ℚ) :
    (p.take report).weight = p.weight := by
  cases report with
  | done =>
    rw [Piece.take]
    split <;> rfl
  | _ => rfl

namespace Bookkeeping

theorem validWeight_pos (weight : ℚ) : 0 < validWeight weight := by
  show 0 < if decide (0 < weight) = true then weight else 1
  split
  · next h => exact of_decide_eq_true h
  · exact zero_lt_one

theorem fraction_eq (b : Bookkeeping ℚ) :
    b.fraction = (b.pieces.toList.map fun p => p.weight * p.share).sum /
      (b.pieces.toList.map Piece.weight).sum := by
  show (if (Progress.total (b.pieces.toList.map Piece.weight) == 0) = true then 0
    else Progress.total (b.pieces.toList.map fun p => p.weight * p.share) /
      Progress.total (b.pieces.toList.map Piece.weight)) = _
  rw [total_eq_sum, total_eq_sum]
  split
  · next hz => rw [beq_iff_eq.mp hz, div_zero]
  · rfl

theorem idle_fraction (b : Bookkeeping ℚ) (h : b.Idle) : b.fraction = 0 := by
  rw [fraction_eq]
  have hshares : (b.pieces.toList.map fun p => p.weight * p.share) =
      b.pieces.toList.map fun _ => 0 := by
    apply List.map_congr_left
    intro p hp
    have hw : p.worked = 0 := h p (Array.mem_toList_iff.mp hp)
    rw [p.share_eq, hw, zero_div, min_eq_right zero_le_one, max_self, ite_self, mul_zero]
  rw [hshares]
  simp

/-- A weighted mean of shares is a share. -/
theorem fraction_bounds {b : Bookkeeping ℚ} (h : ∀ p ∈ b.pieces, 0 < p.weight) :
    0 ≤ b.fraction ∧ b.fraction ≤ 1 := by
  have hw (p : Piece ℚ) (hp : p ∈ b.pieces.toList) : 0 < p.weight :=
    h p (Array.mem_toList_iff.mp hp)
  have hweights : 0 ≤ (b.pieces.toList.map Piece.weight).sum := by
    apply List.sum_nonneg
    intro x hx
    obtain ⟨p, hp, rfl⟩ := List.mem_map.mp hx
    exact (hw p hp).le
  rw [fraction_eq]
  constructor
  · apply div_nonneg (List.sum_nonneg _) hweights
    intro x hx
    obtain ⟨p, hp, rfl⟩ := List.mem_map.mp hx
    exact mul_nonneg (hw p hp).le p.share_bounds.1
  · apply div_le_one_of_le₀ (List.sum_le_sum _) hweights
    intro p hp
    exact mul_le_of_le_one_right (hw p hp).le p.share_bounds.2

end Bookkeeping

namespace Network

/-! ### The sum over the leaves -/

/-- The way from a piece to the first composite: the piece, the one that its composite reports on,
and so on. At most `levels` pieces are listed. -/
def path {α : Type} (net : Network α) : Nat → Nat × Nat → List (Nat × Nat)
  | 0, _ => []
  | levels + 1, t => t :: (net.target? t.1).elim [] (net.path levels)

/-- The weight of a piece as a part of the weights of all the pieces of its composite. -/
def ratio (net : Network ℚ) (t : Nat × Nat) : ℚ :=
  (net.at? t).elim 0 Piece.weight / ((net.pieces t.1).map Piece.weight).sum

/-- How much of a piece is done: nothing without a total, and never less than nothing or more than
all. -/
def shareAt (net : Network ℚ) (t : Nat × Nat) : ℚ :=
  (net.at? t).elim 0 fun p => if p.total = 0 then 0 else max 0 (min 1 (p.worked / p.total))

/-- How much is done of a tree, as a sum over its leaves: the share of each counts with the product
of the ratios on the way to it. -/
def flat (net : Network ℚ) (root : Nat) : ℚ :=
  ∑ t ∈ net.leaves root, ((net.path net.composites.size t).map net.ratio).prod * net.shareAt t

variable {net : Network ℚ} {root c : Nat} {b : Bookkeeping ℚ} {l : Log} {t : Nat × Nat}

/-- How much of a composite is done is a sum over its pieces. -/
theorem fraction_eq_sum (hb : net.book? c = some b) :
    b.fraction =
      ∑ i ∈ Finset.range (net.pieces c).length, net.ratio (c, i) * net.shareAt (c, i) := by
  have hpieces : net.pieces c = b.pieces.toList := by
    rw [pieces, hb]
    rfl
  rw [b.fraction_eq, ← hpieces, Finset.sum_range, div_eq_mul_inv, ← List.sum_map_mul_right,
    ← Fin.sum_univ_fun_getElem]
  apply Finset.sum_congr rfl
  intro i _
  have hi : net.at? (c, i) = some (net.pieces c)[i.1] := by
    rw [at?_eq]
    exact List.getElem?_eq_getElem i.isLt
  rw [ratio, shareAt, hi, Option.elim_some, Option.elim_some, ← Piece.share_eq]
  ring

/-! ### The ways up -/

theorem path_succ {α : Type} {net : Network α} (hd : net.Downward root) {levels : Nat}
    (ht : root ≤ t.1) (hlt : t.1 < levels) : net.path (levels + 1) t = net.path levels t := by
  induction levels generalizing t with
  | zero => exact absurd hlt (Nat.not_lt_zero _)
  | succ levels ih =>
    rw [path, path]
    cases hup : net.target? t.1 with
    | none => rfl
    | some up =>
      obtain ⟨hroot, hbelow⟩ := hd t.1 up ht hup
      have hlevels := Nat.lt_of_lt_of_le hbelow (Nat.le_of_lt_succ hlt)
      exact congrArg (t :: ·) (ih hroot hlevels)

/-- How much a composite counts: the product of the ratios on the way from the piece it reports on.
The root counts once. -/
def factor (net : Network ℚ) (c : Nat) : ℚ :=
  (net.target? c).elim 1 fun t => ((net.path net.composites.size t).map net.ratio).prod

/-- A piece counts with its ratio times what its composite counts. -/
theorem prod_path (hd : net.Downward root) (ht : root ≤ t.1) (hlt : t.1 < net.composites.size) :
    ((net.path net.composites.size t).map net.ratio).prod = net.ratio t * net.factor t.1 := by
  rw [← path_succ hd ht hlt, path, List.map_cons, List.prod_cons, factor]
  cases net.target? t.1 with
  | none => rfl
  | some up => rfl

/-- How much of a composite is done. -/
def doneOf (net : Network ℚ) (c : Nat) : ℚ := (net.book? c).elim 0 Bookkeeping.fraction

/-- What a piece contributes. -/
def contribution (net : Network ℚ) (t : Nat × Nat) : ℚ :=
  ((net.path net.composites.size t).map net.ratio).prod * net.shareAt t

/-- The pieces of all composites contribute what the composites do. -/
theorem sum_places (hd : net.Downward root) :
    ∑ t ∈ net.places root, net.contribution t =
      ∑ c ∈ Finset.Ico root net.composites.size, net.factor c * net.doneOf c := by
  rw [Finset.sum_finset_product (net.places root) (Finset.Ico root net.composites.size)
    (fun c => Finset.range (net.pieces c).length) fun t => mem_places_iff]
  apply Finset.sum_congr rfl
  intro c hc
  obtain ⟨hroot, hlt⟩ := Finset.mem_Ico.mp hc
  obtain ⟨b, hb⟩ := exists_book? hlt
  rw [doneOf, hb, Option.elim_some, fraction_eq_sum hb, Finset.mul_sum]
  apply Finset.sum_congr rfl
  intro i _
  rw [contribution, prod_path hd (t := (c, i)) hroot hlt]
  ring

/-- What holds of a tree between two reports, besides that no number is old. -/
structure Sound (root : Nat) (l : Log) (net : Network ℚ) : Prop extends Settled root l net where
  present : ∀ c, root ≤ c → c < net.composites.size → (net.sink? c).isSome
  weights : net.Books root fun _ b => ∀ p ∈ b.pieces, 0 < p.weight

/-- A composite below the root has its fraction in a piece. -/
theorem Sound.held (h : net.Sound root l) (hc : root < c) (hlt : c < net.composites.size) :
    ∃ t, net.target? c = some t ∧ t ∈ net.places root ∧ net.shareAt t = net.doneOf c := by
  have hsome := h.present c hc.le hlt
  obtain ⟨t, ht, hroot, -⟩ := h.below c hc hsome
  obtain ⟨b, hb⟩ := exists_book? hlt
  have htold := h.told c b hc.le hb hsome
  rw [ht] at htold
  obtain ⟨p, hp, htotal, hworked⟩ := htold
  refine ⟨t, ht, mem_places.mpr ⟨hroot, p, hp⟩, ?_⟩
  obtain ⟨hnonneg, hle⟩ := Bookkeeping.fraction_bounds (h.weights c b hc.le hb)
  have htotal' : p.total = 1 := htotal
  rw [shareAt, doneOf, hp, hb, Option.elim_some, Option.elim_some, htotal', hworked,
    if_neg one_ne_zero, div_one, min_eq_right hle, max_eq_right hnonneg]

/-- The pieces that are no leaves are the sinks of the composites below the root. -/
theorem Sound.filter_not_leaves (h : net.Sound root l) :
    ((net.places root).filter fun t =>
        ¬ ∀ d ∈ Finset.Ico root net.composites.size, net.target? d ≠ some t) =
      (Finset.Ico (root + 1) net.composites.size).image fun d => (net.target? d).getD (0, 0) := by
  ext t
  simp only [Finset.mem_filter, Finset.mem_image, not_forall, not_not]
  constructor
  · rintro ⟨-, d, hd, htd⟩
    obtain ⟨hroot, hlt⟩ := Finset.mem_Ico.mp hd
    refine ⟨d, Finset.mem_Ico.mpr ⟨Nat.lt_of_le_of_ne hroot ?_, hlt⟩, by rw [htd]; rfl⟩
    rintro rfl
    rw [h.toTree.target?_root] at htd
    cases htd
  · rintro ⟨d, hd, rfl⟩
    obtain ⟨hroot, hlt⟩ := Finset.mem_Ico.mp hd
    obtain ⟨t, ht, hplace, -⟩ := h.held hroot hlt
    rw [ht]
    exact ⟨hplace, d, Finset.mem_Ico.mpr ⟨Nat.le_of_lt hroot, hlt⟩, ht⟩

/-- What a composite below the root contributes, its piece does. -/
theorem Sound.sum_held (h : net.Sound root l) :
    ∑ t ∈ (Finset.Ico (root + 1) net.composites.size).image fun d => (net.target? d).getD (0, 0),
        net.contribution t =
      ∑ c ∈ Finset.Ico (root + 1) net.composites.size, net.factor c * net.doneOf c := by
  rw [Finset.sum_image]
  · apply Finset.sum_congr rfl
    intro c hc
    obtain ⟨hroot, hlt⟩ := Finset.mem_Ico.mp hc
    obtain ⟨t, ht, -, hshare⟩ := h.held hroot hlt
    rw [ht, Option.getD_some, contribution, factor, ht, hshare, Option.elim_some]
  · intro c hc d hd heq
    obtain ⟨hroot, hlt⟩ := Finset.mem_Ico.mp hc
    obtain ⟨hroot', hlt'⟩ := Finset.mem_Ico.mp hd
    obtain ⟨t, ht, -⟩ := h.held hroot hlt
    obtain ⟨t', ht', -⟩ := h.held hroot' hlt'
    simp only [ht, ht', Option.getD_some] at heq
    subst heq
    exact h.single c d t (Nat.le_of_lt hroot) (Nat.le_of_lt hroot') ht ht'

/-- **The sum over the leaves is how much of the root is done.** -/
theorem Sound.flat_eq (h : net.Sound root l) (hlt : root < net.composites.size) :
    net.flat root = net.doneOf root := by
  have hsplit := Finset.sum_filter_add_sum_filter_not (net.places root)
    (fun t => ∀ d ∈ Finset.Ico root net.composites.size, net.target? d ≠ some t) net.contribution
  have hall := sum_places h.toTree.downward
  have hfactor : net.factor root = 1 := by
    rw [factor, h.toTree.target?_root]
    rfl
  rw [Finset.sum_eq_sum_Ico_succ_bot hlt, hfactor, one_mul] at hall
  rw [hall, h.filter_not_leaves, h.sum_held] at hsplit
  exact add_right_cancel hsplit

/-! ### From the first report to the last -/

variable {net₀ : Network ℚ} {begun : Bool}

theorem Nested.weights (h : net₀.Nested l begun net) :
    net.Books net₀.composites.size fun _ b => ∀ p ∈ b.pieces, 0 < p.weight := by
  refine h.books (Bookkeeping.idle_fraction _ Bookkeeping.idle_empty)
    (fun b => ∀ p ∈ b.pieces, 0 < p.weight) (fun _ => True) (fun b i report hb _ => ?_)
    (fun p hp => absurd hp (Array.not_mem_empty p)) (fun b weight hb p hp => ?_)
    ⟨trivial, trivial⟩ (fun _ _ => trivial)
  · obtain ⟨hafter, hseen⟩ := Bookkeeping.forall_react hb i (fun p hp => p.weight_take report ▸ hp)
    exact ⟨hafter, fun e he => ⟨hseen e he, trivial⟩⟩
  · rcases Array.mem_push.mp hp with hp | rfl
    · exact hb p hp
    · exact Bookkeeping.validWeight_pos weight

theorem Nested.sound (h : net₀.Nested l begun net) (hrunning : net.Running net₀.composites.size) :
    net.Sound net₀.composites.size l where
  toSettled := h.settled Bookkeeping.idle_fraction hrunning
  present := h.present
  weights := h.weights

/-- **A tree of composites counts its leaves.** At any time, and so after every report on a leaf,
the last amount that the log of the tree has been told is the sum over the leaves, as long as none
of the composites is over. A leaf contributes its share times the product of the ratios on the way
to it; composites without pieces contribute nothing. -/
theorem nested_flattens {net₀ net : Network ℚ} {l : Log} {begun : Bool}
    (h : net₀.Nested l begun net) (hrunning : net.Running net₀.composites.size) :
    (amounts net.heard).getLast? = some (net.flat net₀.composites.size) := by
  have hsound := h.sound hrunning
  obtain ⟨b, hb⟩ := exists_book? h.lt
  have htold := hsound.told _ b (Nat.le_refl _) hb (hsound.present _ (Nat.le_refl _) h.lt)
  rw [hsound.toTree.target?_root] at htold
  rw [hsound.flat_eq h.lt, doneOf, hb]
  exact htold

/-- A composite with two pieces, the second of which is a composite with two pieces itself, and some
reports on two of the leaves. -/
def twoLevels : Network ℚ :=
  let net := (({} : Network ℚ).addComposite (.log ⟨"root", none, none⟩)).1
  let net := ((net.addPart 0 1).1.addPart 0 3).1
  let net := (net.addComposite (.relay (.part 0 1) none)).1
  let net := ((net.addPart 1 1).1.addPart 1 1).1
  let net := ((net.deliver (.total 2) (.part 0 0)).1.deliver (.advance 1) (.part 0 0)).1
  ((net.deliver (.total 4) (.part 1 0)).1.deliver (.worked 3 none) (.part 1 0)).1

theorem twoLevels_flattens :
    Nested {} ⟨"root", none, none⟩ true twoLevels ∧ twoLevels.Running 0 ∧
      (amounts twoLevels.heard).getLast? = some (twoLevels.flat 0) ∧
        twoLevels.flat 0 = 13 / 32 := by
  have hrelay : (Sink.relay (.part 0 1) none : Sink ℚ).target? = some (0, 1) := rfl
  have hfirst : (Sink.part 0 0 : Sink ℚ).target? = some (0, 0) := rfl
  have hinner : (Sink.part 1 0 : Sink ℚ).target? = some (1, 0) := rfl
  have hnested : Nested {} ⟨"root", none, none⟩ true twoLevels := by
    have hroot : Nested ({} : Network ℚ) ⟨"root", none, none⟩ false _ := .root
    have houter := (hroot.add 1 (Nat.le_refl 0)).add 3 (Nat.le_refl 0)
    have hnest := houter.nest hrelay (by decide +kernel)
    have hbuilt := (hnest.add 1 (Nat.zero_le 1)).add 1 (Nat.zero_le 1)
    have hhalf := (hbuilt.report (.total 2) hfirst (by decide +kernel)).report (.advance 1) hfirst
      (by decide +kernel)
    exact (hhalf.report (.total 4) hinner (by decide +kernel)).report (.worked 3 none) hinner
      (by decide +kernel)
  have hrunning : twoLevels.Running 0 := by
    intro c b _ hb
    have hlt : c < 2 := lt_of_book? hb
    have hopen : ∀ c < 2, (twoLevels.book? c).all (fun b => !b.completed) = true := by
      decide +kernel
    have hall := hopen c hlt
    rw [hb] at hall
    exact Bool.not_eq_true' _ ▸ hall
  exact ⟨hnested, hrunning, nested_flattens hnested hrunning, by decide +kernel⟩

end Network

end Estree.Progress
