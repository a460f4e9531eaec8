import Estree.Proofs.Progress.Finishing

/-!
# Amounts that are told never go down

With exact numbers, what a composite tells its sink is always a number from zero to one, whatever is
reported on the pieces: the weights are positive, for a weight that cannot be used is replaced, and
the share of a piece is kept between zero and one.

The amounts may well go down. A piece that is added later brings the mean down, and so does a second
total that is larger than the first, or an amount that is taken back. If nothing of this happens
they never go down. The end of a piece may take an amount back that was more than the total; what
counts then is the whole piece before and after.

* `Piece.share_le_take`: the share of a piece after a report on it;
* `Bookkeeping.fraction_le_react`: the fraction follows the share;
* `Network.amounts_bounded_and_monotone`: the amounts that are told in a session.
-/

namespace Estree.Progress

open Quantity

/-! ### Totals -/

section Totals

variable {α : Type}

/-- The total, if the report tells it. -/
def Report.total? : Report α → Option α
  | .total amount => some amount
  | _ => none

/-- The totals that are told in some reports, the first one first. -/
def totals (reports : List (Report α)) : List α := reports.filterMap Report.total?

theorem totals_append (reports later : List (Report α)) :
    totals (reports ++ later) = totals reports ++ totals later := List.filterMap_append

variable [Quantity α]

theorem Piece.total_take (p : Piece α) (r : Report α) :
    (p.take r).total = r.total?.getD p.total := by
  cases r with
  | done =>
    rw [Piece.take]
    split <;> rfl
  | _ => rfl

/-- The total of a piece is the one that was told last. -/
theorem Piece.total_foldl_take (p : Piece α) (reports : List (Report α)) :
    (reports.foldl Piece.take p).total = (totals reports).getLast?.getD p.total := by
  induction reports using List.reverseRecOn with
  | nil => rfl
  | append_singleton reports r ih =>
    rw [List.foldl_append, List.foldl_cons, List.foldl_nil, Piece.total_take, ih, totals_append,
      List.getLast?_append]
    cases r <;> simp [totals, Report.total?]

end Totals

/-! ### One piece -/

namespace Piece

variable {p q : Piece ℚ}

/-- No report takes back any of the amount done, but for the end. -/
def NeverLowered : Piece ℚ → List (Report ℚ) → Prop
  | _, [] => True
  | p, r :: rest => (r ≠ .done → p.worked ≤ (p.take r).worked) ∧ (p.take r).NeverLowered rest

instance decidableNeverLowered : (p : Piece ℚ) → (reports : List (Report ℚ)) →
    Decidable (p.NeverLowered reports)
  | _, [] => inferInstanceAs (Decidable True)
  | p, r :: rest =>
    have := decidableNeverLowered (p.take r) rest
    inferInstanceAs (Decidable ((r ≠ .done → p.worked ≤ (p.take r).worked) ∧
      (p.take r).NeverLowered rest))

theorem neverLowered_append {p : Piece ℚ} {reports later : List (Report ℚ)} :
    p.NeverLowered (reports ++ later) ↔
      p.NeverLowered reports ∧ (reports.foldl Piece.take p).NeverLowered later := by
  induction reports generalizing p with
  | nil => simp [NeverLowered]
  | cons r reports ih => rw [List.cons_append, NeverLowered, NeverLowered, ih, and_assoc]; rfl

/-- What is reported on a piece that starts as `p`: its total once at most, which is not negative,
and amounts done that never go down. -/
structure Steady (p : Piece ℚ) (reports : List (Report ℚ)) : Prop where
  /-- The total is told once at most. -/
  once : (totals reports).length ≤ 1
  /-- It is not negative. -/
  nonneg : ∀ amount ∈ totals reports, 0 ≤ amount
  /-- What has been done is not taken back. -/
  kept : p.NeverLowered reports

theorem Steady.left {reports later : List (Report ℚ)} (h : p.Steady (reports ++ later)) :
    p.Steady reports := by
  obtain ⟨honce, hnonneg, hkept⟩ := h
  rw [totals_append] at honce hnonneg
  rw [List.length_append] at honce
  exact ⟨by omega, fun amount ha => hnonneg amount (List.mem_append_left _ ha),
    (neverLowered_append.mp hkept).1⟩

theorem share_le_share (htotal : 0 ≤ p.total) (hsame : q.total = p.total)
    (hworked : p.worked ≤ q.worked) : p.share ≤ q.share := by
  rw [p.share_eq, q.share_eq, hsame]
  split
  · exact le_refl 0
  · exact max_le_max_left 0 (min_le_min_left 1 (div_le_div_of_nonneg_right hworked htotal))

/-- No share is greater than the one of a piece that is over. -/
theorem share_le_endShare (p : Piece ℚ) : p.share ≤ p.endShare := by
  by_cases h : p.total = 0
  · rw [p.share_eq, endShare, if_pos h, if_pos h]
  · rw [endShare, if_neg h]
    exact p.share_bounds.2

/-- **The share of a piece after a report on it** is no smaller, if there was no total before one is
told, and no amount is taken back but by the end. -/
theorem share_le_take {r : Report ℚ} (htotal : 0 ≤ p.total)
    (hfirst : r.total? ≠ none → p.total = 0)
    (hworked : r ≠ .done → p.worked ≤ (p.take r).worked) : p.share ≤ (p.take r).share := by
  cases r with
  | total amount =>
    -- without a total the share was nothing
    rw [p.share_eq, if_pos (hfirst (Option.some_ne_none amount))]
    exact (p.take (.total amount)).share_bounds.1
  | done =>
    rw [take]
    split
    · exact le_refl _
    · rw [p.share_finish]
      exact p.share_le_endShare
  | title text => exact le_refl _
  | worked amount title => exact share_le_share htotal rfl (hworked (by simp))
  | advance amount => exact share_le_share htotal rfl (hworked (by simp))

/-- A piece that nothing has been reported on before makes steady progress. -/
theorem Steady.share_le {weight : ℚ} {reports : List (Report ℚ)} {r : Report ℚ}
    (h : (fresh weight).Steady (reports ++ [r])) :
    (reports.foldl Piece.take (fresh weight)).share ≤
      ((reports.foldl Piece.take (fresh weight)).take r).share := by
  have htotal := (fresh weight).total_foldl_take reports
  obtain ⟨honce, hnonneg, hkept⟩ := h
  rw [totals_append] at honce hnonneg
  rw [List.length_append] at honce
  refine share_le_take ?_ (fun hr => ?_) (neverLowered_append.mp hkept).2.1
  · rw [htotal]
    cases hlast : (totals reports).getLast? with
    | none => exact le_refl 0
    | some amount =>
      exact hnonneg amount (List.mem_append_left _ (List.mem_of_getLast? hlast))
  · -- this is the only total, so there was none before
    obtain ⟨amount, hamount⟩ := Option.ne_none_iff_exists'.mp hr
    have hlength : (totals [r]).length = 1 := by simp [totals, hamount]
    have hnone : totals reports = [] := List.eq_nil_of_length_eq_zero (by omega)
    rw [htotal, hnone]
    rfl

end Piece

/-! ### The whole -/

/-- **The fraction follows the share** of the piece that is reported on. -/
theorem Bookkeeping.fraction_le_react {b : Bookkeeping ℚ} {i : Nat} {p : Piece ℚ} {r : Report ℚ}
    (hw : ∀ q ∈ b.pieces, 0 < q.weight) (hp : b.pieces[i]? = some p)
    (h : p.share ≤ (p.take r).share) : b.fraction ≤ (b.react i r).1.fraction := by
  have hweights : 0 ≤ (b.pieces.toList.map Piece.weight).sum := by
    refine List.sum_nonneg fun x hx => ?_
    obtain ⟨q, hq, rfl⟩ := List.mem_map.mp hx
    exact (hw q (Array.mem_toList_iff.mp hq)).le
  have hpiece : p.weight * p.share ≤ p.weight * (p.take r).share :=
    mul_le_mul_of_nonneg_left h (hw p (Array.mem_of_getElem? hp)).le
  rw [fraction_react hp, fraction_eq, sum_pieces hp fun q => q.weight * q.share]
  exact div_le_div_of_nonneg_right (add_le_add_left hpiece _) hweights

/-! ### Sessions -/

namespace Network

variable (net : Network ℚ) (l : Log)

/-- An operation leads to one amount at most, which is the fraction after it. -/
theorem amounts_operate (ops : List (Operation ℚ)) (op : Operation ℚ) :
    amounts (net.sessionLog l (ops ++ [op])) = amounts (net.sessionLog l ops) ∨
      amounts (net.sessionLog l (ops ++ [op])) =
        amounts (net.sessionLog l ops) ++ [(net.sessionBook l (ops ++ [op])).fraction] := by
  obtain ⟨hb, hlog⟩ := session_operate net l ops op
  have hamounts : amounts (net.sessionLog l (ops ++ [op])) = amounts (net.sessionLog l ops) ++
      amounts ((net.sessionBook l ops).operate op).2 := by
    rw [hlog, amounts, List.filterMap_append]
    rfl
  rw [hamounts, hb]
  cases op with
  | register weight => exact .inl (List.append_nil _)
  | report i r =>
    rw [Bookkeeping.operate]
    cases hc : (net.sessionBook l ops).completed with
    | true =>
      rw [Bookkeeping.react_closed hc]
      exact .inl (List.append_nil _)
    | false =>
      rcases Bookkeeping.react_amounts hc i r with hone | ⟨hnone, -⟩
      · exact .inr (congrArg _ hone)
      · exact .inl ((congrArg _ hnone).trans (List.append_nil _))

/-- What is told of a whole is a number from zero to one. -/
theorem amounts_bounded (ops : List (Operation ℚ)) :
    ∀ x ∈ amounts (net.sessionLog l ops), 0 ≤ x ∧ x ≤ 1 := by
  induction ops using List.reverseRecOn with
  | nil =>
    obtain ⟨-, hlog⟩ := session_nil net l
    rw [hlog]
    exact List.forall_mem_singleton.mpr ⟨le_refl 0, zero_le_one⟩
  | append_singleton ops op ih =>
    rcases amounts_operate net l ops op with hsame | hmore
    · exact hsame ▸ ih
    · rw [hmore]
      refine List.forall_mem_append.mpr ⟨ih, List.forall_mem_singleton.mpr ?_⟩
      exact Bookkeeping.fraction_bounds (session_weight_pos net l (ops ++ [op]))

/-- Of the pieces that are added nothing is told. -/
theorem sessionLog_registering (weights : List ℚ) :
    net.sessionLog l (registering weights) = [.total 1, .worked 0 none] := by
  induction weights using List.reverseRecOn with
  | nil => exact (session_nil net l).2
  | append_singleton weights w ih =>
    obtain ⟨-, hlog⟩ := session_operate net l (registering weights) (.register w)
    have hops : registering (weights ++ [w]) = registering weights ++ [.register w] := by
      simp [registering]
    rw [hops, hlog, ih]
    rfl

/-- What is reported on each piece is steady. -/
def AllSteady (weights : List ℚ) (xs : List (Nat × Report ℚ)) : Prop :=
  ∀ i (hi : i < weights.length),
    (Piece.fresh (Bookkeeping.validWeight weights[i])).Steady (reportsOn i xs)

variable {weights : List ℚ} {xs : List (Nat × Report ℚ)}

theorem AllSteady.left {later : List (Nat × Report ℚ)} (h : AllSteady weights (xs ++ later)) :
    AllSteady weights xs := by
  intro i hi
  have hboth := h i hi
  rw [reportsOn_append] at hboth
  exact hboth.left

/-- Where all pieces are steady the fraction never goes down. -/
theorem AllSteady.fraction_le {i : Nat} {r : Report ℚ} (h : AllSteady weights (xs ++ [(i, r)])) :
    (net.sessionBook l (registering weights ++ reporting xs)).fraction ≤
      ((net.sessionBook l (registering weights ++ reporting xs)).react i r).1.fraction := by
  cases hp : (net.sessionBook l (registering weights ++ reporting xs)).pieces[i]? with
  | none =>
    simp only [Bookkeeping.react, hp]
    exact le_refl _
  | some p =>
    have hi := lt_of_session_piece net l hp
    have hpiece := hp
    rw [session_piece_of_lt net l xs hi] at hpiece
    have hsteady := h i hi
    rw [reportsOn_append, reportsOn_singleton, if_pos rfl] at hsteady
    refine Bookkeeping.fraction_le_react (session_weight_pos net l _) hp ?_
    rw [← Option.some.inj hpiece]
    exact hsteady.share_le

/-- What has been told so far goes up, and not beyond the fraction. -/
theorem AllSteady.amounts_grow (h : AllSteady weights xs) :
    (amounts (net.sessionLog l (registering weights ++ reporting xs))).Pairwise (· ≤ ·) ∧
      ∀ x ∈ amounts (net.sessionLog l (registering weights ++ reporting xs)),
        x ≤ (net.sessionBook l (registering weights ++ reporting xs)).fraction := by
  induction xs using List.reverseRecOn with
  | nil =>
    have hbounds := Bookkeeping.fraction_bounds (session_weight_pos net l (registering weights))
    rw [reporting, List.map_nil, List.append_nil, sessionLog_registering]
    exact ⟨List.pairwise_singleton _ _, List.forall_mem_singleton.mpr hbounds.1⟩
  | append_singleton xs x ih =>
    obtain ⟨hsorted, hbelow⟩ := ih h.left
    obtain ⟨hb, -⟩ := session_operate net l (registering weights ++ reporting xs) (.report x.1 x.2)
    have hops : registering weights ++ reporting (xs ++ [x]) =
        registering weights ++ reporting xs ++ [.report x.1 x.2] := by
      simp [reporting]
    have hup := h.fraction_le net l
    rw [← hops, Bookkeeping.operate] at hb
    rw [← hb] at hup
    have hbelow' : ∀ y ∈ amounts (net.sessionLog l (registering weights ++ reporting xs)),
        y ≤ (net.sessionBook l (registering weights ++ reporting (xs ++ [x]))).fraction :=
      fun y hy => (hbelow y hy).trans hup
    have hstep := amounts_operate net l (registering weights ++ reporting xs) (.report x.1 x.2)
    rw [← hops] at hstep
    rcases hstep with hsame | hmore
    · rw [hsame]
      exact ⟨hsorted, hbelow'⟩
    · rw [hmore]
      refine ⟨List.pairwise_append.mpr ⟨hsorted, List.pairwise_singleton _ _, ?_⟩, ?_⟩
      · exact fun y hy => List.forall_mem_singleton.mpr (hbelow' y hy)
      · exact List.forall_mem_append.mpr ⟨hbelow', List.forall_mem_singleton.mpr (le_refl _)⟩

/-- **Amounts are bounded, and steady reports only let them grow.** Whatever is done with a
composite and its pieces, each amount that its sink is told is a number from zero to one.

Pieces of any weights are added, and then there are reports on them. If each piece is told its total
once at most, and no negative one, and if no report but the end takes back any of what has been done
of its piece, then the amounts that the sink is told never go down. -/
theorem amounts_bounded_and_monotone (net : Network ℚ) (l : Log) :
    (∀ ops, ∀ x ∈ amounts (net.sessionLog l ops), 0 ≤ x ∧ x ≤ 1) ∧
    ∀ weights xs, AllSteady weights xs →
      (amounts (net.sessionLog l (registering weights ++ reporting xs))).Pairwise (· ≤ ·) :=
  ⟨amounts_bounded net l, fun _ _ h => (h.amounts_grow net l).1⟩

/-- Reports on two pieces; more is done of the first one than there was to do. -/
def overdone : List (Nat × Report ℚ) :=
  [(0, .total 4), (0, .worked 2 (some "half")), (1, .worked 1 none), (0, .advance 5), (0, .done),
    (1, .total 2), (0, .done), (1, .done)]

/-- The end of the first piece takes something back, and the amounts grow all the same. The weight
of the second piece cannot be used. -/
theorem overdone_monotone :
    AllSteady [3, -2] overdone ∧
    (sessionBook {} ⟨"root", none, none⟩
      (registering [3, -2] ++ reporting (overdone.take 4))).pieces[0]? = some ⟨3, 7, 4, false⟩ ∧
    (sessionBook {} ⟨"root", none, none⟩
      (registering [3, -2] ++ reporting (overdone.take 5))).pieces[0]? = some ⟨3, 4, 4, true⟩ ∧
    amounts (sessionLog {} ⟨"root", none, none⟩ (registering [3, -2] ++ reporting overdone)) =
      [0, 0, 3 / 8, 3 / 8, 3 / 4, 3 / 4, 7 / 8, 1] ∧
    (amounts (sessionLog {} ⟨"root", none, none⟩
      (registering [3, -2] ++ reporting overdone))).Pairwise (· ≤ ·) := by
  have hsteady : AllSteady [3, -2] overdone := fun
    | 0, _ => ⟨by decide +kernel, by decide +kernel, by decide +kernel +revert⟩
    | 1, _ => ⟨by decide +kernel, by decide +kernel, by decide +kernel +revert⟩
    | i + 2, hi => absurd hi (by simp)
  obtain ⟨-, hgrow⟩ := amounts_bounded_and_monotone {} ⟨"root", none, none⟩
  exact ⟨hsteady, by decide +kernel, by decide +kernel, by decide +kernel,
    hgrow [3, -2] overdone hsteady⟩

end Network

end Estree.Progress
