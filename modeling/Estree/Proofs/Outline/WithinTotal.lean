import Estree.Proofs.Outline.Reports
import Estree.Proofs.Progress.Flattening

/-!
# Outlines as pieces of a whole

When the outline of a document is a piece of a larger work, the reports on it end up in the
bookkeeping of a composite, which takes more work than there is for all of it. A piece that counted
too much would therefore seem to be over too early, and nobody would see why. It does not happen:
with exact amounts, what is done of the piece is never more than its total, and equals it in the
end.

* `Progress.Piece.foldl_take_reports`: what is known of the piece after some reports;
* `outline_within_total`: the reports on the outline of a document, and what they come to.
-/

namespace Estree

open Progress (Network Piece Quantity Receiver Report Sink)

namespace Progress

section Pieces

variable {α : Type} [Quantity α] {net : Network α} {c i : Nat} {p : Piece α}

/-- A piece has taken all the reports that its part was given. -/
theorem at?_receiveAll (hp : net.at? (c, i) = some p) (reports : List (Report α)) :
    ((Sink.part c i).receiver.receiveAll reports net).at? (c, i) =
      some (reports.foldl Piece.take p) := by
  induction reports generalizing net p with
  | nil => exact hp
  | cons report reports ih => exact ih (Network.at?_deliver rfl hp report)

end Pieces

/-- The work of a piece is within its total, which makes its share no matter of clamping. -/
structure Piece.Within (p : Piece ℚ) : Prop where
  nonneg : 0 ≤ p.worked
  le : p.worked ≤ p.total
  share : p.share * p.total = p.worked

theorem Piece.within_of_le {p : Piece ℚ} (hnonneg : 0 ≤ p.worked) (hle : p.worked ≤ p.total) :
    p.Within := by
  refine ⟨hnonneg, hle, ?_⟩
  rw [p.share_eq]
  by_cases htotal : p.total = 0
  · have hworked : p.worked = 0 := le_antisymm (htotal ▸ hle) hnonneg
    simp [htotal, hworked]
  · have hpos : 0 < p.total := lt_of_le_of_ne (hnonneg.trans hle) (Ne.symm htotal)
    have hle' : p.worked / p.total ≤ 1 := div_le_one_of_le₀ hle hpos.le
    have hnonneg' : 0 ≤ p.worked / p.total := div_nonneg hnonneg hpos.le
    rw [if_neg htotal, min_eq_right hle', max_eq_right hnonneg', div_mul_cancel₀ _ htotal]

theorem Piece.foldl_take_ticks (p : Piece ℚ) (n : Nat) :
    (List.replicate n Report.tick).foldl Piece.take p = { p with worked := p.worked + n } := by
  induction n generalizing p with
  | zero => simp
  | succ n ih =>
    rw [List.replicate_succ, List.foldl_cons, ih]
    have hone : (p.take Report.tick).worked = p.worked + 1 := rfl
    have hrest : (p.take Report.tick).weight = p.weight ∧ (p.take Report.tick).total = p.total ∧
      (p.take Report.tick).done = p.done := ⟨rfl, rfl, rfl⟩
    obtain ⟨hweight, htotal, hdone⟩ := hrest
    rw [hone, hweight, htotal, hdone]
    push_cast
    ring_nf

/-- What is known of a piece after some of the reports on an outline. -/
theorem Piece.foldl_take_reports (weight : ℚ) (size : Nat) (entries : List Outline.Entry)
    (j : Nat) :
    ((Outline.reports size entries).take (j + 1)).foldl Piece.take (.fresh weight) =
      if j ≤ Outline.work entries then ⟨weight, j, size, false⟩
      else ⟨weight, size, size, true⟩ := by
  have hfirst : (Piece.fresh weight).take (.total (Quantity.ofNat size)) =
      ⟨weight, 0, size, false⟩ := rfl
  rw [Outline.reports, List.take_succ_cons, List.foldl_cons, hfirst, List.take_append,
    List.foldl_append, List.take_replicate, foldl_take_ticks, List.length_replicate]
  split
  · next hle => simp [Nat.sub_eq_zero_of_le hle, Nat.min_eq_left hle]
  · next hlt =>
    obtain ⟨k, hk⟩ := Nat.exists_eq_add_of_lt (Nat.lt_of_not_le hlt)
    have hsub : j - Outline.work entries = k + 1 := by omega
    rw [hsub, List.take_succ_cons, List.take_nil]
    rfl

/-- **The work of a piece stays within its total** while an outline of no more than `size` entries
that are work is reported to it. -/
theorem Piece.within_reports (weight : ℚ) {size : Nat} {entries : List Outline.Entry}
    (hle : Outline.work entries ≤ size) (j : Nat) :
    (((Outline.reports size entries).take j).foldl Piece.take (.fresh weight)).Within := by
  cases j with
  | zero => exact within_of_le (le_refl 0) (le_refl 0)
  | succ j =>
    rw [foldl_take_reports]
    split
    · next hj =>
      have hcast : (j : ℚ) ≤ size := by exact_mod_cast hj.trans hle
      exact within_of_le (Nat.cast_nonneg j) hcast
    · exact within_of_le (Nat.cast_nonneg size) (le_refl _)

/-- In the end the piece is over, and all of its work is done. -/
theorem Piece.foldl_take_all_reports (weight : ℚ) (size : Nat) (entries : List Outline.Entry) :
    (Outline.reports size entries).foldl Piece.take (.fresh weight) =
      ⟨weight, size, size, true⟩ := by
  have hlast := foldl_take_reports weight size entries (Outline.work entries + 1)
  rw [List.take_of_length_le (by simp [Outline.reports])] at hlast
  simpa using hlast

end Progress

/-- **The progress of an outline stays within its total.** -/
theorem outline_within_total {doc : Json.Value} (hdoc : doc.Normal) {a : Arena}
    (h : Arena.ofValue? doc = some a) {steps : Nat} (hsteps : a.walkSteps ≤ steps)
    (s : Outline.Settings) :
    (∀ {α σ : Type} [Quantity α] (r : Receiver α σ) (progress : σ),
      let o := a.outline s r steps Arena.root progress
      let noted := a.outline s r.noting steps Arena.root (progress, [])
      let ticks := o.outline.entries.toList.countP fun e => !e.synthetic
      o.complete ∧ noted.outline = o.outline ∧ noted.progress.1 = o.progress ∧
      noted.progress.2 =
        .total (Quantity.ofNat a.size) :: (List.replicate ticks .tick ++ [.done]) ∧
      o.progress = r.receiveAll noted.progress.2 progress ∧
      ticks ≤ a.size) ∧
    ∀ (net : Network ℚ) (c i : Nat) (weight : ℚ), net.at? (c, i) = some (.fresh weight) →
      let sub := (Sink.part c i).receiver
      let reports := (a.outline s sub.noting steps Arena.root (net, [])).progress.2
      let o := a.outline s sub steps Arena.root net
      (∀ j, ∃ p, (sub.receiveAll (reports.take j) net).at? (c, i) = some p ∧
        p.worked ≤ p.total ∧ p.share * p.total = p.worked) ∧
      ∃ p, o.progress.at? (c, i) = some p ∧ p.done = true ∧ p.worked = p.total ∧ p.total ≠ 0 := by
  have htree := tree_of_ofValue? hdoc h
  refine ⟨fun r progress => ?_, fun net c i weight hp => ?_⟩
  · obtain ⟨hout, -, hstate, hnotes, htaken⟩ :=
      a.outline_reports s r steps Arena.root progress
    obtain ⟨hc, hwork⟩ := htree.work_le s r progress hsteps
    exact ⟨hc, hout, hstate, hnotes, htaken, hwork⟩
  · obtain ⟨-, -, -, hnotes, htaken⟩ :=
      a.outline_reports s (Sink.part c i).receiver steps Arena.root net
    obtain ⟨-, hwork⟩ := htree.work_le s (Sink.part c i).receiver net hsteps
    dsimp only at hnotes htaken ⊢
    rw [htaken, hnotes]
    refine ⟨fun j => ?_, ?_⟩
    · have hwithin := Piece.within_reports weight hwork j
      exact ⟨_, Progress.at?_receiveAll hp _, hwithin.le, hwithin.share⟩
    · refine ⟨_, Progress.at?_receiveAll hp _, ?_⟩
      have hpos : (a.size : ℚ) ≠ 0 := Nat.cast_ne_zero.mpr (Nat.ne_of_gt htree.root_lt)
      rw [Piece.foldl_take_all_reports]
      exact ⟨rfl, rfl, hpos⟩

/-- A condition that lacks all its parts. -/
def bareCondition : Json.Value := .object [("type", .string "IfStatement")]

/-- A composite with one part. -/
def onePart : Network ℚ := ((Network.addComposite {} .silent).1.addPart 0 1).1

theorem bareCondition_within_total :
    bareCondition.Normal ∧ ∃ a, Arena.ofValue? bareCondition = some a ∧
      (a.outline { nulls := true } (Sink.part 0 0).receiver a.walkSteps Arena.root
        onePart).outline.entries.toList.map (·.synthetic) = [false, true, true, true] ∧
      ∃ p, (a.outline { nulls := true } (Sink.part 0 0).receiver a.walkSteps Arena.root
        onePart).progress.at? (0, 0) = some p ∧ p.done = true ∧ p.worked = p.total := by
  have hdoc : bareCondition.Normal :=
    .object (List.pairwise_singleton _ _) (List.forall_mem_singleton.mpr (.string _))
  obtain ⟨a, ha⟩ : ∃ a, Arena.ofValue? bareCondition = some a := ⟨_, rfl⟩
  obtain ⟨-, hsub⟩ := outline_within_total hdoc ha (Nat.le_refl _) { nulls := true }
  obtain ⟨-, p, hp, hdone, hworked, -⟩ := hsub onePart 0 0 _ rfl
  refine ⟨hdoc, a, ha, ?_, p, hp, hdone, hworked⟩
  obtain rfl := Option.some.inj ha
  decide +kernel

end Estree
