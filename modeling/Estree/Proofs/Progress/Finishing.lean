import Estree.Proofs.Progress.Flattening
import Estree.Proofs.Progress.Order

/-!
# What the end of a piece counts for

When a piece is reported to be over, all of its work is taken as done. How much of the whole this is
depends on its total. A piece whose total has been told counts with all of its weight from then on,
however much had been reported before. A piece whose total was never told, or is nothing, has no
work to be done, and it still counts as not begun when it is over.

So with exact amounts the last amount that is told of a whole, right before its end, is the part of
the weights that belongs to the pieces with a total. It is less than one as soon as a piece has
ended without.

* `Bookkeeping.fraction_finish`: how much of the whole is done when a piece ends;
* `Network.session_worked_eq`: the pieces that are over have all of their work done, if nothing is
  reported on them afterwards;
* `Network.ended_pieces_count`: what is told when a piece ends, and when the last one does.
-/

namespace Estree.Progress

open Quantity

/-! ### One piece -/

/-- How much of the piece is done when it is over. Without a total nothing is. -/
def Piece.endShare (p : Piece ℚ) : ℚ := if p.total = 0 then 0 else 1

theorem Piece.share_of_worked_eq {p : Piece ℚ} (h : p.worked = p.total) : p.share = p.endShare := by
  rw [p.share_eq, endShare]
  split
  · rfl
  · next htotal => rw [h, div_self htotal, min_self, max_eq_right zero_le_one]

theorem Piece.share_finish (p : Piece ℚ) : p.finish.share = p.endShare :=
  share_of_worked_eq (p := p.finish) rfl

namespace Bookkeeping

variable {b : Bookkeeping ℚ} {i : Nat} {p : Piece ℚ}

/-- The part of the weights that belongs to the pieces with a total. -/
def measured (b : Bookkeeping ℚ) : ℚ :=
  ((b.pieces.toList.filter fun p => p.total ≠ 0).map Piece.weight).sum /
    (b.pieces.toList.map Piece.weight).sum

/-- A report on a piece puts the piece after it in the place of the piece. -/
theorem toList_react (hp : b.pieces[i]? = some p) (report : Report ℚ) :
    (b.react i report).1.pieces.toList = b.pieces.toList.set i (p.take report) := by
  obtain ⟨hi, -⟩ := Array.getElem?_eq_some_iff.mp hp
  have hlt : i < b.pieces.toList.length := hi
  refine List.ext_getElem? fun j => ?_
  rw [Array.getElem?_toList, react_pieces hp, List.getElem?_set, Array.getElem?_toList]
  by_cases h : i = j
  · rw [if_pos h, if_pos h.symm, if_pos hlt]
  · rw [if_neg h, if_neg (Ne.symm h)]

/-- A sum over the pieces, with one of them apart. -/
theorem sum_pieces (hp : b.pieces[i]? = some p) (f : Piece ℚ → ℚ) :
    (b.pieces.toList.map f).sum = f p + ((b.pieces.toList.eraseIdx i).map f).sum := by
  obtain ⟨hi, hget⟩ := Array.getElem?_eq_some_iff.mp hp
  have hlt : i < b.pieces.toList.length := hi
  have hperm := List.getElem_cons_eraseIdx_perm hlt
  rw [Array.getElem_toList, hget] at hperm
  rw [← (hperm.map f).sum_eq, List.map_cons, List.sum_cons]

theorem sum_pieces_react (hp : b.pieces[i]? = some p) (report : Report ℚ) (f : Piece ℚ → ℚ) :
    ((b.react i report).1.pieces.toList.map f).sum =
      f (p.take report) + ((b.pieces.toList.eraseIdx i).map f).sum := by
  obtain ⟨hi, -⟩ := Array.getElem?_eq_some_iff.mp hp
  have hlt : i < b.pieces.toList.length := hi
  have hperm := List.set_perm_cons_eraseIdx hlt (p.take report)
  rw [toList_react hp, (hperm.map f).sum_eq, List.map_cons, List.sum_cons]

/-- How much of the whole is done after a report on a piece. -/
theorem fraction_react (hp : b.pieces[i]? = some p) (report : Report ℚ) :
    (b.react i report).1.fraction =
      (p.weight * (p.take report).share +
          ((b.pieces.toList.eraseIdx i).map fun q => q.weight * q.share).sum) /
        (b.pieces.toList.map Piece.weight).sum := by
  rw [fraction_eq, sum_pieces_react hp, sum_pieces_react hp, sum_pieces hp, p.weight_take]

/-- **How much of the whole is done when a piece ends**: the piece counts with what it comes to in
the end, and the others as before. -/
theorem fraction_finish (hp : b.pieces[i]? = some p) (hd : p.done = false) :
    (b.react i .done).1.fraction =
      (p.weight * p.endShare +
          ((b.pieces.toList.eraseIdx i).map fun q => q.weight * q.share).sum) /
        (b.pieces.toList.map Piece.weight).sum := by
  have htake : p.take .done = p.finish := if_neg (by simp [hd])
  rw [fraction_react hp, htake, p.share_finish]

/-! ### All pieces -/

theorem sum_endShare (ps : List (Piece ℚ)) :
    (ps.map fun p => p.weight * p.endShare).sum =
      ((ps.filter fun p => p.total ≠ 0).map Piece.weight).sum := by
  induction ps with
  | nil => rfl
  | cons p ps ih =>
    rw [List.map_cons, List.sum_cons, ih, Piece.endShare]
    by_cases h : p.total = 0
    · simp [h]
    · simp [h]

/-- Where the pieces have all of their work done, what is done of the whole is the part of the
measured pieces. -/
theorem fraction_eq_measured (h : ∀ p ∈ b.pieces, p.worked = p.total) :
    b.fraction = b.measured := by
  have hshares : (b.pieces.toList.map fun p => p.weight * p.share) =
      b.pieces.toList.map fun p => p.weight * p.endShare := by
    refine List.map_congr_left fun p hp => ?_
    rw [Piece.share_of_worked_eq (h p (Array.mem_toList_iff.mp hp))]
  rw [fraction_eq, hshares, sum_endShare, measured]

/-- This is the whole if and only if all pieces are measured. -/
theorem measured_eq_one_iff (hne : 0 < b.pieces.size) (hw : ∀ p ∈ b.pieces, 0 < p.weight) :
    b.measured = 1 ↔ ∀ p ∈ b.pieces, p.total ≠ 0 := by
  have hpos {ps : List (Piece ℚ)} (hsub : ∀ p ∈ ps, p ∈ b.pieces) (hps : ps ≠ []) :
      0 < (ps.map Piece.weight).sum := by
    refine List.sum_pos _ (fun x hx => ?_) (by simpa using hps)
    obtain ⟨p, hp, rfl⟩ := List.mem_map.mp hx
    exact hw p (hsub p hp)
  have hsome : b.pieces.toList ≠ [] := by simpa [← Array.size_eq_zero_iff] using hne.ne'
  have hall := hpos (fun p hp => Array.mem_toList_iff.mp hp) hsome
  -- the weights are those of the measured pieces and those of the others
  have hsplit := ((List.filter_append_perm (fun p : Piece ℚ => p.total ≠ 0)
    b.pieces.toList).map Piece.weight).sum_eq
  rw [List.map_append, List.sum_append] at hsplit
  rw [measured, div_eq_one_iff_eq hall.ne', ← hsplit, left_eq_add]
  constructor
  · intro hzero p hp htotal
    have hmem : p ∈ b.pieces.toList.filter fun p => !decide (p.total ≠ 0) := by
      simp [htotal, hp]
    have hrest := hpos (fun p hp => Array.mem_toList_iff.mp (List.mem_of_mem_filter hp))
      (List.ne_nil_of_mem hmem)
    exact hrest.ne' hzero
  · intro h
    have hnone : (b.pieces.toList.filter fun p => !decide (p.total ≠ 0)) = [] := by
      rw [List.filter_eq_nil_iff]
      intro p hp
      simp [h p (Array.mem_toList_iff.mp hp)]
    rw [hnone]
    rfl

end Bookkeeping

/-! ### Sessions -/

/-- Nothing is reported on a piece after its end. -/
def EndsAreFinal {α : Type} (ops : List (Operation α)) : Prop :=
  ops.Pairwise fun op later => ∀ i, op = .report i .done → ∀ report, later ≠ .report i report

namespace Network

variable {α : Type} [Quantity α] (net : Network α) (l : Log)

/-- **The pieces that are over have all of their work done**, if nothing is reported on them
afterwards. -/
theorem session_worked_eq {ops : List (Operation α)} (h : EndsAreFinal ops) {i : Nat} {p : Piece α}
    (hp : (net.sessionBook l ops).pieces[i]? = some p) (hd : p.done = true) :
    p.worked = p.total ∧ .report i .done ∈ ops := by
  induction ops using List.reverseRecOn generalizing i p with
  | nil =>
    obtain ⟨hb, -⟩ := session_nil net l
    rw [hb] at hp
    cases hp
  | append_singleton ops op ih =>
    obtain ⟨hops, -, hlast⟩ := List.pairwise_append.mp h
    have ih := @ih hops
    obtain ⟨hb, -⟩ := session_operate net l ops op
    rw [hb] at hp
    cases op with
    | register weight =>
      simp only [Bookkeeping.operate, Bookkeeping.register, Array.getElem?_push] at hp
      split at hp
      · obtain rfl := Option.some.inj hp
        cases hd
      · obtain ⟨hworked, hmem⟩ := ih hp hd
        exact ⟨hworked, List.mem_append_left _ hmem⟩
    | report j report =>
      rw [Bookkeeping.operate, Bookkeeping.react_piece] at hp
      obtain ⟨q, hq, rfl⟩ := Option.map_eq_some_iff.mp hp
      rw [reportsOn_singleton] at hd ⊢
      by_cases hij : j = i
      · subst hij
        rw [if_pos rfl] at hd ⊢
        -- the piece was not over, for there would be no report then
        have hopen : q.done = false := by
          by_contra hover
          obtain ⟨-, hmem⟩ := ih hq (Bool.not_eq_false _ ▸ hover)
          exact hlast _ hmem _ List.mem_cons_self j rfl report rfl
        have hend : (q.take report).done = true := hd
        rw [Piece.done_take, hopen, Bool.false_or, isDone_iff] at hend
        subst hend
        have hfinish : q.take .done = q.finish := if_neg (by simp [hopen])
        rw [List.foldl_cons, List.foldl_nil, hfinish]
        exact ⟨rfl, List.mem_append_right _ List.mem_cons_self⟩
      · rw [if_neg hij] at hd ⊢
        obtain ⟨hworked, hmem⟩ := ih hq hd
        exact ⟨hworked, List.mem_append_left _ hmem⟩

/-- The weights in a session are positive. -/
theorem session_weight_pos (net : Network ℚ) (l : Log) (ops : List (Operation ℚ)) :
    ∀ p ∈ (net.sessionBook l ops).pieces, 0 < p.weight := by
  induction ops using List.reverseRecOn with
  | nil =>
    obtain ⟨hb, -⟩ := session_nil net l
    rw [hb]
    exact fun p hp => absurd hp (Array.not_mem_empty p)
  | append_singleton ops op ih =>
    obtain ⟨hb, -⟩ := session_operate net l ops op
    rw [hb]
    cases op with
    | register weight =>
      intro p hp
      rcases Array.mem_push.mp hp with hp | rfl
      · exact ih p hp
      · exact Bookkeeping.validWeight_pos weight
    | report i report =>
      exact (Bookkeeping.forall_react ih i fun p hp => p.weight_take report ▸ hp).1

/-- **What the end of a piece counts for.** At any time in a session, when a piece ends that was not
over, it counts with its whole weight if it has a total, and with nothing otherwise, and the amount
done of the whole is told, unless the whole has been over before. When the whole is over, the last
amount that is told is the part of the weights that belongs to the pieces with a total, if nothing
has been reported on a piece after its end; so it is one if and only if all pieces have a total. -/
theorem ended_pieces_count (net : Network ℚ) (l : Log) (ops : List (Operation ℚ)) :
    (∀ i p, (net.sessionBook l ops).pieces[i]? = some p → p.done = false →
      let before := net.sessionBook l ops
      let after := net.sessionBook l (ops ++ [.report i .done])
      after.fraction = (p.weight * p.endShare +
          ((before.pieces.toList.eraseIdx i).map fun q => q.weight * q.share).sum) /
        (before.pieces.toList.map Piece.weight).sum ∧
      net.sessionLog l (ops ++ [.report i .done]) = net.sessionLog l ops ++
        if before.completed then []
        else .worked after.fraction none :: if after.completed then [.done] else []) ∧
    ∀ op, EndsAreFinal (ops ++ [op]) → (net.sessionBook l ops).completed = false →
      (net.sessionBook l (ops ++ [op])).completed = true →
      let after := net.sessionBook l (ops ++ [op])
      net.sessionLog l (ops ++ [op]) =
        net.sessionLog l ops ++ [.worked after.measured none, .done] ∧
      (after.measured = 1 ↔ ∀ p ∈ after.pieces, p.total ≠ 0) := by
  refine ⟨fun i p hp hd => ?_, fun op hfinal hopen hover => ?_⟩
  · obtain ⟨hb, hlog⟩ := session_operate net l ops (.report i .done)
    dsimp only
    rw [hlog, hb]
    refine ⟨Bookkeeping.fraction_finish hp hd, congrArg _ ?_⟩
    simp only [Bookkeeping.operate]
    cases hc : (net.sessionBook l ops).completed with
    | true => rw [Bookkeeping.react_closed hc, if_pos rfl, List.map_nil]
    | false =>
      rw [Bookkeeping.react_open hp hc, Bookkeeping.forwards, if_neg (by simp [hd]),
        if_neg Bool.false_ne_true]
      rfl
  · obtain ⟨hlog, hall⟩ := session_closing net l hopen hover
    have hworked : ∀ p ∈ (net.sessionBook l (ops ++ [op])).pieces, p.worked = p.total := by
      intro p hp
      obtain ⟨i, hi⟩ := Array.mem_iff_getElem?.mp hp
      exact (session_worked_eq net l hfinal hi (hall.2 p hp)).1
    rw [Bookkeeping.fraction_eq_measured hworked] at hlog
    exact ⟨hlog, Bookkeeping.measured_eq_one_iff hall.1 (session_weight_pos net l (ops ++ [op]))⟩

/-- A piece ends, and no total was told. -/
def endedOnly : List (Operation ℚ) := [.register 1, .report 0 .done]

/-- All the work is over, and nothing of it is done. -/
theorem endedOnly_counts_nothing :
    EndsAreFinal endedOnly ∧
    (sessionBook {} ⟨"root", none, none⟩ [.register (1 : ℚ)]).pieces = #[⟨1, 0, 0, false⟩] ∧
    sessionLog {} ⟨"root", none, none⟩ endedOnly =
      [.total 1, .worked 0 none, .worked 0 none, .done] ∧
    (amounts (sessionLog {} ⟨"root", none, none⟩ endedOnly)).getLast? ≠ some 1 := by
  have hfinal : EndsAreFinal endedOnly := by simp [EndsAreFinal, endedOnly]
  exact ⟨hfinal, by decide +kernel, by decide +kernel, by decide +kernel⟩

/-- Two pieces end, and the total of one of them was told. -/
theorem halfMeasured_counts :
    let ops : List (Operation ℚ) :=
      [.register 1, .register 3, .report 0 (.total 4), .report 0 .done]
    EndsAreFinal (ops ++ [.report 1 .done]) ∧
    (sessionBook {} ⟨"root", none, none⟩ ops).completed = false ∧
    (sessionBook {} ⟨"root", none, none⟩ (ops ++ [.report 1 .done])).completed = true ∧
    (sessionBook {} ⟨"root", none, none⟩ ops).pieces[1]? = some ⟨3, 0, 0, false⟩ ∧
    sessionLog {} ⟨"root", none, none⟩ (ops ++ [.report 1 .done]) =
      sessionLog {} ⟨"root", none, none⟩ ops ++ [.worked (1 / 4) none, .done] := by
  intro ops
  have hfinal : EndsAreFinal (ops ++ [.report 1 .done]) := by simp [EndsAreFinal, ops]
  have hopen : (sessionBook {} ⟨"root", none, none⟩ ops).completed = false := by decide +kernel
  have hover : (sessionBook {} ⟨"root", none, none⟩ (ops ++ [.report 1 .done])).completed = true :=
    by decide +kernel
  obtain ⟨-, hlast⟩ := ended_pieces_count {} ⟨"root", none, none⟩ ops
  obtain ⟨hlog, -⟩ := hlast _ hfinal hopen hover
  refine ⟨hfinal, hopen, hover, by decide +kernel, hlog.trans ?_⟩
  have hmeasured : (sessionBook {} ⟨"root", none, none⟩ (ops ++ [.report 1 .done])).measured =
      1 / 4 := by decide +kernel
  rw [hmeasured]

end Network

end Estree.Progress
