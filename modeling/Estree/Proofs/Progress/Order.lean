import Estree.Proofs.Progress.Consistency

/-!
# Reports in any order

The pieces of a whole are worked on side by side, so nobody knows whose report comes next. What a
composite tells its sink on the way depends on the order of the reports. What it comes to in the
end does not: it depends on what was reported on each piece, and in which order on this piece.

The reason is that a piece takes the reports on itself and no others (`session_piece`). The count of
the pieces that are over and the end of the whole follow from the pieces, as long as no piece is
added meanwhile (`completed_iff_allDone`).

* `Interleaves`: some reports are made up of the reports on each piece;
* `interleavings_agree`: two such orders lead to the same bookkeeping, and to the same last word if
  the last thing reported on each piece is its end.
-/

namespace Estree.Progress

open Quantity

variable {α : Type}

/-- The reports on piece `i`, in the order they are made. -/
def reportsOn (i : Nat) (reports : List (Nat × Report α)) : List (Report α) :=
  (reports.filter fun r => r.1 = i).map Prod.snd

/-- What is reported on piece `i` is `parts[i]`, in this order, and there are no other reports. -/
def Interleaves (parts : List (List (Report α))) (reports : List (Nat × Report α)) : Prop :=
  ∀ i, reportsOn i reports = parts.getD i []

/-- The last report, and no report before it, tells of the end. -/
def EndsOnce (reports : List (Report α)) : Prop :=
  ∃ before, reports = before ++ [.done] ∧ .done ∉ before

/-- Pieces of the given weights are added. -/
def registering (weights : List α) : List (Operation α) := weights.map .register

/-- Reports are made on pieces. -/
def reporting (reports : List (Nat × Report α)) : List (Operation α) :=
  reports.map fun r => .report r.1 r.2

theorem reportsOn_append (i : Nat) (reports later : List (Nat × Report α)) :
    reportsOn i (reports ++ later) = reportsOn i reports ++ reportsOn i later := by
  simp [reportsOn]

theorem reportsOn_singleton (i j : Nat) (r : Report α) :
    reportsOn j [(i, r)] = if i = j then [r] else [] := by
  by_cases h : i = j <;> simp [reportsOn, h]

theorem isDone_iff (r : Report α) : r.isDone = true ↔ r = .done := by
  cases r <;> simp [Report.isDone]

variable [Quantity α]

/-! ### One piece -/

/-- A piece is over once this has been reported. -/
theorem Piece.done_take (p : Piece α) (r : Report α) : (p.take r).done = (p.done || r.isDone) := by
  cases r with
  | done => cases hd : p.done <;> simp [Piece.take, Report.isDone, Piece.finish, hd]
  | _ => simp [Piece.take, Report.isDone]

theorem Piece.done_foldl_take (p : Piece α) (reports : List (Report α)) :
    (reports.foldl Piece.take p).done = true ↔ p.done = true ∨ .done ∈ reports := by
  induction reports generalizing p with
  | nil => simp
  | cons r reports ih =>
    rw [List.foldl_cons, ih, Piece.done_take, Bool.or_eq_true, isDone_iff, List.mem_cons, or_assoc,
      eq_comm (a := r)]

/-- **A piece takes the reports on itself and no others.** -/
theorem Bookkeeping.react_piece (b : Bookkeeping α) (i : Nat) (r : Report α) (j : Nat) :
    (b.react i r).1.pieces[j]? =
      (b.pieces[j]?).map fun p => (reportsOn j [(i, r)]).foldl Piece.take p := by
  rw [reportsOn_singleton]
  cases hp : b.pieces[i]? with
  | none =>
    simp only [Bookkeeping.react, hp]
    by_cases h : i = j
    · subst h
      simp [hp]
    · simp [h]
  | some p =>
    rw [Bookkeeping.react_pieces hp]
    by_cases h : i = j
    · subst h
      simp [hp]
    · simp [h, Ne.symm h]

/-- Pieces that are over stay over. -/
theorem Bookkeeping.AllDone.react {b : Bookkeeping α} (h : b.AllDone) (i : Nat) (r : Report α) :
    (b.react i r).1.AllDone := by
  obtain ⟨hpos, hall⟩ := h
  constructor
  · have hfirst := b.react_piece i r 0
    rw [Array.getElem?_eq_getElem hpos, Option.map_some] at hfirst
    exact (Array.getElem?_eq_some_iff.mp hfirst).1
  · intro p' hp'
    obtain ⟨j, hj⟩ := Array.mem_iff_getElem?.mp hp'
    rw [Bookkeeping.react_piece] at hj
    obtain ⟨p, hp, rfl⟩ := Option.map_eq_some_iff.mp hj
    rw [Piece.done_foldl_take]
    exact .inl (hall p (Array.mem_of_getElem? hp))

namespace Network

variable (net : Network α) (l : Log)

/-! ### All pieces -/

/-- After the pieces have been added, nothing has been reported on them. -/
theorem session_registering (weights : List α) :
    (net.sessionBook l (registering weights)).pieces.toList =
      weights.map (fun w => .fresh (Bookkeeping.validWeight w)) ∧
    (net.sessionBook l (registering weights)).completed = false := by
  induction weights using List.reverseRecOn with
  | nil =>
    obtain ⟨hb, -⟩ := session_nil net l
    constructor
    · rw [registering, List.map_nil, hb]
      rfl
    · rw [registering, List.map_nil, hb]
  | append_singleton weights w ih =>
    obtain ⟨hpieces, hopen⟩ := ih
    obtain ⟨hb, -⟩ := session_operate net l (registering weights) (.register w)
    have hops : registering (weights ++ [w]) = registering weights ++ [.register w] := by
      simp [registering]
    rw [hops, hb]
    constructor
    · simp [Bookkeeping.operate, Bookkeeping.register, hpieces]
    · exact hopen

/-- **What has become of a piece** depends on the reports on it, whatever is reported in between. -/
theorem session_piece (ops : List (Operation α)) (reports : List (Nat × Report α)) (i : Nat) :
    (net.sessionBook l (ops ++ reporting reports)).pieces[i]? =
      ((net.sessionBook l ops).pieces[i]?).map fun p =>
        (reportsOn i reports).foldl Piece.take p := by
  induction reports using List.reverseRecOn with
  | nil => simp [reporting, reportsOn]
  | append_singleton reports r ih =>
    obtain ⟨hb, -⟩ := session_operate net l (ops ++ reporting reports) (.report r.1 r.2)
    have hops : ops ++ reporting (reports ++ [r]) =
        ops ++ reporting reports ++ [.report r.1 r.2] := by
      simp [reporting]
    rw [hops, hb]
    calc ((net.sessionBook l (ops ++ reporting reports)).react r.1 r.2).1.pieces[i]?
        = ((net.sessionBook l (ops ++ reporting reports)).pieces[i]?).map fun p =>
            (reportsOn i [r]).foldl Piece.take p := Bookkeeping.react_piece _ _ _ _
      _ = ((net.sessionBook l ops).pieces[i]?).map fun p =>
            (reportsOn i (reports ++ [r])).foldl Piece.take p := by
        rw [ih, Option.map_map, reportsOn_append]
        simp only [List.foldl_append]
        rfl

/-- The whole is over if and only if all the pieces are, when none is added on the way. -/
theorem completed_iff_allDone (weights : List α) (reports : List (Nat × Report α)) :
    (net.sessionBook l (registering weights ++ reporting reports)).completed = true ↔
      (net.sessionBook l (registering weights ++ reporting reports)).AllDone := by
  induction reports using List.reverseRecOn with
  | nil =>
    obtain ⟨hpieces, hopen⟩ := session_registering net l weights
    rw [reporting, List.map_nil, List.append_nil, hopen]
    constructor
    · intro h
      cases h
    · rintro ⟨hpos, hall⟩
      have hmem : (net.sessionBook l (registering weights)).pieces[0] ∈
          (net.sessionBook l (registering weights)).pieces.toList := by simp
      have hdone := hall _ (Array.mem_toList_iff.mp hmem)
      rw [hpieces] at hmem
      obtain ⟨w, -, hw⟩ := List.mem_map.mp hmem
      rw [← hw] at hdone
      cases hdone
  | append_singleton reports r ih =>
    have hops : registering weights ++ reporting (reports ++ [r]) =
        registering weights ++ reporting reports ++ [.report r.1 r.2] := by
      simp [reporting]
    obtain ⟨log, ht, -⟩ := session_tally net l (registering weights ++ reporting reports)
    obtain ⟨told, he, -⟩ := session_step net l (registering weights ++ reporting reports)
      (.report r.1 r.2)
    obtain ⟨hb, -⟩ := session_operate net l (registering weights ++ reporting reports)
      (.report r.1 r.2)
    rw [hops, ht.completed_iff he, ih]
    refine ⟨?_, Or.inr⟩
    rintro (h | h)
    · rw [hb]
      exact h.react r.1 r.2
    · exact h

/-! ### Two orders -/

variable {parts : List (List (Report α))} {weights : List α} {xs ys : List (Nat × Report α)}

/-- **The bookkeeping after some reports** depends on the reports on each piece. -/
theorem sessionBook_eq (h : ∀ i, reportsOn i xs = reportsOn i ys) :
    net.sessionBook l (registering weights ++ reporting xs) =
      net.sessionBook l (registering weights ++ reporting ys) := by
  have hpieces : (net.sessionBook l (registering weights ++ reporting xs)).pieces =
      (net.sessionBook l (registering weights ++ reporting ys)).pieces := by
    apply Array.ext_getElem?
    intro i
    rw [session_piece, session_piece, h]
  obtain ⟨_, htx, -⟩ := session_tally net l (registering weights ++ reporting xs)
  obtain ⟨_, hty, -⟩ := session_tally net l (registering weights ++ reporting ys)
  have hcount : (net.sessionBook l (registering weights ++ reporting xs)).doneCount =
      (net.sessionBook l (registering weights ++ reporting ys)).doneCount := by
    rw [htx.count, hty.count, Bookkeeping.marks, Bookkeeping.marks, hpieces]
  have hclosed : (net.sessionBook l (registering weights ++ reporting xs)).completed =
      (net.sessionBook l (registering weights ++ reporting ys)).completed := by
    rw [Bool.eq_iff_iff, completed_iff_allDone, completed_iff_allDone, Bookkeeping.AllDone,
      Bookkeeping.AllDone, hpieces]
  cases hbx : net.sessionBook l (registering weights ++ reporting xs)
  cases hby : net.sessionBook l (registering weights ++ reporting ys)
  simp_all

/-- The end of the whole is told once if the whole is over, and otherwise not at all. -/
theorem countP_isDone_sessionLog (ops : List (Operation α)) :
    (net.sessionLog l ops).countP Report.isDone =
      if (net.sessionBook l ops).completed = true then 1 else 0 := by
  have hnone {log : List (Report α)} (h : ∀ r ∈ log, Report.IsUpdate r) :
      log.countP Report.isDone = 0 := by
    rw [List.countP_eq_zero]
    intro r hr hd
    rw [isDone_iff] at hd
    subst hd
    exact h _ hr
  obtain ⟨log, ht, hlog⟩ := session_tally net l ops
  rw [hlog]
  cases hc : (net.sessionBook l ops).completed with
  | false => simp [Report.isDone, hnone (ht.running hc)]
  | true =>
    obtain ⟨updates, amount, hu, rfl⟩ := ht.closing hc
    simp [Report.isDone, hnone hu]

/-- A piece after the reports on it. -/
theorem session_piece_of_lt (xs : List (Nat × Report α)) {i : Nat} (hi : i < weights.length) :
    (net.sessionBook l (registering weights ++ reporting xs)).pieces[i]? =
      some ((reportsOn i xs).foldl Piece.take (.fresh (Bookkeeping.validWeight weights[i]))) := by
  obtain ⟨hpieces, -⟩ := session_registering net l weights
  rw [session_piece, ← Array.getElem?_toList, hpieces, List.getElem?_map,
    List.getElem?_eq_getElem hi]
  rfl

theorem lt_of_session_piece {i : Nat} {p : Piece α}
    (hp : (net.sessionBook l (registering weights ++ reporting xs)).pieces[i]? = some p) :
    i < weights.length := by
  obtain ⟨hpieces, -⟩ := session_registering net l weights
  rw [session_piece, ← Array.getElem?_toList, hpieces, List.getElem?_map, Option.map_map] at hp
  obtain ⟨w, hw, -⟩ := Option.map_eq_some_iff.mp hp
  exact (List.getElem?_eq_some_iff.mp hw).1

/-- A piece is over once this has been reported on it. -/
theorem session_piece_done {i : Nat} {p : Piece α}
    (hp : (net.sessionBook l (registering weights ++ reporting xs)).pieces[i]? = some p) :
    p.done = true ↔ .done ∈ reportsOn i xs := by
  have hfold := hp
  rw [session_piece_of_lt net l xs (lt_of_session_piece net l hp)] at hfold
  rw [← Option.some.inj hfold]
  simp [Piece.done_foldl_take, Piece.fresh]

/-- If the end of each piece is reported, the whole is over. -/
theorem completed_of_done_mem (hne : weights ≠ [])
    (hends : ∀ i < weights.length, .done ∈ reportsOn i xs) :
    (net.sessionBook l (registering weights ++ reporting xs)).completed = true := by
  rw [completed_iff_allDone]
  constructor
  · have hfirst := session_piece_of_lt net l xs (List.length_pos_iff.mpr hne)
    exact (Array.getElem?_eq_some_iff.mp hfirst).1
  · intro p hp
    obtain ⟨i, hi⟩ := Array.mem_iff_getElem?.mp hp
    rw [session_piece_done net l hi]
    exact hends i (lt_of_session_piece net l hi)

/-- **What is told when the whole is over**: the amount done, and the end. All pieces are over
then. -/
theorem session_closing {ops : List (Operation α)} {op : Operation α}
    (hopen : (net.sessionBook l ops).completed = false)
    (hover : (net.sessionBook l (ops ++ [op])).completed = true) :
    net.sessionLog l (ops ++ [op]) = net.sessionLog l ops ++
        [.worked (net.sessionBook l (ops ++ [op])).fraction none, .done] ∧
      (net.sessionBook l (ops ++ [op])).AllDone := by
  obtain ⟨log, ht, -⟩ := session_tally net l ops
  obtain ⟨hb, hlog⟩ := session_operate net l ops op
  have heffect := Bookkeeping.operate_effect (net.sessionBook l ops) op
  rw [hb] at hover
  have hall := ((ht.completed_iff heffect).mp hover).resolve_left (by simp [hopen])
  have hend := heffect.done_mem_iff.mpr ⟨hover, by simp [hopen]⟩
  rw [hlog, hb]
  refine ⟨congrArg _ ?_, hall⟩
  cases op with
  | register weight => cases hend
  | report i r =>
    simp only [Bookkeeping.operate] at hend hover ⊢
    cases hp : (net.sessionBook l ops).pieces[i]? with
    | none =>
      simp only [Bookkeeping.react, hp] at hend
      cases hend
    | some p =>
      rw [Bookkeeping.react_open hp hopen] at hend ⊢
      cases r with
      | done =>
        rw [Bookkeeping.forwards] at hend ⊢
        split at hend
        · cases hend
        · next hd => rw [if_neg hd, if_pos hover]
      | worked amount title => cases title <;> simp [Bookkeeping.forwards] at hend
      | _ => simp [Bookkeeping.forwards] at hend

/-- **The end of the last piece ends the whole**, and the amount done is told right before. -/
theorem sessionLog_last {i : Nat} {r : Report α} (hi : i < weights.length)
    (hends : EndsOnce (reportsOn i (xs ++ [(i, r)])))
    (hover : (net.sessionBook l
      (registering weights ++ reporting (xs ++ [(i, r)]))).completed = true) :
    net.sessionLog l (registering weights ++ reporting (xs ++ [(i, r)])) =
      net.sessionLog l (registering weights ++ reporting xs) ++
        [.worked (net.sessionBook l
          (registering weights ++ reporting (xs ++ [(i, r)]))).fraction none, .done] := by
  have hops : registering weights ++ reporting (xs ++ [(i, r)]) =
      registering weights ++ reporting xs ++ [.report i r] := by
    simp [reporting]
  -- before, the piece was not over
  obtain ⟨before, hbefore, hnot⟩ := hends
  rw [reportsOn_append, reportsOn_singleton, if_pos rfl] at hbefore
  obtain ⟨rfl, -⟩ := List.append_inj' hbefore rfl
  have hp := session_piece_of_lt net l xs hi
  rw [← session_piece_done net l hp, Bool.not_eq_true] at hnot
  have hopen : (net.sessionBook l (registering weights ++ reporting xs)).completed = false := by
    rw [Bool.eq_false_iff, ne_eq, completed_iff_allDone]
    rintro ⟨-, hall⟩
    rw [hall _ (Array.mem_of_getElem? hp)] at hnot
    cases hnot
  rw [hops] at hover ⊢
  exact (session_closing net l hopen hover).1

/-- The last reports when the end is the last thing reported on each piece. -/
theorem session_endsOnce (hx : Interleaves parts xs) (hlength : parts.length = weights.length)
    (hne : weights ≠ []) (hends : ∀ reports ∈ parts, EndsOnce reports) :
    (amounts (net.sessionLog l (registering weights ++ reporting xs))).getLast? =
      some (net.sessionBook l (registering weights ++ reporting xs)).fraction ∧
    EndsOnce (net.sessionLog l (registering weights ++ reporting xs)) := by
  have hpart {i : Nat} (hi : i < weights.length) : EndsOnce (reportsOn i xs) := by
    rw [hx i, ← List.getElem_eq_getD (h := hlength ▸ hi)]
    exact hends _ (List.getElem_mem _)
  have hover : (net.sessionBook l (registering weights ++ reporting xs)).completed = true := by
    refine completed_of_done_mem net l hne fun i hi => ?_
    obtain ⟨before, hbefore, -⟩ := hpart hi
    simp [hbefore]
  rcases List.eq_nil_or_concat' xs with rfl | ⟨earlier, ⟨i, r⟩, rfl⟩
  · -- without reports no piece has ended
    obtain ⟨before, hbefore, -⟩ := hpart (List.length_pos_iff.mpr hne)
    simp [reportsOn] at hbefore
  · have hi : i < weights.length := by
      by_contra hle
      have hnone := hx i
      rw [reportsOn_append, reportsOn_singleton, if_pos rfl,
        List.getD_eq_getElem?_getD, List.getElem?_eq_none (by omega)] at hnone
      simp at hnone
    have hlog := sessionLog_last net l hi (hpart hi) hover
    have hcount := countP_isDone_sessionLog net l
      (registering weights ++ reporting (earlier ++ [(i, r)]))
    rw [if_pos hover, hlog] at hcount
    rw [hlog]
    constructor
    · rw [amounts, List.filterMap_append]
      exact List.getLast?_concat
    · refine ⟨_, List.append_cons _ _ _, fun hmem => ?_⟩
      rw [List.append_cons, List.countP_append] at hcount
      have hpos := List.countP_pos_iff.mpr ⟨_, hmem, (isDone_iff _).mpr rfl⟩
      have hlast : [(Report.done : Report α)].countP Report.isDone = 1 := rfl
      omega

end Network

open Network

/-- **The order in which pieces are reported on does not matter in the end.** Pieces are added to a
composite, and then there are reports on them. Take two orders of these reports that agree on the
order of the reports on each piece. Both lead to the same bookkeeping, and so to the same fraction,
and the sink is told the end of the whole equally often.

If there is a piece, and the last thing reported on each piece is its end, for the first time, then
the sink is told the same amount last, and after it the end of the whole, once. -/
theorem interleavings_agree (net : Network α) (l : Log) {weights : List α}
    {parts : List (List (Report α))} (hlength : parts.length = weights.length)
    {xs ys : List (Nat × Report α)} (hx : Interleaves parts xs) (hy : Interleaves parts ys) :
    let bookAfter (reports : List (Nat × Report α)) :=
      net.sessionBook l (registering weights ++ reporting reports)
    let logAfter (reports : List (Nat × Report α)) :=
      net.sessionLog l (registering weights ++ reporting reports)
    bookAfter xs = bookAfter ys ∧
    (bookAfter xs).fraction = (bookAfter ys).fraction ∧
    (logAfter xs).countP Report.isDone = (logAfter ys).countP Report.isDone ∧
    (weights ≠ [] → (∀ reports ∈ parts, EndsOnce reports) →
      (amounts (logAfter xs)).getLast? = (amounts (logAfter ys)).getLast? ∧
      (amounts (logAfter xs)).getLast? = some (bookAfter xs).fraction ∧
      EndsOnce (logAfter xs) ∧ EndsOnce (logAfter ys)) := by
  intro bookAfter logAfter
  have hbook : bookAfter xs = bookAfter ys :=
    sessionBook_eq net l fun i => (hx i).trans (hy i).symm
  refine ⟨hbook, congrArg Bookkeeping.fraction hbook, ?_, fun hne hends => ?_⟩
  · simp only [logAfter, countP_isDone_sessionLog]
    exact congrArg (fun b : Bookkeeping α => if b.completed = true then 1 else 0) hbook
  · obtain ⟨hlast, hend⟩ := session_endsOnce net l hx hlength hne hends
    obtain ⟨hlast', hend'⟩ := session_endsOnce net l hy hlength hne hends
    refine ⟨?_, hlast, hend, hend'⟩
    exact hlast.trans ((congrArg (fun b => some b.fraction) hbook).trans hlast'.symm)

/-- What is reported on two pieces. -/
def twoParts : List (List (Report Float)) := [[.total 4, .advance 1, .done], [.total 2, .done]]

/-- First all that is reported on the first piece. -/
def inTurn : List (Nat × Report Float) :=
  [(0, .total 4), (0, .advance 1), (0, .done), (1, .total 2), (1, .done)]

/-- The second piece is over before the first. -/
def inMixedOrder : List (Nat × Report Float) :=
  [(1, .total 2), (0, .total 4), (1, .done), (0, .advance 1), (0, .done)]

theorem inTurn_agrees_inMixedOrder :
    twoParts.length = ([1, 3] : List Float).length ∧ Interleaves twoParts inTurn ∧
    Interleaves twoParts inMixedOrder ∧ (∀ reports ∈ twoParts, EndsOnce reports) ∧
    let net : Network Float := {}
    let after (reports : List (Nat × Report Float)) := registering [1, 3] ++ reporting reports
    net.sessionBook ⟨"root", none, none⟩ (after inTurn) =
      net.sessionBook ⟨"root", none, none⟩ (after inMixedOrder) ∧
    EndsOnce (net.sessionLog ⟨"root", none, none⟩ (after inTurn)) ∧
    EndsOnce (net.sessionLog ⟨"root", none, none⟩ (after inMixedOrder)) := by
  have hlength : twoParts.length = ([1, 3] : List Float).length := rfl
  have hx : Interleaves twoParts inTurn := fun
    | 0 => rfl
    | 1 => rfl
    | _ + 2 => by simp [inTurn, reportsOn, twoParts]
  have hy : Interleaves twoParts inMixedOrder := fun
    | 0 => rfl
    | 1 => rfl
    | _ + 2 => by simp [inMixedOrder, reportsOn, twoParts]
  have hends : ∀ reports ∈ twoParts, EndsOnce reports := by
    intro reports hmem
    simp only [twoParts, List.mem_cons, List.not_mem_nil, or_false] at hmem
    rcases hmem with rfl | rfl
    · exact ⟨[.total 4, .advance 1], rfl, by simp⟩
    · exact ⟨[.total 2], rfl, by simp⟩
  obtain ⟨hbook, -, -, hlast⟩ := interleavings_agree {} ⟨"root", none, none⟩ hlength hx hy
  obtain ⟨-, -, hend, hend'⟩ := hlast (List.cons_ne_nil _ _) hends
  exact ⟨hlength, hx, hy, hends, hbook, hend, hend'⟩

end Estree.Progress
