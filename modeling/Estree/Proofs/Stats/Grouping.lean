import Estree.Stats.Text
import Mathlib.Logic.Function.Defs

/-!
# Numbers with commas

The commas are put in from left to right: a digit gets one behind it where the number of digits that
follow is a multiple of three. Read from the right this makes groups of three. The induction is on
the digits, and what carries it is that the groups of what follows hold as many digits as follow, so
that a multiple of three leaves no room for a first group of one or two.

* `groupThousands_eq_intercalate`: the groups;
* `formatNumber_grouped`: what is written for a number.
-/

namespace Estree

/-- The first group has one to three digits, and the others have three each. -/
def InThousands : List (List Char) → Prop
  | [] => False
  | first :: rest => 0 < first.length ∧ first.length ≤ 3 ∧ ∀ group ∈ rest, group.length = 3

/-- All groups but the first are full. -/
theorem InThousands.length_flatten {first : List Char} {rest : List (List Char)}
    (h : InThousands (first :: rest)) :
    (first :: rest).flatten.length = first.length + rest.length * 3 := by
  obtain ⟨-, -, hfull⟩ := h
  have hlengths : rest.map List.length = List.replicate rest.length 3 :=
    List.map_eq_replicate_iff.mpr hfull
  rw [List.flatten_cons, List.length_append, List.length_flatten, hlengths,
    List.sum_replicate_nat]

/-- A digit in front of full groups is a group of its own; else it belongs to the first group. -/
theorem InThousands.cons {first : List Char} {rest : List (List Char)}
    (h : InThousands (first :: rest)) (d : Char) :
    if (first :: rest).flatten.length % 3 = 0 then InThousands ([d] :: first :: rest)
    else InThousands ((d :: first) :: rest) := by
  have hlength := h.length_flatten
  obtain ⟨hpos, hle, hfull⟩ := h
  split
  · have hfirst : first.length = 3 := by omega
    exact ⟨Nat.one_pos, by simp, List.forall_mem_cons.mpr ⟨hfirst, hfull⟩⟩
  · refine ⟨Nat.succ_pos _, ?_, hfull⟩
    rw [List.length_cons]
    omega

theorem groupThousands_cons {ds : List Char} (h : ds ≠ []) (d : Char) :
    groupThousands (d :: ds) =
      if ds.length % 3 = 0 then d :: ',' :: groupThousands ds else d :: groupThousands ds := by
  cases ds with
  | nil => exact absurd rfl h
  | cons d' ds => rfl

/-- **The commas stand between groups of three digits**, counted from the right. -/
theorem groupThousands_eq_intercalate {ds : List Char} (h : ds ≠ []) :
    ∃ groups, InThousands groups ∧ groups.flatten = ds ∧
      groupThousands ds = [','].intercalate groups := by
  induction ds with
  | nil => exact absurd rfl h
  | cons d ds ih =>
    by_cases hds : ds = []
    · subst hds
      exact ⟨[[d]], ⟨Nat.one_pos, by simp, List.forall_mem_nil _⟩, rfl, rfl⟩
    · obtain ⟨groups, hgroups, hflat, heq⟩ := ih hds
      rw [groupThousands_cons hds, heq]
      cases groups with
      | nil => exact hgroups.elim
      | cons first rest =>
        have hcons := hgroups.cons d
        rw [hflat] at hcons
        split at hcons
        · next hfull =>
          rw [if_pos hfull]
          refine ⟨_, hcons, congrArg (d :: ·) hflat, ?_⟩
          simp [List.intercalate]
        · next hroom =>
          rw [if_neg hroom]
          refine ⟨_, hcons, congrArg (d :: ·) hflat, ?_⟩
          cases rest <;> simp [List.intercalate]

/-! ### What commas there are -/

section Commas

variable {ds : List Char}

theorem head?_groupThousands (ds : List Char) : (groupThousands ds).head? = ds.head? := by
  fun_cases groupThousands ds <;> rfl

theorem groupThousands_ne_nil (h : ds ≠ []) : groupThousands ds ≠ [] := by
  rw [ne_eq, ← List.head?_eq_none_iff, head?_groupThousands, List.head?_eq_none_iff]
  exact h

theorem getLast?_groupThousands (ds : List Char) :
    (groupThousands ds).getLast? = ds.getLast? := by
  induction ds with
  | nil => rfl
  | cons d ds ih =>
    by_cases hds : ds = []
    · rw [hds]
      rfl
    · have hne := groupThousands_ne_nil hds
      rw [groupThousands_cons hds, List.getLast?_cons_of_ne_nil hds, ← ih]
      split
      · rw [List.getLast?_cons_cons, List.getLast?_cons_of_ne_nil hne]
      · rw [List.getLast?_cons_of_ne_nil hne]

/-- Without the commas, the digits are left. -/
theorem filter_groupThousands (h : ',' ∉ ds) : (groupThousands ds).filter (· ≠ ',') = ds := by
  induction ds with
  | nil => rfl
  | cons d ds ih =>
    have hd : d ≠ ',' := List.ne_of_not_mem_cons h |>.symm
    have hrest := List.not_mem_of_not_mem_cons h
    by_cases hds : ds = []
    · simp [hds, groupThousands, hd]
    · rw [groupThousands_cons hds]
      split <;> rw [List.filter_cons_of_pos (by simpa using hd)]
      · rw [List.filter_cons_of_neg (by simp), ih hrest]
      · rw [ih hrest]

/-- Behind a comma comes a digit. -/
theorem not_infix_groupThousands (h : ',' ∉ ds) : ¬ [',', ','] <:+: groupThousands ds := by
  induction ds with
  | nil => simp [groupThousands]
  | cons d ds ih =>
    have hd : ',' ≠ d := List.ne_of_not_mem_cons h
    have hrest := List.not_mem_of_not_mem_cons h
    by_cases hds : ds = []
    · simp [hds, groupThousands, List.infix_cons_iff]
    · have hhead : ¬ [','] <+: groupThousands ds := by
        rintro ⟨more, hmore⟩
        have hcomma := head?_groupThousands ds
        rw [← hmore] at hcomma
        exact hrest (List.mem_of_head? hcomma.symm)
      rw [groupThousands_cons hds]
      split <;> simp [List.infix_cons_iff, List.cons_prefix_cons, hd, hhead, ih hrest]

/-- There is a comma for every three digits behind the first one. -/
theorem length_groupThousands (ds : List Char) :
    (groupThousands ds).length = ds.length + (ds.length - 1) / 3 := by
  induction ds with
  | nil => rfl
  | cons d ds ih =>
    by_cases hds : ds = []
    · simp [hds, groupThousands]
    · have hpos := List.length_pos_iff.mpr hds
      rw [groupThousands_cons hds]
      split <;> simp only [List.length_cons, ih] <;> omega

end Commas

/-! ### Numbers -/

theorem comma_not_mem_toDigits (n : Nat) : ',' ∉ Nat.toDigits 10 n := by
  intro h
  have hdigit := Nat.isDigit_of_mem_toDigits (by decide) (Nat.le_refl 10) h
  exact absurd hdigit (by decide)

theorem toDigits_ne_nil (n : Nat) : Nat.toDigits 10 n ≠ [] :=
  List.length_pos_iff.mp Nat.length_toDigits_pos

theorem toList_formatNumber (n : Nat) :
    (formatNumber n).toList = groupThousands (Nat.toDigits 10 n) := String.toList_ofList

/-- **A number is written with its digits in groups of three**, counted from the right. Without the
commas it is the plain text of the number. Between the commas there is a first group of one to three
characters and then groups of three; so no comma is in front, at the end or behind another one. The
text has a comma for every three digits behind the first one, and belongs to no other number. -/
theorem formatNumber_grouped :
    (∀ n,
      (formatNumber n).toList.filter (· ≠ ',') = (toString n).toList ∧
      InThousands ((formatNumber n).toList.splitOn ',') ∧
      (formatNumber n).toList.head? ≠ some ',' ∧
      (formatNumber n).toList.getLast? ≠ some ',' ∧
      ¬ [',', ','] <:+: (formatNumber n).toList ∧
      (formatNumber n).length = (toString n).length + ((toString n).length - 1) / 3) ∧
    Function.Injective formatNumber := by
  have hdigits (n : Nat) : (toString n).toList = Nat.toDigits 10 n := String.toList_ofList
  have hplain (n : Nat) : (formatNumber n).toList.filter (· ≠ ',') = (toString n).toList := by
    rw [toList_formatNumber, hdigits]
    exact filter_groupThousands (comma_not_mem_toDigits n)
  refine ⟨fun n => ⟨hplain n, ?_, ?_, ?_, ?_, ?_⟩, fun m n heq => ?_⟩
  · obtain ⟨groups, hgroups, hflat, heq⟩ := groupThousands_eq_intercalate (toDigits_ne_nil n)
    have hnone : ∀ group ∈ groups, ',' ∉ group := by
      intro group hgroup hcomma
      exact comma_not_mem_toDigits n (hflat ▸ List.mem_flatten_of_mem hgroup hcomma)
    have hne : groups ≠ [] := by
      rintro rfl
      exact hgroups
    rw [toList_formatNumber, heq, List.splitOn_intercalate ',' hnone hne]
    exact hgroups
  · rw [toList_formatNumber, head?_groupThousands]
    exact fun h => comma_not_mem_toDigits n (List.mem_of_head? h)
  · rw [toList_formatNumber, getLast?_groupThousands]
    exact fun h => comma_not_mem_toDigits n (List.mem_of_getLast? h)
  · rw [toList_formatNumber]
    exact not_infix_groupThousands (comma_not_mem_toDigits n)
  · rw [← String.length_toList, ← String.length_toList, toList_formatNumber, hdigits]
    exact length_groupThousands _
  · have hsame : Nat.toDigits 10 m = Nat.toDigits 10 n := by
      rw [← hdigits, ← hdigits, ← hplain, ← hplain, heq]
    have hread (n : Nat) : Nat.ofDigitChars 10 (Nat.toDigits 10 n) 0 = n :=
      Nat.ofDigitChars_toDigits (by decide) (Nat.le_refl 10)
    rw [← hread m, hsame, hread]

example : formatNumber 1234567 = "1,234,567" := by decide

end Estree
