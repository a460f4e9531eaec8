import Estree.Json.Parser
import Estree.Proofs.Arena.Document

/-!
# Values that are read from texts

A text may give a key twice, and may give its members in any order. The value that is read from it
does not: the parser inserts each member into a map, where a later one replaces an earlier one with
the same key. So the documents that are loaded from files are among those that `Value.Normal` tells
of, and what is proved of such documents holds of them.

The parser is a machine that takes one token after the other. `Machine.Normal` says of its state
that all values in it are normal, and each token keeps it so.

* `Machine.reads_feed`: one token;
* `reads_parseChars`, `normal_of_parse`: a text.
-/

namespace Estree.Json

/-! ### Reading or failing -/

/-- What is read, if anything is, has the property `P`. -/
def Reads {ε α : Type} (P : α → Prop) (x : Except ε α) : Prop := ∀ a, x = .ok a → P a

section Reads

variable {ε α β : Type} {P : β → Prop}

theorem reads_error (e : ε) : Reads P (.error e : Except ε β) := fun _ h => nomatch h

theorem reads_ok {b : β} (h : P b) : Reads P (.ok b : Except ε β) := by
  rintro _ ⟨⟩
  exact h

theorem reads_bind {x : Except ε α} {f : α → Except ε β} (h : ∀ a, Reads P (f a)) :
    Reads P (x >>= f) := by
  cases x with
  | error e => exact reads_error e
  | ok a => exact h a

theorem reads_ite {c : Prop} [Decidable c] {x y : Except ε β} (hx : Reads P x) (hy : Reads P y) :
    Reads P (if c then x else y) := by
  split
  · exact hx
  · exact hy

end Reads

/-! ### Tokens -/

theorem NumberParts.value?_normal (p : NumberParts) (shift : Int) :
    ∀ v ∈ p.value? shift, v.Normal := by
  intro v h
  simp only [NumberParts.value?, Option.mem_def] at h
  split at h
  · split at h
    · cases h
      exact .int _
    · split at h <;> cases h
      · exact .int _
      · exact .float _
  · obtain ⟨x, -, rfl⟩ := Option.map_eq_some_iff.mp h
    exact .float _

/-- A number that has been read is normal. -/
theorem reads_number (cs : List Char) : Reads (fun r => r.1.Normal) (readNumber cs) := by
  unfold readNumber
  dsimp only
  split
  -- in the first cases the digits in front of the point are refused
  iterate 3 exact reads_error _
  refine reads_bind fun fraction => reads_bind fun exponent => ?_
  split
  · split
    · split
      · next v hv => exact reads_ok (NumberParts.value?_normal _ _ v hv)
      · exact reads_error _
    · exact reads_ite (reads_ok (Value.Normal.float _)) (reads_error _)
  · split
    · next v hv => exact reads_ok (NumberParts.value?_normal _ _ v hv)
    · exact reads_error _

theorem reads_word {v : Value} (hv : v.Normal) (read : Nat) (word cs : List Char) :
    Reads (fun r => r.1.Normal) (readWord v read word cs) := by
  induction word generalizing read cs with
  | nil => exact reads_ok hv
  | cons w word ih =>
    cases cs with
    | nil => exact reads_error _
    | cons c cs =>
      rw [readWord]
      split
      · exact ih _ cs
      · exact reads_error _

/-- A value that a token gives is normal. -/
def Token.Normal : Token → Prop
  | .atom (.ok v) => v.Normal
  | _ => True

theorem Token.normal_ofAtom {t : Except Fault (Value × Nat)} (h : Reads (fun r => r.1.Normal) t) :
    (Token.ofAtom t).1.Normal := by
  cases t with
  | error f => trivial
  | ok r => exact h r rfl

/-- Words and numbers are no objects. -/
theorem Token.normal_read (c : Char) (rest : List Char) : (Token.read c rest).1.Normal := by
  unfold Token.read
  dsimp only
  split
  iterate 6 trivial
  · split <;> trivial
  · exact normal_ofAtom (reads_word .null _ _ _)
  · exact normal_ofAtom (reads_word (.bool true) _ _ _)
  · exact normal_ofAtom (reads_word (.bool false) _ _ _)
  · split
    · exact normal_ofAtom (reads_number _)
    · trivial

theorem normal_lexemesFrom {out : Array Lexeme} (h : ∀ t ∈ out, t.token.Normal)
    (offset skip : Nat) (cs : List Char) :
    ∀ t ∈ lexemesFrom out offset skip cs, t.token.Normal := by
  induction cs generalizing out offset skip with
  | nil => exact h
  | cons c cs ih =>
    have hpush : ∀ t ∈ out.push ⟨offset, (Token.read c cs).1⟩, t.token.Normal := by
      intro t ht
      rcases Array.mem_push.mp ht with ht | rfl
      · exact h t ht
      · exact Token.normal_read c cs
    cases skip with
    | succ skip => exact ih h _ skip
    | zero =>
      rw [lexemesFrom]
      dsimp only
      split
      · exact ih h _ 0
      · split
        · exact hpush
        · exact ih hpush _ _

/-! ### The machine -/

/-- What has been read of an open array or object is normal. -/
def Container.Normal : Container → Prop
  | .array items => ∀ v ∈ items, v.Normal
  | .object members _ => (Value.object members).Normal

/-- What has been read of a text is normal. -/
structure Machine.Normal (m : Machine) : Prop where
  stack : ∀ c ∈ m.stack, c.Normal
  ending : ∀ v, m.expecting = .ending v → v.Normal

namespace Machine

theorem normal_start : start.Normal where
  stack := List.forall_mem_nil _
  ending _ h := nomatch h

/-- What is open stays normal if nothing is put on the stack but what is. -/
theorem normal_open {next : Expecting} {stack : List Container} (h : ∀ c ∈ stack, c.Normal)
    (hnext : ∀ v, next ≠ .ending v) : Machine.Normal ⟨next, stack⟩ where
  stack := h
  ending v hv := absurd hv (hnext v)

theorem normal_complete {v : Value} (hv : v.Normal) {stack : List Container}
    (h : ∀ c ∈ stack, c.Normal) : (complete v stack).Normal := by
  cases stack with
  | nil =>
    refine ⟨List.forall_mem_nil _, ?_⟩
    rintro _ ⟨⟩
    exact hv
  | cons c rest =>
    obtain ⟨hc, hrest⟩ := List.forall_mem_cons.mp h
    cases c with
    | array items =>
      refine normal_open (List.forall_mem_cons.mpr ⟨?_, hrest⟩) fun _ hv => nomatch hv
      exact List.forall_mem_cons.mpr ⟨hv, hc⟩
    | object members key =>
      refine normal_open (List.forall_mem_cons.mpr ⟨?_, hrest⟩) fun _ hv => nomatch hv
      have hc : (Value.object members).Normal := hc
      refine .object (Dict.sorted_insert hc.sorted key v) fun e he => ?_
      rcases Dict.mem_insert he with rfl | he
      · exact hv
      · cases hc with
        | object _ hmembers => exact hmembers e he

variable {m : Machine} {t : Lexeme}

theorem reads_descend (h : m.Normal) {c : Container} (hc : c.Normal) {next : Expecting}
    (hnext : ∀ v, next ≠ .ending v) (start : Nat) :
    Reads Machine.Normal (m.descend start c next) := by
  unfold descend
  split
  · exact reads_ok (normal_open (List.forall_mem_cons.mpr ⟨hc, h.stack⟩) hnext)
  · exact reads_error _

theorem reads_feedValue (h : m.Normal) (ht : t.token.Normal) :
    Reads Machine.Normal (m.feedValue t) := by
  unfold feedValue
  split
  · have hempty : (Container.array []).Normal := List.forall_mem_nil _
    exact reads_descend h hempty (by rintro _ ⟨⟩) _
  · have hempty : (Container.object [] "").Normal :=
      Value.Normal.object .nil (List.forall_mem_nil _)
    exact reads_descend h hempty (by rintro _ ⟨⟩) _
  · next content hcontent =>
    rw [hcontent] at ht
    cases content with
    | error f => exact reads_error _
    | ok v => exact reads_ok (normal_complete ht h.stack)
  · next content _ =>
    cases content with
    | error f => exact reads_error _
    | ok s => exact reads_ok (normal_complete (.string s) h.stack)
  all_goals exact reads_error _

theorem reads_feedKey (h : m.Normal) : Reads Machine.Normal (m.feedKey t) := by
  unfold feedKey
  split
  · next content members key rest _ hstack =>
    have hstack := hstack ▸ h.stack
    obtain ⟨hc, hrest⟩ := List.forall_mem_cons.mp hstack
    cases content with
    | error f => exact reads_error _
    | ok s =>
      exact reads_ok (normal_open (List.forall_mem_cons.mpr ⟨hc, hrest⟩) fun _ hv => nomatch hv)
  · exact reads_error _

theorem reads_feedContinuation (h : m.Normal) : Reads Machine.Normal (m.feedContinuation t) := by
  have hstack := h.stack
  unfold feedContinuation
  split <;> try exact reads_error _
  · exact reads_ok (normal_open hstack fun _ hv => nomatch hv)
  · next items rest heq _ =>
    rw [heq] at hstack
    obtain ⟨hitems, hrest⟩ := List.forall_mem_cons.mp hstack
    have hitems : ∀ v ∈ items, v.Normal := hitems
    exact reads_ok (normal_complete (.array fun v hv => hitems v (List.mem_reverse.mp hv)) hrest)
  · exact reads_ok (normal_open hstack fun _ hv => nomatch hv)
  · next members _ rest heq _ =>
    rw [heq] at hstack
    obtain ⟨hmembers, hrest⟩ := List.forall_mem_cons.mp hstack
    exact reads_ok (normal_complete hmembers hrest)

/-- **One token keeps what has been read normal.** -/
theorem reads_feed (h : m.Normal) (ht : t.token.Normal) : Reads Machine.Normal (m.feed t) := by
  unfold feed
  split <;>
    first
    | exact reads_feedValue h ht
    | exact reads_feedContinuation h
    | exact reads_feedKey h
    | exact reads_error _
    | exact reads_ok (normal_open h.stack fun _ hv => nomatch hv)

theorem reads_finish (h : m.Normal) (size : Nat) : Reads Value.Normal (m.finish size) := by
  unfold finish
  split
  · next v hv => exact reads_ok (h.ending v hv)
  · exact reads_error _

/-- All tokens keep it so. -/
theorem reads_foldlM {ts : List Lexeme} (hts : ∀ t ∈ ts, t.token.Normal) (h : m.Normal) :
    Reads Machine.Normal (ts.foldlM Machine.feed m) := by
  induction ts generalizing m with
  | nil => exact reads_ok h
  | cons t ts ih =>
    obtain ⟨ht, hts⟩ := List.forall_mem_cons.mp hts
    have hfeed := reads_feed h ht
    rw [List.foldlM_cons]
    cases hm : m.feed t with
    | error f => exact reads_error f
    | ok m' => exact ih hts (hfeed m' hm)

end Machine

theorem reads_parseChars (cs : List Char) : Reads Value.Normal (parseChars cs) := by
  have htokens : ∀ t ∈ (lexemes cs).toList, t.token.Normal := fun t ht =>
    normal_lexemesFrom (fun t ht => absurd ht (Array.not_mem_empty t)) 0 0 cs t
      (Array.mem_toList_iff.mp ht)
  have hmachine := Machine.reads_foldlM htokens Machine.normal_start
  rw [Array.foldlM_toList] at hmachine
  unfold parseChars
  cases hm : (lexemes cs).foldlM Machine.feed Machine.start with
  | error f => exact reads_error f
  | ok m => exact Machine.reads_finish (hmachine m hm) _

/-- **The value of a text is normal**: every object in it lists its members by key, each once. -/
theorem normal_of_parse {text : String} {v : Value} (h : parse text = .ok v) : v.Normal := by
  unfold parse at h
  dsimp only at h
  cases hv : parseChars text.toList with
  | error f =>
    rw [hv] at h
    cases h
  | ok v' =>
    rw [hv] at h
    cases h
    exact reads_parseChars _ v hv

end Estree.Json
