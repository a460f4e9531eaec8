import Estree.Files.Folder
import Mathlib.Data.List.Lex
import Mathlib.Data.List.Nodup
import Mathlib.Data.String.Basic

/-!
# Ways to files

A row of names leads down from a folder. The rows that lead to files, in their lexicographic order,
say all about a folder, apart from what is in the files and where folders are empty; as paths they
are as different as they are as rows, if no name is empty and no slash is a part of one.

* `Folder.mem_files_iff`, `Folder.pairwise_files`: the rows that lead to files, and their order;
* `pathBelow_inj`: different rows are different paths;
* `Place.resolve_name`: a single name is a path as well;
* `Folder.WellFormed.putFile`, `Folder.WellFormed.putFolder`: names are in order and proper in all
  folders that are made;
* `Place.WellFormed.resolve`: and in all to which a path leads from there.
-/

namespace Estree.Files

/-! ### Ways through a folder -/

namespace Folder

/-- What a row of names leads to in a folder. -/
def entryAt? (f : Folder) : List String → Option Entry
  | [] => some (.folder f)
  | name :: names =>
    match f.find? name with
    | some (.folder inner) => inner.entryAt? names
    | some (.file content) => if names = [] then some (.file content) else none
    | none => none

/-- The rows of names that lead to files. What is in a folder comes in the place of the folder. -/
def files : Folder → List (List String)
  | empty => []
  | file name _ rest => [name] :: rest.files
  | folder name inner rest => inner.files.map (name :: ·) ++ rest.files

theorem lt_of_mem_files {f : Folder} (hf : f.Sorted) {name : String}
    (hname : ∀ n ∈ f.firstName?, name < n) {names : List String} (h : names ∈ f.files) :
    ∃ first more, names = first :: more ∧ name < first := by
  induction f generalizing name names with
  | empty => cases h
  | file n content rest ih =>
    obtain ⟨hfirst, hrest⟩ := hf
    have hlt : name < n := hname n rfl
    rcases List.mem_cons.mp h with rfl | h
    · exact ⟨n, [], rfl, hlt⟩
    · exact ih hrest (fun m hm => lt_trans hlt (hfirst m hm)) h
  | folder n inner rest _ ih =>
    obtain ⟨hfirst, -, hrest⟩ := hf
    have hlt : name < n := hname n rfl
    rcases List.mem_append.mp h with h | h
    · obtain ⟨more, -, rfl⟩ := List.mem_map.mp h
      exact ⟨n, more, rfl, hlt⟩
    · exact ih hrest (fun m hm => lt_trans hlt (hfirst m hm)) h

/-- The files come in the order of the ways to them. -/
theorem pairwise_files {f : Folder} (hf : f.Sorted) : f.files.Pairwise (· < ·) := by
  induction f with
  | empty => exact .nil
  | file name content rest ih =>
    obtain ⟨hfirst, hrest⟩ := hf
    refine List.pairwise_cons.mpr ⟨fun names hnames => ?_, ih hrest⟩
    obtain ⟨first, more, rfl, hlt⟩ := lt_of_mem_files hrest hfirst hnames
    exact .rel hlt
  | folder name inner rest ihinner ih =>
    obtain ⟨hfirst, hinner, hrest⟩ := hf
    refine List.pairwise_append.mpr ⟨?_, ih hrest, ?_⟩
    · exact List.pairwise_map.mpr ((ihinner hinner).imp .cons)
    · intro before hbefore after hafter
      obtain ⟨names, -, rfl⟩ := List.mem_map.mp hbefore
      obtain ⟨first, more, rfl, hlt⟩ := lt_of_mem_files hrest hfirst hafter
      exact .rel hlt

/-- What comes after a name does not lead to it. -/
theorem cons_notMem_files {f : Folder} (hf : f.Sorted) {name : String}
    (hname : ∀ n ∈ f.firstName?, name < n) (names : List String) : name :: names ∉ f.files := by
  intro h
  obtain ⟨first, more, heq, hlt⟩ := lt_of_mem_files hf hname h
  exact absurd (List.cons.inj heq).1 (ne_of_lt hlt)

theorem nil_notMem_files (f : Folder) : [] ∉ f.files := by
  induction f with
  | empty => exact List.not_mem_nil
  | file name content rest ih => simpa [files] using ih
  | folder name inner rest _ ih => simpa [files] using ih

theorem entryAt?_congr {f g : Folder} {name : String} (h : f.find? name = g.find? name)
    (names : List String) : f.entryAt? (name :: names) = g.entryAt? (name :: names) := by
  rw [entryAt?, entryAt?, h]

/-- **The rows of names that lead to files.** -/
theorem mem_files_iff {f : Folder} (hf : f.Sorted) (names : List String) :
    names ∈ f.files ↔ ∃ content, f.entryAt? names = some (.file content) := by
  induction f generalizing names with
  | empty => cases names <;> simp [files, entryAt?, find?]
  | file n content rest ih =>
    obtain ⟨hfirst, hrest⟩ := hf
    cases names with
    | nil => simp [nil_notMem_files, entryAt?]
    | cons name more =>
      rw [files, List.mem_cons]
      by_cases hname : n = name
      · subst hname
        rw [or_iff_left (cons_notMem_files hrest hfirst more)]
        by_cases hmore : more = [] <;> simp [entryAt?, find?, hmore]
      · have hfind : (file n content rest).find? name = rest.find? name := if_neg hname
        rw [entryAt?_congr hfind, ← ih hrest]
        exact or_iff_right fun heq => hname (List.cons.inj heq).1.symm
  | folder n inner rest ihinner ih =>
    obtain ⟨hfirst, hinner, hrest⟩ := hf
    cases names with
    | nil => simp [nil_notMem_files, entryAt?]
    | cons name more =>
      rw [files, List.mem_append, List.mem_map]
      by_cases hname : n = name
      · subst hname
        rw [or_iff_left (cons_notMem_files hrest hfirst more)]
        have hentry : (folder n inner rest).entryAt? (n :: more) = inner.entryAt? more := by
          simp [entryAt?, find?]
        rw [hentry, ← ihinner hinner]
        simp
      · have hfind : (folder n inner rest).find? name = rest.find? name := if_neg hname
        rw [entryAt?_congr hfind, ← ih hrest]
        refine or_iff_right ?_
        rintro ⟨row, -, heq⟩
        exact hname (List.cons.inj heq).1

end Folder

/-! ### Paths of files -/

/-- A name that a file or a folder can have. -/
def ProperName (name : String) : Prop := name ≠ "" ∧ '/' ∉ name.toList
  deriving Decidable

/-- All names in a folder are ones that files and folders can have. -/
def Folder.Proper : Folder → Prop
  | empty => True
  | file name _ rest => ProperName name ∧ rest.Proper
  | folder name inner rest => ProperName name ∧ inner.Proper ∧ rest.Proper

theorem Folder.Proper.of_mem_files {f : Folder} (hf : f.Proper) {names : List String}
    (h : names ∈ f.files) : ∀ name ∈ names, ProperName name := by
  induction f generalizing names with
  | empty => cases h
  | file n content rest ih =>
    obtain ⟨hn, hrest⟩ := hf
    rcases List.mem_cons.mp h with rfl | h
    · exact List.forall_mem_singleton.mpr hn
    · exact ih hrest h
  | folder n inner rest ihinner ih =>
    obtain ⟨hn, hinner, hrest⟩ := hf
    rcases List.mem_append.mp h with h | h
    · obtain ⟨more, hmore, rfl⟩ := List.mem_map.mp h
      exact List.forall_mem_cons.mpr ⟨hn, ihinner hinner hmore⟩
    · exact ih hrest h

/-- A row of names as a path that goes on from another one. -/
def pathBelow (path : String) (names : List String) : String := names.foldl joinPath path

theorem endsWith_slash_iff (path : String) :
    path.endsWith "/" = true ↔ ['/'] <:+ path.toList := by
  rw [String.endsWith_eq_endsWith_toSlice, String.Slice.endsWith_string_iff, String.copy_toSlice]
  rfl

/-- A path with a slash at its end. -/
def slashed (path : String) : List Char :=
  if path.endsWith "/" then path.toList else path.toList ++ ['/']

theorem toList_joinPath (path name : String) :
    (joinPath path name).toList = slashed path ++ name.toList := by
  unfold joinPath slashed
  split <;> simp

theorem slashed_joinPath (path : String) {name : String} (h : ProperName name) :
    slashed (joinPath path name) = slashed path ++ name.toList ++ ['/'] := by
  have hend : ¬ (joinPath path name).endsWith "/" = true := by
    rw [endsWith_slash_iff, toList_joinPath]
    rintro ⟨front, heq⟩
    have hne : name.toList ≠ [] := fun hnil => h.1 (String.toList_eq_nil_iff.mp hnil)
    have hlast := congrArg List.getLast? heq
    rw [List.getLast?_concat, List.getLast?_append_of_ne_nil _ hne] at hlast
    exact h.2 (List.mem_of_getLast? hlast.symm)
  rw [slashed, if_neg hend, toList_joinPath]

theorem toList_pathBelow (path first : String) (more : List String)
    (h : ∀ name ∈ first :: more, ProperName name) :
    (pathBelow path (first :: more)).toList =
      slashed path ++ ['/'].intercalate ((first :: more).map String.toList) := by
  induction more generalizing path first with
  | nil =>
    rw [List.map_singleton, List.intercalate_singleton]
    exact toList_joinPath path first
  | cons name more ih =>
    obtain ⟨hfirst, hmore⟩ := List.forall_mem_cons.mp h
    have hstep : pathBelow path (first :: name :: more) =
        pathBelow (joinPath path first) (name :: more) := rfl
    rw [hstep, ih _ _ hmore, slashed_joinPath path hfirst, List.map_cons, List.map_cons,
      List.map_cons, List.intercalate_cons_cons]
    simp

/-- Different rows of names are different paths. -/
theorem pathBelow_inj (path : String) {names names' : List String} (hne : names ≠ [])
    (hne' : names' ≠ []) (h : ∀ name ∈ names, ProperName name)
    (h' : ∀ name ∈ names', ProperName name) (heq : pathBelow path names = pathBelow path names') :
    names = names' := by
  have hsplit {names : List String} (hne : names ≠ []) (h : ∀ name ∈ names, ProperName name) :
      (['/'].intercalate (names.map String.toList)).splitOn '/' = names.map String.toList := by
    refine List.splitOn_intercalate '/' (fun l hl => ?_) (by simpa using hne)
    obtain ⟨name, hname, rfl⟩ := List.mem_map.mp hl
    exact (h name hname).2
  obtain ⟨first, more, rfl⟩ := List.exists_cons_of_ne_nil hne
  obtain ⟨first', more', rfl⟩ := List.exists_cons_of_ne_nil hne'
  have hlist := congrArg String.toList heq
  rw [toList_pathBelow path _ _ h, toList_pathBelow path _ _ h'] at hlist
  have hparts := congrArg (List.splitOn '/') (List.append_cancel_left hlist)
  rw [hsplit hne h, hsplit hne' h'] at hparts
  exact List.map_injective_iff.mpr (fun _ _ => String.toList_inj.mp) hparts

/-! ### Names as paths -/

/-- A search for slashes that has not cut off anything yet leaves the text whole if there is no
slash ahead. -/
theorem splitOnAux_of_notMem (behind : List Char) {ahead : List Char} (h : '/' ∉ ahead) :
    (String.ofList (behind ++ ahead)).splitOnAux "/" 0 ⟨String.utf8Len behind⟩ 0 [] =
      [String.ofList (behind ++ ahead)] := by
  induction ahead generalizing behind with
  | nil =>
    have hend : ⟨String.utf8Len behind⟩ = (String.ofList (behind ++ [])).rawEndPos := by simp
    rw [String.splitOnAux, if_pos ((String.atEnd_of_valid behind []).mpr rfl), hend,
      String.extract_zero_rawEndPos]
    rfl
  | cons c ahead ih =>
    obtain ⟨hc, hahead⟩ := not_or.mp (mt List.mem_cons.mpr h)
    have hget : String.Pos.Raw.get (String.ofList (behind ++ c :: ahead))
        ⟨String.utf8Len behind⟩ = c := String.get_of_valid behind (c :: ahead)
    have hslash : String.Pos.Raw.get "/" 0 = '/' := String.get_of_valid [] ['/']
    have hnext : String.Pos.Raw.next (String.ofList (behind ++ c :: ahead))
        ⟨String.utf8Len behind⟩ = ⟨String.utf8Len (behind ++ [c])⟩ := by
      rw [String.next_of_valid]
      simp
    have hstay : (⟨String.utf8Len behind⟩ : String.Pos.Raw).unoffsetBy 0 =
        ⟨String.utf8Len behind⟩ := rfl
    rw [String.splitOnAux, if_neg, if_neg, hstay, hnext, List.append_cons]
    · exact ih _ hahead
    · rw [hget, hslash, beq_iff_eq]
      exact Ne.symm hc
    · rw [String.atEnd_of_valid]
      exact List.cons_ne_nil c ahead

/-- A path without slashes has one part. -/
theorem pathParts_of_notMem {path : String} (h : '/' ∉ path.toList) : pathParts path = [path] := by
  have hscan := splitOnAux_of_notMem [] h
  rw [List.nil_append, String.ofList_toList] at hscan
  rw [pathParts, String.splitOn, if_neg (by decide)]
  exact hscan

/-- **A name leads to what it stands for.** -/
theorem Place.resolve_name {name : String} (h : ProperName name) (hnull : '\x00' ∉ name.toList)
    (hsize : name.utf8ByteSize ≤ pathLimit) (here : Place) :
    here.resolve name = here.follow name := by
  obtain ⟨hne, hslash⟩ := h
  have hstart : name.startsWith "/" = false := by
    rw [String.startsWith_string_eq_false_iff]
    exact fun hbegins => hslash (hbegins.mem List.mem_cons_self)
  have hcontains : name.contains '\x00' = false := by
    rw [String.contains_char_eq, decide_eq_false hnull]
  have hone (p : Place) : [name].foldlM Place.follow p = p.follow name := by
    rw [List.foldlM_cons]
    cases p.follow name <;> rfl
  rw [Place.resolve, hstart, hcontains, pathParts_of_notMem hslash]
  rw [if_neg Bool.false_ne_true, if_neg hne, if_neg (Nat.not_lt.mpr hsize)]
  exact hone _

/-! ### Well-formed folders -/

/-- In a folder, and in all folders in it, names are in order, and files and folders can have
them. -/
structure Folder.WellFormed (f : Folder) : Prop where
  sorted : f.Sorted
  proper : f.Proper

/-- The files in a folder have different paths. -/
theorem Folder.WellFormed.nodup_paths {f : Folder} (hf : f.WellFormed) (path : String) :
    (f.files.map (pathBelow path)).Nodup := by
  have hnames : ∀ names ∈ f.files, names ≠ [] ∧ ∀ name ∈ names, ProperName name :=
    fun names hmem => ⟨fun hnil => f.nil_notMem_files (hnil ▸ hmem), hf.proper.of_mem_files hmem⟩
  have hnodup : f.files.Nodup := (pairwise_files hf.sorted).imp fun hlt => ne_of_lt hlt
  refine hnodup.map_on fun names hmem names' hmem' heq => ?_
  obtain ⟨hne, hproper⟩ := hnames names hmem
  obtain ⟨hne', hproper'⟩ := hnames names' hmem'
  exact pathBelow_inj path hne hne' hproper hproper' heq

/-- A folder has to be well-formed, a file is anyway. -/
def Entry.WellFormed : Entry → Prop
  | .file _ => True
  | .folder inner => inner.WellFormed

namespace Folder

theorem wellFormed_empty : empty.WellFormed := ⟨trivial, trivial⟩

theorem wellFormed_cons {name : String} {e : Entry} {rest : Folder} :
    (cons name e rest).WellFormed ↔
      ProperName name ∧ (∀ n ∈ rest.firstName?, name < n) ∧ e.WellFormed ∧ rest.WellFormed := by
  cases e with
  | file content =>
    constructor
    · rintro ⟨⟨hfirst, hsorted⟩, hname, hproper⟩
      exact ⟨hname, hfirst, trivial, hsorted, hproper⟩
    · rintro ⟨hname, hfirst, -, hsorted, hproper⟩
      exact ⟨⟨hfirst, hsorted⟩, hname, hproper⟩
  | folder inner =>
    constructor
    · rintro ⟨⟨hfirst, hinner, hsorted⟩, hname, hinner', hproper⟩
      exact ⟨hname, hfirst, ⟨hinner, hinner'⟩, hsorted, hproper⟩
    · rintro ⟨hname, hfirst, ⟨hinner, hinner'⟩, hsorted, hproper⟩
      exact ⟨⟨hfirst, hinner, hsorted⟩, hname, hinner', hproper⟩

theorem firstName?_cons (name : String) (e : Entry) (rest : Folder) :
    (cons name e rest).firstName? = some name := by
  cases e <;> rfl

/-- Files and folders do not differ in how they stand in a folder. -/
theorem consInduction {motive : Folder → Prop} (empty : motive empty)
    (cons : ∀ name e rest, motive rest → motive (cons name e rest)) (f : Folder) : motive f := by
  induction f with
  | empty => exact empty
  | file name content rest ih => exact cons name (.file content) rest ih
  | folder name inner rest _ ih => exact cons name (.folder inner) rest ih

theorem find?_cons (n : String) (e : Entry) (rest : Folder) (name : String) :
    (cons n e rest).find? name = if n = name then some e else rest.find? name := by
  cases e <;> rfl

theorem alter_cons (name : String) (change : Option Entry → Entry) (n : String) (e : Entry)
    (rest : Folder) :
    (cons n e rest).alter name change =
      if name < n then cons name (change none) (cons n e rest)
      else if name = n then cons name (change (some e)) rest
      else cons n e (rest.alter name change) := by
  cases e <;> rfl

theorem WellFormed.of_find? {f : Folder} (hf : f.WellFormed) {name : String} {e : Entry}
    (h : f.find? name = some e) : e.WellFormed := by
  induction f using consInduction with
  | empty => cases h
  | cons n e' rest ih =>
    obtain ⟨-, -, he, hrest⟩ := wellFormed_cons.mp hf
    rw [find?_cons] at h
    split at h
    · cases h
      exact he
    · exact ih hrest h

theorem firstName?_alter {f : Folder} {name : String} {change : Option Entry → Entry} :
    ∀ n ∈ (f.alter name change).firstName?, n = name ∨ n ∈ f.firstName? := by
  induction f using consInduction with
  | empty => simp [alter, firstName?_cons, eq_comm]
  | cons n e rest _ =>
    rw [alter_cons]
    split
    · simp [firstName?_cons, eq_comm]
    · split <;> simp [firstName?_cons, eq_comm]

/-- A change of one entry leaves a folder well-formed. -/
theorem WellFormed.alter {f : Folder} (hf : f.WellFormed) {name : String} (hname : ProperName name)
    {change : Option Entry → Entry}
    (hchange : ∀ old : Option Entry, (∀ e ∈ old, e.WellFormed) → (change old).WellFormed) :
    (f.alter name change).WellFormed := by
  have hnew : (change none).WellFormed := hchange none fun _ h => absurd h (by simp)
  induction f using consInduction with
  | empty => exact wellFormed_cons.mpr ⟨hname, fun _ h => absurd h (by simp [firstName?]), hnew, hf⟩
  | cons n e rest ih =>
    obtain ⟨hn, hfirst, he, hrest⟩ := wellFormed_cons.mp hf
    rw [alter_cons]
    split
    · next hlt =>
      refine wellFormed_cons.mpr ⟨hname, fun m hm => ?_, hnew, hf⟩
      rw [firstName?_cons] at hm
      exact Option.some_inj.mp hm ▸ hlt
    · next hnot =>
      split
      · next heq =>
        subst heq
        refine wellFormed_cons.mpr ⟨hname, hfirst, hchange (some e) fun e' h => ?_, hrest⟩
        exact Option.some_inj.mp h ▸ he
      · next hne =>
        refine wellFormed_cons.mpr ⟨hn, fun m hm => ?_, he, ih hrest⟩
        rcases firstName?_alter m hm with rfl | hm
        · exact lt_of_le_of_ne (not_lt.mp hnot) (Ne.symm hne)
        · exact hfirst m hm

/-- A folder stays well-formed when a file is put into it. -/
theorem WellFormed.putFile {f : Folder} (hf : f.WellFormed) (content : ByteArray)
    {names : List String} (hnames : ∀ name ∈ names, ProperName name) :
    (f.putFile content names).WellFormed := by
  induction names generalizing f with
  | nil => exact hf
  | cons name names ih =>
    obtain ⟨hname, hnames⟩ := List.forall_mem_cons.mp hnames
    cases names with
    | nil => exact hf.alter hname fun _ _ => trivial
    | cons next names =>
      refine hf.alter hname fun old hold => ?_
      split
      · exact ih (hold _ rfl) hnames
      · exact ih wellFormed_empty hnames

/-- A folder stays well-formed when folders are made in it. -/
theorem WellFormed.putFolder {f : Folder} (hf : f.WellFormed) {names : List String}
    (hnames : ∀ name ∈ names, ProperName name) : (f.putFolder names).WellFormed := by
  induction names generalizing f with
  | nil => exact hf
  | cons name names ih =>
    obtain ⟨hname, hnames⟩ := List.forall_mem_cons.mp hnames
    refine hf.alter hname fun old hold => ?_
    split
    · exact ih (hold _ rfl) hnames
    · exact ih wellFormed_empty hnames

end Folder

/-! ### Places -/

/-- What is at a place is well-formed, and so is all that is around it. -/
structure Place.WellFormed (p : Place) : Prop where
  top : p.top.WellFormed
  trail : ∀ e ∈ p.trail, e.2.WellFormed

namespace Place

variable {p q : Place}

theorem WellFormed.entry (hp : p.WellFormed) : p.entry.WellFormed := by
  cases htrail : p.trail with
  | nil =>
    rw [Place.entry, htrail]
    exact hp.top
  | cons e trail =>
    rw [Place.entry, htrail]
    exact hp.trail e (htrail ▸ List.mem_cons_self)

theorem WellFormed.follow (hp : p.WellFormed) {part : String} (h : p.follow part = .ok q) :
    q.WellFormed := by
  have hentry := hp.entry
  unfold Place.follow at h
  split at h
  · cases h
  · next f hf =>
    rw [hf] at hentry
    split at h
    · cases h
      exact hp
    · split at h
      · cases h
        exact ⟨hp.top, fun e he => hp.trail e (List.mem_of_mem_tail he)⟩
      · split at h
        · cases h
        · next e he =>
          cases h
          exact ⟨hp.top, List.forall_mem_cons.mpr ⟨hentry.of_find? he, hp.trail⟩⟩

theorem WellFormed.foldlM_follow (hp : p.WellFormed) {parts : List String}
    (h : parts.foldlM Place.follow p = .ok q) : q.WellFormed := by
  induction parts generalizing p with
  | nil =>
    cases h
    exact hp
  | cons part parts ih =>
    rw [List.foldlM_cons] at h
    cases hstep : p.follow part with
    | error failure =>
      rw [hstep] at h
      cases h
    | ok next =>
      rw [hstep] at h
      exact ih (hp.follow hstep) h

/-- A path leads into well-formed folders only. -/
theorem WellFormed.resolve {here : Place} (hhere : here.WellFormed) {path : String}
    (h : here.resolve path = .ok p) : p.WellFormed := by
  unfold Place.resolve at h
  dsimp only at h
  split at h
  · cases h
  · split at h
    · cases h
    · split at h
      · cases h
      · refine foldlM_follow ?_ h
        split
        · exact ⟨hhere.top, fun e he => absurd he List.not_mem_nil⟩
        · exact hhere

end Place

end Estree.Files
