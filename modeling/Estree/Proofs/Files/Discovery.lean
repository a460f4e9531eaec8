import Estree.Files.Discovery
import Estree.Proofs.Files.Folder
import Mathlib.Data.List.Forall2

/-!
# What is found in folders

The search goes down into a folder only if its name is wanted, and takes what it finds there in the
place of the folder. What comes of it can be said without going anywhere: a file is found if all
names on the way to it are wanted, and the files are found in the order of these ways.

* `documents_eq_filter`: a folder that is left out is as good as its files left out one by one;
* `documents_sublist`: whoever wants less of a folder finds less;
* `standsFor_of_resolve`: what is found for a path that leads somewhere;
* `discover_finds`: what is found for several paths, and what is not.
-/

namespace Estree.Files

/-! ### Wanted files -/

/-- Are all names of a row wanted, and does the last one have one of the extensions? -/
def isWantedRow (s : SearchSettings) (unwanted : List NamePattern) (names : List String) : Bool :=
  names.all (fun name => !unwanted.any (·.covers name)) &&
    names.getLast?.any (Discovery.hasExtension s.extensions)

theorem isWantedRow_cons (s : SearchSettings) (unwanted : List NamePattern) (name : String)
    {names : List String} (h : names ≠ []) :
    isWantedRow s unwanted (name :: names) =
      (!unwanted.any (·.covers name) && isWantedRow s unwanted names) := by
  rw [isWantedRow, List.all_cons, List.getLast?_cons_of_ne_nil h, Bool.and_assoc]
  rfl

open Discovery in
/-- **Leaving out folders and leaving out files in them comes to the same.** -/
theorem documents_eq_filter (here : Place) (s : SearchSettings) (hall : s.all = true)
    (unwanted : List NamePattern) (scopes : List Scope) (path : String) (f : Folder) :
    f.documents here s unwanted scopes path =
      (f.files.filter (isWantedRow s unwanted)).map (pathBelow path) := by
  have hwanted (scopes : List Scope) (path name : String) (isFolder : Bool) :
      isWanted s.all unwanted scopes path name isFolder = !unwanted.any (·.covers name) := by
    rw [isWanted, hall, Bool.true_or, Bool.true_and]
  induction f generalizing scopes path with
  | empty => rfl
  | file name content rest ih =>
    rw [Folder.documents, Folder.files, List.filter_cons, hwanted, ih]
    have hrow : isWantedRow s unwanted [name] =
        (!unwanted.any (·.covers name) && hasExtension s.extensions name) := by
      simp [isWantedRow]
    rw [hrow]
    split <;> rfl
  | folder name inner rest ihinner ih =>
    rw [Folder.documents, Folder.files, List.filter_append, List.map_append, hwanted, ih,
      List.filter_map, List.map_map]
    have hrow : ∀ names ∈ inner.files, (isWantedRow s unwanted ∘ (name :: ·)) names =
        (!unwanted.any (·.covers name) && isWantedRow s unwanted names) := fun names hmem =>
      isWantedRow_cons s unwanted name fun hnil => inner.nil_notMem_files (hnil ▸ hmem)
    rw [List.filter_congr hrow]
    cases unwanted.any (·.covers name) with
    | true => simp
    | false => exact congrArg (· ++ _) (ihinner _ _)

open Discovery in
/-- **Whoever wants less finds less.** -/
theorem documents_sublist (here : Place) {s s' : SearchSettings}
    {unwanted unwanted' : List NamePattern} (hextensions : s'.extensions = s.extensions)
    (hwanted : ∀ scopes path name isFolder,
      isWanted s'.all unwanted' scopes path name isFolder = true →
        isWanted s.all unwanted scopes path name isFolder = true)
    (scopes : List Scope) (path : String) (f : Folder) :
    (f.documents here s' unwanted' scopes path).Sublist
      (f.documents here s unwanted scopes path) := by
  induction f generalizing scopes path with
  | empty => exact .refl _
  | file name content rest ih =>
    have hname := hwanted scopes (joinPath path name) name false
    rw [Folder.documents, Folder.documents, hextensions]
    split
    · next hkept =>
      obtain ⟨hkept, hextension⟩ := Bool.and_eq_true_iff.mp hkept
      rw [if_pos (Bool.and_eq_true_iff.mpr ⟨hname hkept, hextension⟩)]
      exact (ih scopes path).cons_cons _
    · split
      · exact (ih scopes path).cons _
      · exact ih scopes path
  | folder name inner rest ihinner ih =>
    have hname := hwanted scopes (joinPath path name) name true
    rw [Folder.documents, Folder.documents]
    dsimp only
    split
    · next hkept =>
      rw [if_pos (hname hkept)]
      exact (ihinner _ _).append (ih scopes path)
    · split
      · exact (ih scopes path).trans (List.sublist_append_right _ _)
      · exact ih scopes path

/-! ### One after the other -/

section Lists

variable {α β ε : Type} {f : α → Except ε β}

/-- Results are listed if there is one for each item. -/
theorem mapM_eq_ok_iff {xs : List α} {ys : List β} :
    xs.mapM f = .ok ys ↔ List.Forall₂ (fun x y => f x = .ok y) xs ys := by
  induction xs generalizing ys with
  | nil => simp [pure, Except.pure, eq_comm]
  | cons x xs ih =>
    rw [List.mapM_cons]
    cases hx : f x with
    | error e => simp [bind, Except.bind, hx, List.forall₂_cons_left_iff]
    | ok y =>
      cases hxs : xs.mapM f with
      | error e => simp [bind, Except.bind, hx, List.forall₂_cons_left_iff, ← ih, hxs]
      | ok rest =>
        simp [bind, Except.bind, pure, Except.pure, hx, List.forall₂_cons_left_iff, ← ih, hxs,
          eq_comm]

/-- The first error decides. -/
theorem mapM_eq_error {before : List α} (h : ∀ x ∈ before, ∃ y, f x = .ok y) {x : α} {e : ε}
    (hx : f x = .error e) (after : List α) : (before ++ x :: after).mapM f = .error e := by
  induction before with
  | nil => simp [List.mapM_cons, bind, Except.bind, hx]
  | cons b before ih =>
    obtain ⟨⟨y, hy⟩, hrest⟩ := List.forall_mem_cons.mp h
    rw [List.cons_append, List.mapM_cons, ih hrest, hy]
    rfl

theorem mem_of_mapM {xs : List α} {ys : List β} (h : xs.mapM f = .ok ys) {y : β} :
    y ∈ ys ↔ ∃ x ∈ xs, f x = .ok y := by
  have hpairs := mapM_eq_ok_iff.mp h
  clear h
  induction hpairs with
  | nil => simp
  | @cons x z xs ys hx _ ih =>
    simp [ih, hx, eq_comm (a := y)]

/-- If there is less in each result, there is less in all of them. -/
theorem mapM_flatten_sublist {γ : Type} {few many : α → Except ε (List γ)}
    (h : ∀ x ys, few x = .ok ys → ∃ zs, many x = .ok zs ∧ ys.Sublist zs) {xs : List α}
    {parts : List (List γ)} (hparts : xs.mapM few = .ok parts) :
    ∃ parts', xs.mapM many = .ok parts' ∧ parts.flatten.Sublist parts'.flatten := by
  have hpairs := mapM_eq_ok_iff.mp hparts
  clear hparts
  induction hpairs with
  | nil => exact ⟨[], rfl, .refl _⟩
  | @cons x ys xs parts hx _ ih =>
    obtain ⟨zs, hzs, hsublist⟩ := h x ys hx
    obtain ⟨parts', hparts', hrest⟩ := ih
    refine ⟨zs :: parts', ?_, hsublist.append hrest⟩
    rw [List.mapM_cons, hzs, hparts']
    rfl

theorem exists_forall₂ {r : α → β → Prop} {xs : List α} (h : ∀ x ∈ xs, ∃ y, r x y) :
    ∃ ys, List.Forall₂ r xs ys := by
  induction xs with
  | nil => exact ⟨[], .nil⟩
  | cons x xs ih =>
    obtain ⟨⟨y, hy⟩, hrest⟩ := List.forall_mem_cons.mp h
    obtain ⟨ys, hys⟩ := ih hrest
    exact ⟨y :: ys, .cons hy hys⟩

end Lists

/-! ### What paths stand for -/

/-- A row of names leads to a file with a wanted extension, and no name in it is covered by a
pattern. -/
structure Wanted (s : SearchSettings) (unwanted : List NamePattern) (f : Folder)
    (names : List String) : Prop where
  file : ∃ content, f.entryAt? names = some (.file content)
  uncovered : ∀ name ∈ names, ∀ pattern ∈ unwanted, pattern.covers name = false
  extension : ∀ name ∈ names.getLast?, Discovery.hasExtension s.extensions name = true

/-- What a path stands for, if hidden and ignored entries are wanted, too. For a file, neither its
name nor the patterns matter; for a folder, its own name does not. -/
inductive StandsFor (here : Place) (s : SearchSettings) (unwanted : List NamePattern)
    (path : String) : List String → Prop where
  /-- A file stands for itself. -/
  | file {p : Place} {content : ByteArray} (hp : here.resolve path = .ok p)
    (he : p.entry = .file content) : StandsFor here s unwanted path [path]
  /-- A folder stands for the wanted files in it, in the order of the ways to them, each once. -/
  | folder {p : Place} {f : Folder} (hp : here.resolve path = .ok p) (he : p.entry = .folder f)
    (hname : Discovery.isHyphen path = false) (rows : List (List String))
    (hsorted : rows.Pairwise (· < ·)) (hmem : ∀ names, names ∈ rows ↔ Wanted s unwanted f names)
    (hnodup : (rows.map (pathBelow path)).Nodup) :
    StandsFor here s unwanted path (rows.map (pathBelow path))
  /-- A hyphen stands for what comes in from outside, even if there is a folder of this name. -/
  | outside {p : Place} {f : Folder} (hp : here.resolve path = .ok p) (he : p.entry = .folder f)
    (hname : Discovery.isHyphen path = true) : StandsFor here s unwanted path []

theorem mem_filter_iff_wanted {s : SearchSettings} {unwanted : List NamePattern} {f : Folder}
    (hf : f.Sorted) (names : List String) :
    names ∈ f.files.filter (isWantedRow s unwanted) ↔ Wanted s unwanted f names := by
  rw [List.mem_filter]
  constructor
  · rintro ⟨hmem, hrow⟩
    obtain ⟨hnames, hlast⟩ := Bool.and_eq_true_iff.mp hrow
    refine ⟨(Folder.mem_files_iff hf names).mp hmem, ?_, fun name hname => ?_⟩
    · simpa using hnames
    · rwa [Option.mem_def.mp hname] at hlast
  · rintro ⟨hfile, huncovered, hextension⟩
    have hmem := (Folder.mem_files_iff hf names).mpr hfile
    refine ⟨hmem, Bool.and_eq_true_iff.mpr ⟨by simpa using huncovered, ?_⟩⟩
    have hne : names ≠ [] := fun hnil => f.nil_notMem_files (hnil ▸ hmem)
    rw [List.getLast?_eq_some_getLast hne] at hextension ⊢
    exact hextension _ rfl

theorem expand_of_resolve {here : Place} {path : String} {p : Place}
    (hp : here.resolve path = .ok p) (s : SearchSettings) (unwanted : List NamePattern) :
    Discovery.expand here s unwanted path = .ok (match p.entry with
      | .file _ => [path]
      | .folder f =>
        if Discovery.isHyphen path then []
        else f.documents here s unwanted (Discovery.scopesAt here path p f) path) := by
  rw [Discovery.expand, hp]
  dsimp only
  cases p.entry <;> rfl

theorem expand_of_not_resolve {here : Place} {path : String}
    (hp : ∀ p, here.resolve path ≠ .ok p) (s : SearchSettings) (unwanted : List NamePattern) :
    Discovery.expand here s unwanted path = .error (.unreadable path .absent) := by
  unfold Discovery.expand
  split
  · rfl
  · next p h => exact absurd h (hp p)

/-- **What one path stands for.** -/
theorem standsFor_of_resolve {here : Place} (hhere : here.WellFormed) {s : SearchSettings}
    (hall : s.all = true) (unwanted : List NamePattern) {path : String} {p : Place}
    (hp : here.resolve path = .ok p) :
    ∃ found, Discovery.expand here s unwanted path = .ok found ∧
      StandsFor here s unwanted path found := by
  have hexpand := expand_of_resolve hp s unwanted
  cases he : p.entry with
  | file content =>
    rw [he] at hexpand
    exact ⟨_, hexpand, .file hp he⟩
  | folder f =>
    rw [he] at hexpand
    cases hname : Discovery.isHyphen path with
    | true =>
      rw [hname] at hexpand
      exact ⟨_, hexpand, .outside hp he hname⟩
    | false =>
      dsimp only at hexpand
      rw [hname, if_neg Bool.false_ne_true, documents_eq_filter here s hall] at hexpand
      have hentry := (hhere.resolve hp).entry
      rw [he] at hentry
      have hf : f.WellFormed := hentry
      have hrows : (f.files.filter (isWantedRow s unwanted)).Pairwise (· < ·) :=
        (Folder.pairwise_files hf.sorted).filter _
      have hnodup : ((f.files.filter (isWantedRow s unwanted)).map (pathBelow path)).Nodup :=
        (hf.nodup_paths path).sublist (List.filter_sublist.map _)
      exact ⟨_, hexpand, .folder hp he hname _ hrows (mem_filter_iff_wanted hf.sorted) hnodup⟩

/-- What is read of some texts is also read of more of them. -/
theorem ofTexts_subset {texts texts' : List String} (hsubset : texts ⊆ texts')
    {patterns patterns' : List NamePattern} (h : NamePattern.ofTexts texts = .ok patterns)
    (h' : NamePattern.ofTexts texts' = .ok patterns') : patterns ⊆ patterns' := by
  intro pattern hmem
  obtain ⟨text, htext, hread⟩ := (mem_of_mapM h).mp hmem
  exact (mem_of_mapM h').mpr ⟨text, hsubset htext, hread⟩

open Discovery in
/-- **Whoever wants less of a path finds less.** -/
theorem expand_sublist {here : Place} {s s' : SearchSettings}
    (hall : s'.all = true → s.all = true) (hextensions : s'.extensions = s.extensions)
    {unwanted unwanted' : List NamePattern} (hunwanted : unwanted ⊆ unwanted') {path : String}
    {found' : List String} (h : expand here s' unwanted' path = .ok found') :
    ∃ found, expand here s unwanted path = .ok found ∧ found'.Sublist found := by
  have hwanted (scopes : List Scope) (path name : String) (isFolder : Bool)
      (h : isWanted s'.all unwanted' scopes path name isFolder = true) :
      isWanted s.all unwanted scopes path name isFolder = true := by
    simp only [isWanted, Bool.and_eq_true, Bool.or_eq_true, Bool.not_eq_true',
      List.any_eq_false] at h ⊢
    exact ⟨h.1.imp_left hall, fun pattern hmem => h.2 pattern (hunwanted hmem)⟩
  cases hp : here.resolve path with
  | error failure =>
    rw [expand, hp] at h
    cases h
  | ok p =>
    rw [expand_of_resolve hp] at h
    cases h
    refine ⟨_, expand_of_resolve hp s unwanted, ?_⟩
    cases p.entry with
    | file content => exact .refl _
    | folder f =>
      dsimp only
      split
      · exact .refl _
      · exact documents_sublist here hextensions hwanted _ _ f

/-- What is found for some paths is what is found for each of them. -/
theorem discover_eq {here : Place} {s : SearchSettings} {unwanted : List NamePattern}
    (hpatterns : NamePattern.ofTexts s.ignore = .ok unwanted) (paths : List String) :
    discover here s paths = (paths.mapM (Discovery.expand here s unwanted)).map List.flatten := by
  rw [discover, hpatterns]
  change paths.mapM (Discovery.expand here s unwanted) >>= _ = _
  cases paths.mapM (Discovery.expand here s unwanted) <;> rfl

/-- A path that leads to a file stands for itself, whatever is wanted of folders. -/
theorem discover_files {here : Place} {s : SearchSettings} {unwanted : List NamePattern}
    (hpatterns : NamePattern.ofTexts s.ignore = .ok unwanted) {paths : List String}
    (h : ∀ path ∈ paths, ∃ p content, here.resolve path = .ok p ∧ p.entry = .file content) :
    discover here s paths = .ok paths := by
  have hexpand : ∀ path ∈ paths, Discovery.expand here s unwanted path = .ok [path] := by
    intro path hmem
    obtain ⟨p, content, hp, hentry⟩ := h path hmem
    rw [expand_of_resolve hp, hentry]
  have hparts : paths.mapM (Discovery.expand here s unwanted) =
      .ok (paths.map fun path => [path]) :=
    mapM_eq_ok_iff.mpr (List.forall₂_map_right_iff.mpr (List.forall₂_same.mpr hexpand))
  rw [discover_eq hpatterns, hparts, Except.map, ← List.flatMap_def, List.flatMap_singleton']

theorem exists_parts_of_discover {here : Place} {s : SearchSettings} {paths found : List String}
    (h : discover here s paths = .ok found) :
    ∃ unwanted parts, NamePattern.ofTexts s.ignore = .ok unwanted ∧
      paths.mapM (Discovery.expand here s unwanted) = .ok parts ∧ parts.flatten = found := by
  cases hpatterns : NamePattern.ofTexts s.ignore with
  | error e =>
    rw [discover, hpatterns] at h
    cases h
  | ok unwanted =>
    rw [discover_eq hpatterns] at h
    cases hparts : paths.mapM (Discovery.expand here s unwanted) with
    | error e =>
      rw [hparts] at h
      cases h
    | ok parts =>
      rw [hparts] at h
      exact ⟨unwanted, parts, rfl, hparts, Except.ok.inj h⟩

/-- **What is found.** If all paths lead to files or folders, it is what they stand for, one after
the other. If not, the first one that leads nowhere is reported, and nothing is found. With more
patterns, or without the hidden and ignored entries, less is found, in the same order. -/
theorem discover_finds {here : Place} (hhere : here.WellFormed) {s : SearchSettings}
    {unwanted : List NamePattern} (hpatterns : NamePattern.ofTexts s.ignore = .ok unwanted)
    (paths : List String) :
    (s.all = true → (∀ path ∈ paths, ∃ p, here.resolve path = .ok p) →
      ∃ parts, List.Forall₂ (StandsFor here s unwanted) paths parts ∧
        discover here s paths = .ok parts.flatten) ∧
    (∀ before path after, paths = before ++ path :: after →
      (∀ b ∈ before, ∃ p, here.resolve b = .ok p) → (∀ p, here.resolve path ≠ .ok p) →
        discover here s paths = .error (.unreadable path .absent)) ∧
    ∀ s' found', (s'.all = true → s.all = true) → s'.extensions = s.extensions →
      s.ignore ⊆ s'.ignore → discover here s' paths = .ok found' →
        ∃ found, discover here s paths = .ok found ∧ found'.Sublist found := by
  rw [discover_eq hpatterns]
  refine ⟨fun hall hpaths => ?_, fun before path after hsplit hbefore hpath => ?_,
    fun s' found' hall hextensions hsubset h => ?_⟩
  · have hexpand : ∀ path ∈ paths, ∃ found, Discovery.expand here s unwanted path = .ok found ∧
        StandsFor here s unwanted path found := fun path hmem =>
      (hpaths path hmem).elim fun _ hp => standsFor_of_resolve hhere hall unwanted hp
    obtain ⟨parts, hparts⟩ := exists_forall₂ hexpand
    refine ⟨parts, hparts.imp fun _ _ h => h.2, ?_⟩
    rw [mapM_eq_ok_iff.mpr (hparts.imp fun _ _ h => h.1)]
    rfl
  · have hfound : ∀ b ∈ before, ∃ found, Discovery.expand here s unwanted b = .ok found :=
      fun b hb => (hbefore b hb).elim fun _ hp => ⟨_, expand_of_resolve hp s unwanted⟩
    rw [hsplit, mapM_eq_error hfound (expand_of_not_resolve hpath s unwanted) after]
    rfl
  · obtain ⟨unwanted', parts', hpatterns', hparts', rfl⟩ := exists_parts_of_discover h
    have hunwanted := ofTexts_subset hsubset hpatterns hpatterns'
    obtain ⟨parts, hparts, hsublist⟩ := mapM_flatten_sublist
      (fun _ _ => expand_sublist hall hextensions hunwanted) hparts'
    exact ⟨parts.flatten, by rw [hparts]; rfl, hsublist⟩

/-- A drawer with a document in it and another one further inside. -/
def drawer : Folder := (Folder.empty.putFile .empty ["a.json"]).putFile .empty ["old", "b.json"]

/-- A cabinet with a drawer and a file. -/
def cabinet : Folder := .folder "d" drawer (.file "x" .empty .empty)

theorem cabinet_wellFormed : cabinet.WellFormed := by
  have hdrawer : drawer.WellFormed :=
    (Folder.wellFormed_empty.putFile .empty (by decide)).putFile .empty (by decide)
  have hfile : (Folder.empty.putFile .empty ["x"]).WellFormed :=
    Folder.wellFormed_empty.putFile .empty (by decide)
  have hfirst : ∀ n ∈ some "x", "d" < n := fun n h => Option.some_inj.mp h ▸ by decide
  exact (Folder.wellFormed_cons (e := .folder drawer)).mpr ⟨by decide, hfirst, hdrawer, hfile⟩

theorem cabinet_resolve (path : String) (h : path ∈ ["x", "d"]) :
    ∃ p, Place.resolve ⟨cabinet, []⟩ path = .ok p := by
  simp only [List.mem_cons, List.not_mem_nil, or_false] at h
  obtain rfl | rfl := h
  · exact ⟨⟨cabinet, [("x", .file .empty)]⟩,
      Place.resolve_name (by decide) (by decide) (by decide) ⟨cabinet, []⟩⟩
  · exact ⟨⟨cabinet, [("d", .folder drawer)]⟩,
      Place.resolve_name (by decide) (by decide) (by decide) ⟨cabinet, []⟩⟩

/-- In the cabinet, something is found for its drawer and its file, nothing if there is also a path
that leads nowhere, and less if the old things are not wanted. -/
theorem cabinet_finds :
    (∃ parts, List.Forall₂ (StandsFor ⟨cabinet, []⟩ { all := true } []) ["x", "d"] parts ∧
      discover ⟨cabinet, []⟩ { all := true } ["x", "d"] = .ok parts.flatten) ∧
    discover ⟨cabinet, []⟩ { all := true } ["x", "y", "d"] = .error (.unreadable "y" .absent) ∧
    ∃ few many, discover ⟨cabinet, []⟩ { all := true, ignore := ["o*"] } ["x", "d"] = .ok few ∧
      discover ⟨cabinet, []⟩ { all := true } ["x", "d"] = .ok many ∧ few.Sublist many := by
  have hhere : Place.WellFormed ⟨cabinet, []⟩ := ⟨cabinet_wellFormed, by simp⟩
  have hnone : NamePattern.ofTexts [] = .ok [] := rfl
  have hsome : NamePattern.ofTexts ["o*"] = .ok [⟨"o*", [.character 'o', .anyRun]⟩] := by rfl
  have hnowhere : ∀ p, Place.resolve ⟨cabinet, []⟩ "y" ≠ .ok p := by
    have hy : Place.resolve ⟨cabinet, []⟩ "y" = .error .noSuchFile :=
      Place.resolve_name (by decide) (by decide) (by decide) ⟨cabinet, []⟩
    simp [hy]
  obtain ⟨hfound, -, hless⟩ :=
    discover_finds hhere (s := { all := true }) hnone ["x", "d"]
  obtain ⟨few, -, hfew⟩ :=
    (discover_finds hhere (s := { all := true, ignore := ["o*"] }) hsome ["x", "d"]).1 rfl
      cabinet_resolve
  refine ⟨hfound rfl cabinet_resolve, ?_, ?_⟩
  · refine (discover_finds hhere (s := { all := true }) hnone ["x", "y", "d"]).2.1
      ["x"] "y" ["d"] rfl (fun b hb => cabinet_resolve b ?_) hnowhere
    exact List.mem_cons.mpr (.inl (List.mem_singleton.mp hb))
  · obtain ⟨many, hmany, hsublist⟩ :=
      hless { all := true, ignore := ["o*"] } few.flatten (fun _ => rfl) rfl (List.nil_subset _)
        hfew
    exact ⟨_, many, hfew, hmany, hsublist⟩

end Estree.Files
