import Mathlib.Data.List.Basic
import SchemaViews.Declaration.Source
import SchemaViews.Proofs.GoSource.Feeding
import SchemaViews.Proofs.Results

/-!
# Where declarations come from

Every declaration that sources give comes from one of the files. The declarations of a
file keep their order, but those of all JSON files stand before those of all Go texts,
whatever the order of the files is.
-/

namespace SchemaViews.Declaration

open GoSource

/-! ### What each file declares -/

def extraction (file : SourceFile) : Extraction :=
  Extraction.feed {} file.text.toList (some file.path)

def goFiles (files : List SourceFile) : List SourceFile :=
  files.filter fun file => !file.isData

/-- The constants of all Go texts, each with the name of its type. -/
def constants (files : List SourceFile) : List (String × Member) :=
  (goFiles files).flatMap fun file => (extraction file).constants

/-- The declarations that come from one of some files: the types of a Go text get their
constants from all of them. -/
def comingFrom (files : List SourceFile) (file : SourceFile) : List Declaration :=
  if file.isData then (ofDataFile file).toOption.getD []
  else { extraction file with constants := constants files }.declarations

theorem comingFrom_of_isData {files : List SourceFile} {file : SourceFile}
    (hdata : file.isData = true) : comingFrom files file = (ofDataFile file).toOption.getD [] :=
  if_pos hdata

theorem comingFrom_of_not_isData {files : List SourceFile} {file : SourceFile}
    (hgo : file.isData = false) :
    comingFrom files file = { extraction file with constants := constants files }.declarations :=
  if_neg (by rw [hgo]; exact Bool.false_ne_true)

theorem ofDataFiles_eq {files : List SourceFile} {declarations : List Declaration}
    (h : ofDataFiles files = .ok declarations) :
    declarations = files.flatMap fun file => (ofDataFile file).toOption.getD [] := by
  induction files generalizing declarations with
  | nil =>
      rw [ofDataFiles, Except.ok.injEq] at h
      exact h.symm
  | cons file files ih =>
      rw [ofDataFiles] at h
      split at h
      · cases h
      · next own hown =>
          obtain ⟨rest, hrest, rfl⟩ := map_eq_ok_iff.1 h
          rw [List.flatMap_cons, hown, ih hrest]
          rfl

theorem foldl_feed (files : List SourceFile) (before : Extraction) :
    files.foldl (fun read file => read.feed file.text.toList (some file.path)) before =
      before.append ⟨files.flatMap fun file => (extraction file).types,
        files.flatMap fun file => (extraction file).constants⟩ :=
  Extraction.foldl_feed (fun file : SourceFile => file.text.toList)
    (fun file => some file.path) files before

theorem ofGoFiles_eq (files : List SourceFile) :
    ofGoFiles (goFiles files) = (goFiles files).flatMap (comingFrom files) := by
  have hgo : ∀ file ∈ goFiles files,
      ({ extraction file with constants := constants files } : Extraction).declarations =
        comingFrom files file :=
    fun file hfile => (comingFrom_of_not_isData (by simpa using (List.mem_filter.1 hfile).2)).symm
  calc
    ofGoFiles (goFiles files) =
        (Extraction.append {} ⟨(goFiles files).flatMap fun file => (extraction file).types,
          constants files⟩).declarations := by
      rw [ofGoFiles, foldl_feed]
      rfl
    _ = (goFiles files).flatMap fun file =>
          ({ extraction file with constants := constants files } : Extraction).declarations := by
      rw [Extraction.declarations, Extraction.append, List.nil_append, List.filterMap_flatMap]
      rfl
    _ = (goFiles files).flatMap (comingFrom files) := List.flatMap_congr hgo

theorem ofSources_eq {files : List SourceFile} {declarations : List Declaration}
    (h : ofSources files = .ok declarations) :
    declarations = (files.filter SourceFile.isData).flatMap (comingFrom files) ++
      (goFiles files).flatMap (comingFrom files) := by
  obtain ⟨own, hdata, rfl⟩ := map_eq_ok_iff.1 h
  have hown : own = (files.filter SourceFile.isData).flatMap (comingFrom files) := by
    rw [ofDataFiles_eq hdata]
    exact List.flatMap_congr fun file hfile =>
      (comingFrom_of_isData (List.mem_filter.1 hfile).2).symm
  rw [hown, ← ofGoFiles_eq]
  rfl

/-! ### Declarations with their places -/

structure Entry where
  place : Nat
  file : SourceFile
  declaration : Declaration
  deriving DecidableEq, Repr

def entriesOf (files : List SourceFile) (placed : SourceFile × Nat) : List Entry :=
  (comingFrom files placed.1).map (Entry.mk placed.2 placed.1)

def inOrder (files : List SourceFile) : List Entry :=
  files.zipIdx.flatMap (entriesOf files)

/-- The declarations of all files in the order in which they are loaded. -/
def loaded (files : List SourceFile) : List Entry :=
  (inOrder files).filter (fun entry => entry.file.isData) ++
    (inOrder files).filter (fun entry => !entry.file.isData)

/-- Whether everything from an earlier place stands before everything from a later one. -/
def KeepsOrder (entries : List Entry) (earlier later : Nat) : Prop :=
  entries.Pairwise fun first second => first.place = later → second.place ≠ earlier

instance (entries : List Entry) (earlier later : Nat) :
    Decidable (KeepsOrder entries earlier later) :=
  inferInstanceAs (Decidable (entries.Pairwise _))

section

variable {files : List SourceFile} {file : SourceFile} {place : Nat} {entry : Entry}

theorem mem_entriesOf {placed : SourceFile × Nat} :
    entry ∈ entriesOf files placed ↔
      entry.place = placed.2 ∧ entry.file = placed.1 ∧
    entry.declaration ∈ comingFrom files placed.1 := by
  rw [entriesOf, List.mem_map]
  constructor
  · rintro ⟨declaration, hdeclaration, rfl⟩
    exact ⟨rfl, rfl, hdeclaration⟩
  · rintro ⟨hplace, hfile, hdeclaration⟩
    exact ⟨entry.declaration, hdeclaration, by rw [← hplace, ← hfile]⟩

theorem mem_inOrder :
    entry ∈ inOrder files ↔ files[entry.place]? = some entry.file ∧
    entry.declaration ∈ comingFrom files entry.file := by
  rw [inOrder, List.mem_flatMap]
  constructor
  · rintro ⟨placed, hplaced, hentry⟩
    obtain ⟨hplace, hfile, hdeclaration⟩ := mem_entriesOf.1 hentry
    rw [hplace, hfile]
    exact ⟨List.mem_zipIdx_iff_getElem?.1 hplaced, hdeclaration⟩
  · rintro ⟨hfile, hdeclaration⟩
    exact ⟨(entry.file, entry.place), List.mem_zipIdx_iff_getElem?.2 hfile,
      mem_entriesOf.2 ⟨rfl, rfl, hdeclaration⟩⟩

theorem pairwise_zipIdx (files : List SourceFile) :
    files.zipIdx.Pairwise fun first second => first.2 < second.2 := by
  rw [← List.pairwise_map (f := Prod.snd) (R := (· < ·)), List.zipIdx_map_snd]
  exact List.pairwise_lt_range'

theorem pairwise_inOrder (files : List SourceFile) :
    (inOrder files).Pairwise fun first second => first.place ≤ second.place := by
  rw [inOrder, List.pairwise_flatMap]
  constructor
  · intro placed _
    exact List.pairwise_map.2 (List.pairwise_of_forall fun _ _ => Nat.le_refl _)
  · refine (pairwise_zipIdx files).imp fun hplaces first hfirst second hsecond => ?_
    rw [(mem_entriesOf.1 hfirst).1, (mem_entriesOf.1 hsecond).1]
    exact Nat.le_of_lt hplaces

theorem map_entriesOf (placed : SourceFile × Nat) :
    (entriesOf files placed).map (·.declaration) = comingFrom files placed.1 := by
  rw [entriesOf, List.map_map]
  exact List.map_id _

theorem filter_entriesOf (keep : SourceFile → Bool) (placed : SourceFile × Nat) :
    (entriesOf files placed).filter (fun entry => keep entry.file) =
      if keep placed.1 then entriesOf files placed else [] := by
  split
  · next hkeep =>
        exact List.filter_eq_self.2 fun entry hentry => by rw [(mem_entriesOf.1 hentry).2.1, hkeep]
  · next hkeep =>
        exact List.filter_eq_nil_iff.2 fun entry hentry => by rwa [(mem_entriesOf.1 hentry).2.1]

theorem map_filter_entries (keep : SourceFile → Bool) (rest : List SourceFile) (start : Nat) :
    (((rest.zipIdx start).flatMap (entriesOf files)).filter fun entry => keep entry.file).map
      (·.declaration) = (rest.filter keep).flatMap (comingFrom files) := by
  induction rest generalizing start with
  | nil => rfl
  | cons file rest ih =>
      rw [List.zipIdx_cons, List.flatMap_cons, List.filter_append, List.map_append, ih]
      rw [filter_entriesOf, List.filter_cons]
      split
      · rw [map_entriesOf, List.flatMap_cons]
      · rw [List.map_nil, List.nil_append]

theorem filter_place_entries (hfile : files[place]? = some file) :
    (inOrder files).filter (fun entry => entry.place == place) = entriesOf files (file, place) := by
  have hmem : (file, place) ∈ files.zipIdx := List.mem_zipIdx_iff_getElem?.2 hfile
  obtain ⟨before, after, hsplit⟩ := List.append_of_mem hmem
  have hplaces := pairwise_zipIdx files
  rw [hsplit, List.pairwise_append, List.pairwise_cons] at hplaces
  have hother (others : List (SourceFile × Nat)) (hothers : ∀ placed ∈ others, placed.2 ≠ place) :
      (others.flatMap (entriesOf files)).filter (fun entry => entry.place == place) = [] := by
    refine List.filter_eq_nil_iff.2 fun entry hentry => ?_
    obtain ⟨placed, hplaced, hentry⟩ := List.mem_flatMap.1 hentry
    rw [(mem_entriesOf.1 hentry).1, beq_iff_eq]
    exact hothers placed hplaced
  have hown : (entriesOf files (file, place)).filter (fun entry => entry.place == place) =
      entriesOf files (file, place) :=
    List.filter_eq_self.2 fun entry hentry => by rw [(mem_entriesOf.1 hentry).1, beq_iff_eq]
  have hbefore := hother before fun placed hplaced =>
    Nat.ne_of_lt (hplaces.2.2 placed hplaced _ List.mem_cons_self)
  have hafter := hother after fun placed hplaced => Nat.ne_of_gt (hplaces.2.1.1 placed hplaced)
  calc
    (inOrder files).filter (fun entry => entry.place == place) =
        (before.flatMap (entriesOf files) ++
          (entriesOf files (file, place) ++ after.flatMap (entriesOf files))).filter
            (fun entry => entry.place == place) := by
      rw [inOrder, hsplit, List.flatMap_append, List.flatMap_cons]
    _ = [] ++ (entriesOf files (file, place) ++ []) := by
      rw [List.filter_append, List.filter_append, hbefore, hown, hafter]
    _ = entriesOf files (file, place) := List.append_nil _

/-! ### What is loaded -/

theorem map_loaded (files : List SourceFile) :
    (loaded files).map (·.declaration) =
      (files.filter SourceFile.isData).flatMap (comingFrom files) ++
      (goFiles files).flatMap (comingFrom files) := by
  rw [loaded, List.map_append]
  exact congrArg₂ _ (map_filter_entries _ _ _) (map_filter_entries (fun file => !file.isData) _ _)

theorem filter_place_loaded (hfile : files[place]? = some file) :
    (loaded files).filter (fun entry => entry.place == place) = entriesOf files (file, place) := by
  calc
    (loaded files).filter (fun entry => entry.place == place) =
        (entriesOf files (file, place)).filter (fun entry => entry.file.isData) ++
          (entriesOf files (file, place)).filter (fun entry => !entry.file.isData) := by
      rw [loaded, List.filter_append, List.filter_comm, filter_place_entries hfile,
        List.filter_comm, filter_place_entries hfile]
    _ = (if file.isData then entriesOf files (file, place) else []) ++
          if !file.isData then entriesOf files (file, place) else [] := by
      rw [filter_entriesOf, filter_entriesOf fun file => !file.isData]
    _ = entriesOf files (file, place) := by
      cases file.isData with
      | true => exact List.append_nil _
      | false => exact List.nil_append _

theorem keepsOrder_loaded_iff {earlier later : Nat} {first second : SourceFile}
    (hplaces : earlier < later) (hfirst : files[earlier]? = some first)
    (hsecond : files[later]? = some second) :
    KeepsOrder (loaded files) earlier later ↔
      (first.isData = false → second.isData = true → comingFrom files first = [] ∨
        comingFrom files second = []) := by
  have hsorted (keep : Entry → Bool) :
      ((inOrder files).filter keep).Pairwise fun first second => first.place = later →
      second.place ≠ earlier :=
    ((pairwise_inOrder files).filter keep).imp fun hle hlater => by omega
  rw [KeepsOrder, loaded, List.pairwise_append, and_iff_right (hsorted _),
    and_iff_right (hsorted _)]
  constructor
  · intro hacross hgo hdata
    by_contra hnone
    obtain ⟨hfull, hfull'⟩ := not_or.1 hnone
    obtain ⟨declaration, hdeclaration⟩ := List.exists_mem_of_ne_nil _ hfull
    obtain ⟨declaration', hdeclaration'⟩ := List.exists_mem_of_ne_nil _ hfull'
    -- an entry of the later file is among the data, one of the earlier file behind them
    refine hacross ⟨later, second, declaration'⟩ ?_ ⟨earlier, first, declaration⟩ ?_ rfl rfl
    · exact List.mem_filter.2 ⟨mem_inOrder.2 ⟨hsecond, hdeclaration'⟩, hdata⟩
    · exact List.mem_filter.2 ⟨mem_inOrder.2 ⟨hfirst, hdeclaration⟩, by rw [hgo]; rfl⟩
  · rintro hnone entry hentry entry' hentry' rfl rfl
    obtain ⟨hentry, hdata⟩ := List.mem_filter.1 hentry
    obtain ⟨hentry', hgo⟩ := List.mem_filter.1 hentry'
    obtain ⟨hfile, hdeclaration⟩ := mem_inOrder.1 hentry
    obtain ⟨hfile', hdeclaration'⟩ := mem_inOrder.1 hentry'
    rw [hsecond, Option.some.injEq] at hfile
    rw [hfirst, Option.some.injEq] at hfile'
    subst hfile hfile'
    rcases hnone (by simpa using hgo) hdata with hempty | hempty
    · rw [hempty] at hdeclaration'
      exact List.not_mem_nil hdeclaration'
    · rw [hempty] at hdeclaration
      exact List.not_mem_nil hdeclaration

theorem members_eq_constantsOf {extraction : Extraction} {declaration : Declaration}
    (hdeclaration : declaration ∈ extraction.declarations) (henum : declaration.kind = .enum) :
    declaration.members = extraction.constantsOf declaration.declaredName := by
  obtain ⟨type, -, htype⟩ := List.mem_filterMap.1 hdeclaration
  simp only [Extraction.declaration?] at htype
  split at htype
  · cases htype
    cases henum
  · split at htype
    · cases htype
    · cases htype
      rfl

end

/-- The declarations of JSON files come first, then those of Go texts: two files keep their order
unless a Go text that has declarations stands before a JSON file that has some. Each enumeration has
its constants from all Go texts. -/
theorem sources_load_data_first (files : List SourceFile) (declarations : List Declaration)
    (h : ofSources files = .ok declarations) :
    (loaded files).map (·.declaration) = declarations ∧
      (∀ place file, files[place]? = some file →
        ((loaded files).filter (fun entry => entry.place == place)).map (·.declaration) =
          comingFrom files file) ∧
      (∀ earlier later first second, earlier < later → files[earlier]? = some first →
        files[later]? = some second → (KeepsOrder (loaded files) earlier later ↔
          (first.isData = false → second.isData = true → comingFrom files first = [] ∨
            comingFrom files second = []))) ∧
      (∀ file ∈ files, file.isData = false → ∀ declaration ∈ comingFrom files file,
        declaration.kind = .enum →
        declaration.members = ((constants files).filter (·.1 == declaration.declaredName)).map
          (·.2)) := by
  refine ⟨?_, ?_, ?_, ?_⟩
  · rw [map_loaded, ofSources_eq h]
  · intro place file hfile
    rw [filter_place_loaded hfile, map_entriesOf]
  · intro earlier later first second hplaces hfirst hsecond
    exact keepsOrder_loaded_iff hplaces hfirst hsecond
  · intro file _ hgo declaration hdeclaration henum
    rw [comingFrom_of_not_isData hgo] at hdeclaration
    exact members_eq_constantsOf hdeclaration henum

def typeThenData : List SourceFile :=
  [⟨"./a.go", "type User struct \x7b\n\tName string\n\x7d\n"⟩,
    ⟨"./b.json", "[\x7b\"kind\": \"object\", \"declaredName\": \"Extra\"\x7d]"⟩]

theorem sources_load_data_first_swapped :
    ofSources typeThenData =
        .ok [⟨.object, "Extra", "", [], some "b.json"⟩,
          ⟨.object, "User", "", [⟨"Name", "string", "", none⟩], some "./a.go"⟩] ∧
      (KeepsOrder (loaded typeThenData) 0 1 ↔ False) := by
  have hloads : ofSources typeThenData =
      .ok [⟨.object, "Extra", "", [], some "b.json"⟩,
        ⟨.object, "User", "", [⟨"Name", "string", "", none⟩], some "./a.go"⟩] := by decide +kernel
  obtain ⟨-, -, horder, -⟩ := sources_load_data_first typeThenData _ hloads
  refine ⟨hloads, (horder 0 1 _ _ Nat.one_pos rfl rfl).trans ?_⟩
  exact iff_of_false (by decide +kernel) id

/-- A Go text that stands before a JSON file may be loaded behind it. -/
theorem later_data_may_come_first :
    (ofSources typeThenData).isOk ∧ ¬KeepsOrder (loaded typeThenData) 0 1 := by
  decide +kernel

end SchemaViews.Declaration
