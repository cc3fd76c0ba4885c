import SchemaBeans.Output
import SchemaBeans.Proofs.Names.Free
import SchemaBeans.Proofs.Paths.Following

/-! Where the source of a type goes.

The parts of a package and the file name are joined one after the other, so slashes and dots in them count
as those of a path. A source lies below the root exactly when none of them is absolute and none goes up;
two such sources go to the same file exactly when the names on their ways agree. Packages and names
without slashes and empty parts give every type a file of its own. -/

namespace SchemaBeans

namespace JavaType

variable {t u : JavaType}

def directories (t : JavaType) : List String := (Text.pieces '.' t.package).filter (· ≠ "")

def fileName (t : JavaType) : String := t.name ++ ".java"

/-- The names on the way from the root to the source of a type. -/
def place (t : JavaType) : List String := (t.directories ++ [t.fileName]).flatMap Path.names

/-- What keeps the source of a type below the root: its parts are joined as relative paths, the file name
    does not go up, and if it is all there is, it does not start with a dot. -/
structure Confined (t : JavaType) : Prop where
  directories : ∀ directory ∈ t.directories, Path.isAbsolute directory = false
  file : Path.Descends t.fileName
  start : t.directories = [] → Path.startsHere t.fileName = false

/-- A type whose package and name have no slashes, and whose package, if there is one, has no empty parts. -/
structure Tidy (t : JavaType) : Prop where
  package : '/' ∉ t.package.toList
  parts : t.package = "" ∨ "" ∉ Text.pieces '.' t.package
  name : '/' ∉ t.name.toList

theorem sourcePath_eq (t : JavaType) : sourcePath t = (t.directories ++ [t.fileName]).foldl Path.join "" := by
  rw [List.foldl_append]
  rfl

/-! ### Directories -/

theorem dot_not_mem_directory {directory : String} (h : directory ∈ t.directories) : '.' ∉ directory.toList := by
  rw [directories, List.mem_filter] at h
  intro hmem
  exact (Text.of_mem_pieces h.1 '.' hmem).2 rfl

theorem directory_ne_empty {directory : String} (h : directory ∈ t.directories) : directory ≠ "" := by
  rw [directories, List.mem_filter] at h
  simpa using h.2

/-- A directory has no dots, so no piece of it goes up or stays. -/
theorem dots_not_mem_pieces {directory : String} (h : directory ∈ t.directories) {piece : String}
    (hdot : '.' ∈ piece.toList) : piece ∉ Text.pieces '/' directory :=
  fun hpiece => dot_not_mem_directory h (Text.of_mem_pieces hpiece '.' hdot).1

theorem startsHere_directory {directory : String} (h : directory ∈ t.directories) : Path.startsHere directory = false := by
  have hdot : "." ∉ Text.pieces '/' directory := dots_not_mem_pieces h (by simp)
  rw [Path.startsHere, decide_eq_false_iff_not]
  exact fun hhead => hdot (List.mem_of_head? hhead)

/-! ### The path -/

theorem parts_sourcePath (hdirs : ∀ directory ∈ t.directories, Path.isAbsolute directory = false)
    (hfile : Path.isAbsolute t.fileName = false) :
    Path.parts (sourcePath t) =
      (if t.directories = [] ∧ Path.startsHere t.fileName = true then [.here] else []) ++
        (t.directories ++ [t.fileName]).flatMap Path.steps := by
  rw [sourcePath_eq]
  cases hds : t.directories with
  | nil =>
    have hjoin : Path.join "" t.fileName = t.fileName := by simp [Path.join]
    simp [hjoin, Path.parts_of_relative hfile]
  | cons d ds =>
    have hd : d ∈ t.directories := by simp [hds]
    have hrel : ∀ path ∈ ds ++ [t.fileName], Path.isAbsolute path = false := by
      intro path hpath
      rcases List.mem_append.mp hpath with hpath | hpath
      · exact hdirs path (by simp [hds, hpath])
      · rwa [List.mem_singleton.mp hpath]
    have hjoin : Path.join "" d = d := by simp [Path.join]
    rw [List.cons_append, List.foldl_cons, hjoin, Path.parts_foldl_join (directory_ne_empty hd) hrel,
      Path.parts_of_relative (hdirs d hd), startsHere_directory hd]
    simp

theorem Confined.parts (h : t.Confined) : Path.parts (sourcePath t) = t.place.map .name := by
  have hstart : ¬(t.directories = [] ∧ Path.startsHere t.fileName = true) := by
    rintro ⟨hnil, hhere⟩
    rw [h.start hnil] at hhere
    cases hhere
  have hsteps : ∀ path ∈ t.directories ++ [t.fileName], Path.steps path = (Path.names path).map .name := by
    intro path hpath
    rcases List.mem_append.mp hpath with hpath | hpath
    · exact Path.steps_eq_names (dots_not_mem_pieces hpath (by simp))
    · rw [List.mem_singleton.mp hpath]
      exact Path.steps_eq_names h.file.noUp
  rw [parts_sourcePath h.directories h.file.relative, if_neg hstart, List.nil_append, place, List.map_flatMap,
    List.flatMap_congr hsteps]

/-- The source goes below the root, by names only, exactly when its type is confined. -/
theorem parts_names_iff (t : JavaType) :
    (∃ below : List String, Path.parts (sourcePath t) = below.map .name) ↔ t.Confined := by
  constructor
  · rintro ⟨below, hparts⟩
    have hrel : Path.isAbsolute (sourcePath t) = false := by
      cases habs : Path.isAbsolute (sourcePath t)
      · rfl
      · rw [Path.parts_of_absolute habs] at hparts
        cases below <;> cases hparts
    rw [sourcePath_eq, Path.isAbsolute_foldl_join] at hrel
    simp only [List.any_append, List.any_cons, List.any_nil, Bool.or_false, Bool.or_eq_false_iff] at hrel
    obtain ⟨⟨hdirs, hfile⟩, -⟩ := hrel
    have hdirs : ∀ directory ∈ t.directories, Path.isAbsolute directory = false := by
      simpa using hdirs
    rw [parts_sourcePath hdirs hfile] at hparts
    -- Neither a step up nor the dot of a relative path is a name.
    have hnames : ∀ part ∈ below.map PathPart.name, part ≠ .up ∧ part ≠ .here := by simp
    rw [← hparts] at hnames
    refine ⟨hdirs, ⟨hfile, fun hup => ?_⟩, fun hnil => ?_⟩
    · have hmem : PathPart.up ∈ (t.directories ++ [t.fileName]).flatMap Path.steps :=
        List.mem_flatMap.mpr ⟨t.fileName, by simp, Path.up_mem_steps hup⟩
      exact (hnames _ (List.mem_append_right _ hmem)).1 rfl
    · cases hhere : Path.startsHere t.fileName
      · rfl
      · rw [if_pos ⟨hnil, hhere⟩] at hnames
        exact absurd rfl (hnames .here (by simp)).2
  · exact fun h => ⟨t.place, h.parts⟩

/-! ### Tidy types -/

theorem Tidy.slash_not_mem_directory (h : t.Tidy) {directory : String} (hd : directory ∈ t.directories) :
    '/' ∉ directory.toList := by
  rw [directories, List.mem_filter] at hd
  exact fun hmem => h.package (Text.of_mem_pieces hd.1 '/' hmem).1

theorem Tidy.slash_not_mem_fileName (h : t.Tidy) : '/' ∉ t.fileName.toList := by
  simp [fileName, h.name]

theorem fileName_ne {s : String} (hs : 'j' ∉ s.toList) : t.fileName ≠ s := by
  rintro rfl
  simp [fileName] at hs

theorem Tidy.confined (h : t.Tidy) : t.Confined := by
  have hpieces := Text.pieces_eq_singleton h.slash_not_mem_fileName
  refine ⟨fun d hd => Path.isAbsolute_eq_false (h.slash_not_mem_directory hd), ⟨?_, ?_⟩, fun _ => ?_⟩
  · exact Path.isAbsolute_eq_false h.slash_not_mem_fileName
  · rw [hpieces, List.mem_singleton]
    exact (fileName_ne (by decide)).symm
  · rw [Path.startsHere, hpieces, List.head?_cons, decide_eq_false_iff_not, Option.some.injEq]
    exact fileName_ne (by decide)

theorem Tidy.place_eq (h : t.Tidy) : t.place = t.directories ++ [t.fileName] := by
  have hnames : ∀ path ∈ t.directories ++ [t.fileName], Path.names path = [path] := by
    intro path hpath
    rcases List.mem_append.mp hpath with hpath | hpath
    · have hdot : path ≠ "." := by
        rintro rfl
        exact dot_not_mem_directory hpath (by simp)
      exact Path.names_eq_singleton (h.slash_not_mem_directory hpath) (directory_ne_empty hpath) hdot
    · rw [List.mem_singleton.mp hpath]
      exact Path.names_eq_singleton h.slash_not_mem_fileName (fileName_ne (by decide)) (fileName_ne (by decide))
  rw [place, List.flatMap_congr hnames, List.flatMap_singleton']

theorem Tidy.directories_eq (h : t.Tidy) (hpackage : t.package ≠ "") : t.directories = Text.pieces '.' t.package := by
  have hempty := h.parts.resolve_left hpackage
  rw [directories, List.filter_eq_self]
  intro piece hpiece
  have hne : piece ≠ "" := fun heq => hempty (heq ▸ hpiece)
  simpa using hne

theorem directories_of_empty (h : t.package = "") : t.directories = [] := by
  rw [directories, h]
  rfl

theorem Tidy.identity_eq (ht : t.Tidy) (hu : u.Tidy) (h : t.place = u.place) : t.identity = u.identity := by
  rw [ht.place_eq, hu.place_eq] at h
  obtain ⟨hdirs, hfile⟩ := List.append_inj' h rfl
  have hname : t.name = u.name := by simpa [fileName] using hfile
  have hpackage : t.package = u.package := by
    by_cases htp : t.package = "" <;> by_cases hup : u.package = ""
    · rw [htp, hup]
    · rw [directories_of_empty htp, hu.directories_eq hup] at hdirs
      exact absurd hdirs.symm (Text.pieces_ne_nil _ _)
    · rw [directories_of_empty hup, ht.directories_eq htp] at hdirs
      exact absurd hdirs (Text.pieces_ne_nil _ _)
    · rw [ht.directories_eq htp, hu.directories_eq hup] at hdirs
      exact Text.eq_of_pieces_eq hdirs
  rw [identity, identity, hname, hpackage]

/-! ### Writing sources -/

theorem Confined.relative (h : t.Confined) : Path.isAbsolute (sourcePath t) = false := by
  cases habs : Path.isAbsolute (sourcePath t)
  · rfl
  · have hparts := h.parts
    rw [Path.parts_of_absolute habs] at hparts
    cases hplace : t.place <;> rw [hplace] at hparts <;> cases hparts

theorem Confined.steps (h : t.Confined) : Path.steps (sourcePath t) = t.place.map .name := by
  have hparts := h.parts
  rw [Path.parts_of_relative h.relative] at hparts
  cases hhere : Path.startsHere (sourcePath t)
  · simpa [hhere] using hparts
  · cases hplace : t.place <;> simp [hhere, hplace] at hparts

theorem Confined.descends (h : t.Confined) : Path.Descends (sourcePath t) :=
  ⟨h.relative, Path.steps_names_iff.mp ⟨t.place, h.steps⟩⟩

theorem Confined.names (h : t.Confined) : Path.names (sourcePath t) = t.place := by
  have hsteps := h.steps
  rw [Path.steps_eq_names h.descends.noUp] at hsteps
  exact List.map_injective_iff.mpr (fun _ _ hname => PathPart.name.inj hname) hsteps

theorem Confined.same_iff (ht : t.Confined) (hu : u.Confined) :
    Path.same (sourcePath t) (sourcePath u) = true ↔ t.place = u.place := by
  rw [Path.same, decide_eq_true_eq, ht.parts, hu.parts]
  exact (List.map_injective_iff.mpr fun _ _ hname => PathPart.name.inj hname).eq_iff

end JavaType

namespace OutputDirectory

variable {directory : OutputDirectory} {t u : JavaType}

theorem parts_path (h : t.Confined) (directory : OutputDirectory) :
    Path.parts (directory.path t) = Path.parts directory.root ++ t.place.map .name := by
  by_cases hroot : directory.root = ""
  · have hjoin : directory.path t = sourcePath t := by simp [path, Path.join, hroot]
    rw [hjoin, h.parts, hroot]
    rfl
  · rw [path, Path.parts_join hroot h.relative, h.steps]

theorem names_path (h : t.Confined) (directory : OutputDirectory) (files : Files) :
    files.names (directory.path t) = files.names directory.root ++ t.place := by
  rw [path, Files.names_join files directory.root h.relative, Path.foldl_climb_of_names h.descends.noUp, ← h.names,
    Path.names]

theorem write_cases {files files' : Files} {text : String} {result : Except Error Unit}
    (hw : directory.write files t text = (result, files')) :
    ∃ grown, files.Grows grown ∧ (result ≠ .ok () ∧ files' = grown ∨
      result = .ok () ∧ grown.write (directory.path t) (Text.Utf8.encode text) = .ok files') := by
  unfold write at hw
  generalize directory.path t = path at hw ⊢
  generalize Text.Utf8.encode text = content at hw ⊢
  dsimp only at hw
  cases hparent : Path.parent? path with
  | none =>
    simp only [hparent] at hw
    refine ⟨files, .refl files, ?_⟩
    split at hw <;> cases hw
    · exact Or.inr ⟨rfl, ‹_›⟩
    · exact Or.inl ⟨by simp, rfl⟩
  | some parent =>
    have hgrows := Files.makeDirectories_grows parent files
    simp only [hparent] at hw
    rcases hmake : files.makeDirectories parent with ⟨_ | _, grown⟩ <;> rw [hmake] at hgrows <;>
      simp only [hmake] at hw <;> refine ⟨grown, hgrows, ?_⟩
    · cases hw
      exact Or.inl ⟨by simp, rfl⟩
    · split at hw <;> cases hw
      · exact Or.inr ⟨rfl, ‹_›⟩
      · exact Or.inl ⟨by simp, rfl⟩

theorem write_files {files files' : Files} {text : String} {result : Except Error Unit}
    (hw : directory.write files t text = (result, files')) :
    (result = .ok () → files'.node? (files.names (directory.path t)) = some (.file (Text.Utf8.encode text))) ∧
    ∀ names content, result ≠ .ok () ∨ names ≠ files.names (directory.path t) →
      (files'.node? names = some (.file content) ↔ files.node? names = some (.file content)) := by
  obtain ⟨grown, hgrows, ⟨hfail, rfl⟩ | ⟨hok, hwrite⟩⟩ := write_cases hw
  · exact ⟨fun hok => absurd hok hfail, fun names content _ => hgrows.file_iff names content⟩
  · obtain ⟨hnew, hold⟩ := Files.write_ok hwrite
    rw [hgrows.names] at hnew hold
    refine ⟨fun _ => hnew, fun names content hne => ?_⟩
    rw [hold names (hne.resolve_left (not_not_intro hok)), hgrows.file_iff]

/-- When sources have files of their own below the root. The path of a source is made of names exactly for
    confined types, and two of them share a path exactly when the names on their ways are the same; types whose
    packages and names have no slashes and no empty parts are confined and share no path. The source of a
    confined type is written to the file at these names below the root, and no other file changes. -/
theorem source_files_apart (t u : JavaType) :
    ((∃ below : List String, Path.parts (sourcePath t) = below.map .name) ↔ t.Confined) ∧
    (t.Confined → u.Confined → (Path.same (sourcePath t) (sourcePath u) = true ↔ t.place = u.place)) ∧
    (t.Tidy → t.Confined) ∧
    (t.Tidy → u.Tidy → (Path.same (sourcePath t) (sourcePath u) = true ↔ t.identity = u.identity)) ∧
    ∀ (directory : OutputDirectory) (files files' : Files) (text : String) (result : Except Error Unit),
      t.Confined → directory.write files t text = (result, files') →
        Path.parts (directory.path t) = Path.parts directory.root ++ t.place.map .name ∧
        files.names (directory.path t) = files.names directory.root ++ t.place ∧
        (result = .ok () → files'.node? (files.names (directory.path t)) = some (.file (Text.Utf8.encode text))) ∧
        (∀ names content, result ≠ .ok () ∨ names ≠ files.names (directory.path t) →
          (files'.node? names = some (.file content) ↔ files.node? names = some (.file content))) ∧
        (u.Confined → t.place ≠ u.place → files.names (directory.path u) ≠ files.names (directory.path t)) := by
  refine ⟨JavaType.parts_names_iff t, JavaType.Confined.same_iff, JavaType.Tidy.confined, fun ht hu => ?_, ?_⟩
  · rw [ht.confined.same_iff hu.confined]
    refine ⟨ht.identity_eq hu, fun h => ?_⟩
    obtain ⟨hpackage, hname⟩ := Prod.mk.inj h
    rw [JavaType.place, JavaType.place, JavaType.directories, JavaType.directories, JavaType.fileName,
      JavaType.fileName, hpackage, hname]
  · intro directory files files' text result ht hw
    obtain ⟨hnew, hold⟩ := write_files hw
    refine ⟨parts_path ht directory, names_path ht directory files, hnew, hold, fun hu hne heq => hne ?_⟩
    rw [names_path ht, names_path hu] at heq
    exact (List.append_cancel_left heq).symm

/-- A type is written below `/out`, and one of the same name in a package inside its own has another file. -/
theorem source_files_apart_shop :
    ∃ files', (OutputDirectory.mk "/out").write ⟨"/", [(["out"], .directory)]⟩ (.plain "shop" "Order") "class" =
        (.ok (), files') ∧
      files'.node? ["out", "shop", "Order.java"] = some (.file (Text.Utf8.encode "class")) ∧
      (JavaType.plain "shop" "Order").Confined ∧
      Path.same (sourcePath (.plain "shop" "Order")) (sourcePath (.plain "shop.old" "Order")) = false := by
  have ht : (JavaType.plain "shop" "Order").Tidy := ⟨by decide, by decide, by decide⟩
  have hu : (JavaType.plain "shop.old" "Order").Tidy := ⟨by decide, by decide, by decide⟩
  obtain ⟨-, -, hconfined, hsame, hwrite⟩ := source_files_apart (.plain "shop" "Order") (.plain "shop.old" "Order")
  have hok : ((OutputDirectory.mk "/out").write ⟨"/", [(["out"], .directory)]⟩ (.plain "shop" "Order") "class").1 =
      .ok () := by rfl
  have hplace : (Files.mk "/" [(["out"], .directory)]).names "/out" ++ (JavaType.plain "shop" "Order").place =
      ["out", "shop", "Order.java"] := by decide
  generalize hwritten : (OutputDirectory.mk "/out").write ⟨"/", [(["out"], .directory)]⟩ (.plain "shop" "Order") "class" =
    written at hok
  obtain ⟨result, files'⟩ := written
  obtain rfl : result = .ok () := hok
  obtain ⟨-, hnames, hnew, -⟩ := hwrite _ _ _ _ _ (hconfined ht) hwritten
  rw [hnames, hplace] at hnew
  refine ⟨files', rfl, hnew rfl, hconfined ht, ?_⟩
  rw [Bool.eq_false_iff, Ne, hsame ht hu]
  decide

/-- Empty parts of a package make no difference to the path, a name with a leading slash replaces the root,
    and one with dots leaves it. -/
theorem source_files_collide :
    JavaType.ofDotted? "a.b.C" = some (.plain "a.b" "C") ∧ JavaType.ofDotted? "a..b.C" = some (.plain "a..b" "C") ∧
    Path.same (sourcePath (.plain "a.b" "C")) (sourcePath (.plain "a..b" "C")) = true ∧
    JavaType.ofDotted? "./etc/C" = some (.plain "" "/etc/C") ∧
    (OutputDirectory.mk "out").path (.plain "" "/etc/C") = "/etc/C.java" ∧
    Path.parts (sourcePath (.plain "" "../C")) = [.up, .name "C.java"] := by
  decide

end OutputDirectory

end SchemaBeans
