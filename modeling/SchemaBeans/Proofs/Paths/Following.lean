import SchemaBeans.Files
import SchemaBeans.Proofs.Paths.Joining
import SchemaBeans.Proofs.Text.Utf8

/-! Where a path leads in a tree of files.

A path is followed name by name, so where it leads, if anywhere, can be read off its pieces
(`Files.find_names`). Making directories only adds directories; writing changes the one file that the path
leads to. -/

namespace SchemaBeans

/-! ### Following pieces -/

/-- The names after one more piece. -/
def Path.climb (names : List String) (piece : String) : List String :=
  if piece = "" ∨ piece = "." then names
  else if piece = ".." then names.dropLast
  else names ++ [piece]

theorem Path.foldl_climb_of_names {pieces : List String} (h : ".." ∉ pieces) (names : List String) :
    pieces.foldl climb names = names ++ pieces.filter fun piece => piece ≠ "" && piece ≠ "." := by
  induction pieces generalizing names with
  | nil => simp
  | cons piece rest ih =>
    have hup : piece ≠ ".." := fun heq => h (heq ▸ List.mem_cons_self)
    rw [List.foldl_cons, ih (fun hmem => h (List.mem_cons_of_mem _ hmem))]
    by_cases hidle : piece = "" ∨ piece = "."
    · rcases hidle with rfl | rfl <;> simp [climb]
    · simp only [climb, hidle, hup, if_false]
      obtain ⟨hempty, hdot⟩ := not_or.mp hidle
      simp [hempty, hdot]

namespace Files

def Place.names : Place → List String
  | .taken names _ => names
  | .free names => names

variable {files files' : Files}

/-- The names that a path leads to, from the root. -/
def names (files : Files) (path : String) : List String :=
  ((if Path.isAbsolute path then [] else Text.pieces '/' files.workingDirectory) ++ Text.pieces '/' path).foldl Path.climb []

/-- What following a path found is there: the file, or a free name. -/
def Place.Fits (files : Files) : Place → Prop
  | .taken names (.file content) => files.node? names = some (.file content)
  | .taken _ .directory => True
  | .free names => files.node? names = none

def advance (names : List String) : Option String → List String
  | some piece => Path.climb names piece
  | none => names

theorem advance_of_name {piece : String} (hidle : ¬(piece = "" || piece = ".") = true) (hup : ¬piece = "..")
    (names : List String) : advance names (some piece) = names ++ [piece] := by
  rw [advance, Path.climb, if_neg (by simpa using hidle), if_neg hup]

theorem foldl_advance_of_idle {pieces : List (Option String)} (h : pieces.all (· = some "") = true) (names : List String) :
    pieces.foldl advance names = names := by
  induction pieces with
  | nil => rfl
  | cons piece rest ih =>
    simp only [List.all_cons, Bool.and_eq_true, decide_eq_true_eq] at h
    obtain ⟨rfl, hrest⟩ := h
    exact ih (by simpa using hrest)

/-- A path that can be followed leads to the names that its pieces spell. -/
theorem follow_spec {pieces : List (Option String)} {names : List String} {place : Place}
    (h : files.follow names pieces = .ok place) : place.names = pieces.foldl advance names ∧ place.Fits files := by
  fun_induction follow files names pieces with
  | case1 names =>
    cases h
    exact ⟨rfl, trivial⟩
  | case2 => cases h
  | case3 names piece rest hidle ih =>
    have hstay : advance names (some piece) = names := if_pos (by simpa using hidle)
    rw [List.foldl_cons, hstay]
    exact ih h
  | case4 names rest _ ih => exact ih h
  | case5 => cases h
  | case6 names piece rest hidle hup _ next hnode ih =>
    rw [List.foldl_cons, advance_of_name hidle hup]
    exact ih h
  | case7 names piece rest hidle hup _ next content hnode hrest =>
    cases h
    rw [List.isEmpty_iff.mp hrest, List.foldl_cons, advance_of_name hidle hup]
    exact ⟨rfl, hnode⟩
  | case8 => cases h
  | case9 names piece rest hidle hup _ next hnode hrest =>
    cases h
    rw [List.foldl_cons, advance_of_name hidle hup, foldl_advance_of_idle hrest]
    exact ⟨rfl, hnode⟩
  | case10 => cases h

theorem pieces_encode (path : String) : pieces (Text.Utf8.encode path) = (Text.pieces '/' path).map some := by
  have hsplit := Text.Utf8.splitOn_flatMap path.toList
  simp only [List.splitOn_eq_splitOnP] at hsplit
  rw [pieces, Text.Utf8.encode, hsplit, Text.pieces, List.map_map, List.map_map]
  refine List.map_congr_left fun w _ => ?_
  have hdecode := Text.Utf8.decode?_encode (String.ofList w)
  rwa [Text.Utf8.encode, String.toList_ofList] at hdecode

theorem head?_encode (path : String) : (Text.Utf8.encode path).head? = some 0x2F ↔ Path.isAbsolute path = true := by
  rw [Text.Utf8.encode, Path.isAbsolute, beq_iff_eq]
  cases path.toList with
  | nil => simp
  | cons c cs =>
    obtain ⟨b, bs, hbs⟩ := List.exists_cons_of_ne_nil (@String.utf8EncodeChar_ne_nil c)
    rw [List.flatMap_cons, hbs, List.cons_append, List.head?_cons, List.head?_cons, Option.some.injEq, Option.some.injEq]
    constructor
    · rintro rfl
      have hmem : 0x2F ∈ String.utf8EncodeChar c := hbs ▸ List.mem_cons_self
      exact Char.toNat_inj.mp (Text.Utf8.encodeChar_of_mem (by decide) hmem).1
    · rintro rfl
      exact (List.cons.inj hbs).1.symm

theorem foldl_advance_map (pieces : List String) (names : List String) :
    (pieces.map some).foldl advance names = pieces.foldl Path.climb names := by
  rw [List.foldl_map]
  rfl

theorem find_spec {path : String} {place : Place} (h : files.find path = .ok place) :
    place.names = files.names path ∧ place.Fits files := by
  rw [find, findOctets] at h
  repeat' split at h
  any_goals cases h
  all_goals
    rename_i hhead
    obtain ⟨hnames, hfits⟩ := follow_spec h
    refine ⟨?_, hfits⟩
    rw [head?_encode] at hhead
    simp [hnames, pieces_encode, ← List.map_append, foldl_advance_map, names, hhead]

theorem names_join (files : Files) (base : String) {path : String} (h : Path.isAbsolute path = false) :
    files.names (Path.join base path) = (Text.pieces '/' path).foldl Path.climb (files.names base) := by
  by_cases hbase : base = ""
  · have hjoin : Path.join base path = path := by simp [Path.join, hbase]
    have hempty : Text.pieces '/' "" = [""] := rfl
    rw [hjoin, names, names, hbase, hempty, if_neg (by simp [h]), if_neg (by decide), List.foldl_append, List.foldl_append]
    rfl
  · have hpieces : ∀ start, (Text.pieces '/' (Path.join base path)).foldl Path.climb start =
        (Text.pieces '/' path).foldl Path.climb ((Text.pieces '/' base).foldl Path.climb start) := by
      intro start
      rcases Path.pieces_join hbase h with hp | ⟨front, hfront, hp⟩
      · rw [hp, List.foldl_append]
      · rw [hp, hfront, List.foldl_append, List.foldl_append]
        rfl
    rw [names, names, Path.isAbsolute_join, h, Bool.false_or, List.foldl_append, List.foldl_append, hpieces]

/-! ### Making directories and writing -/

/-- Some free names became directories; nothing else changed. -/
structure Grows (files files' : Files) : Prop where
  workingDirectory : files'.workingDirectory = files.workingDirectory
  kept : ∀ names, files'.node? names = files.node? names ∨
    files.node? names = none ∧ files'.node? names = some .directory

theorem Grows.refl (files : Files) : Grows files files := ⟨rfl, fun _ => Or.inl rfl⟩

theorem Grows.trans {files₁ files₂ files₃ : Files} (h : Grows files₁ files₂) (h' : Grows files₂ files₃) :
    Grows files₁ files₃ := by
  refine ⟨h'.workingDirectory.trans h.workingDirectory, fun names => ?_⟩
  rcases h.kept names with heq | ⟨hnone, hdir⟩
  · rw [← heq]
    exact h'.kept names
  · rcases h'.kept names with heq | ⟨hnone', -⟩
    · exact Or.inr ⟨hnone, heq.trans hdir⟩
    · rw [hdir] at hnone'
      cases hnone'

theorem Grows.file_iff (h : Grows files files') (names : List String) (content : List UInt8) :
    files'.node? names = some (.file content) ↔ files.node? names = some (.file content) := by
  rcases h.kept names with heq | ⟨hnone, hdir⟩
  · rw [heq]
  · simp [hnone, hdir]

theorem Grows.names (h : Grows files files') (path : String) : files'.names path = files.names path := by
  rw [Files.names, Files.names, h.workingDirectory]

theorem ne_nil_of_node?_none {names : List String} (h : files.node? names = none) : names ≠ [] := by
  rintro rfl
  cases h

theorem node?_put_self {names : List String} (h : names ≠ []) (node : FileNode) :
    (files.put names node).node? names = some node := by
  simp [node?, put, h]

theorem node?_put_of_ne {names other : List String} (h : other ≠ names) (node : FileNode) :
    (files.put names node).node? other = files.node? other := by
  simp [node?, put, Table.get?_put_of_ne _ _ h]

theorem makeDirectory_grows {path : String} (h : files.makeDirectory path = .ok files') : Grows files files' := by
  rw [makeDirectory] at h
  split at h
  · rename_i names hfind
    cases h
    have hfree : files.node? names = none := (find_spec hfind).2
    refine ⟨rfl, fun other => ?_⟩
    by_cases heq : other = names
    · subst heq
      exact Or.inr ⟨hfree, node?_put_self (ne_nil_of_node?_none hfree) _⟩
    · exact Or.inl (node?_put_of_ne heq _)
  · cases h
  · cases h

theorem makeDirectories_grows (path : String) (files : Files) : Grows files (files.makeDirectories path).2 := by
  rw [makeDirectories]
  generalize path.length + 2 = fuel
  fun_induction makeDirectoriesUpTo path fuel files with
  | case1 | case2 | case4 | case9 | case10 => exact .refl _
  | case3 path fuel files _ made hmade => exact makeDirectory_grows hmade
  | case5 path fuel files _ _ parent _ e files' hup ih =>
    rw [hup] at ih
    exact ih
  | case6 path fuel files _ _ parent _ files' hup made hmade ih =>
    rw [hup] at ih
    exact ih.trans (makeDirectory_grows hmade)
  | case7 path fuel files _ _ parent _ files' hup e _ _ ih =>
    rw [hup] at ih
    exact ih
  | case8 path fuel files _ _ parent _ files' hup e _ _ ih =>
    rw [hup] at ih
    exact ih

theorem write_ok {path : String} {content : List UInt8} (h : files.write path content = .ok files') :
    files'.node? (files.names path) = some (.file content) ∧
      ∀ names, names ≠ files.names path → files'.node? names = files.node? names := by
  have hput : ∀ {names}, names = files.names path → names ≠ [] → files' = files.put names (.file content) →
      files'.node? (files.names path) = some (.file content) ∧
        ∀ names, names ≠ files.names path → files'.node? names = files.node? names := by
    rintro names rfl hne rfl
    exact ⟨node?_put_self hne _, fun other hother => node?_put_of_ne hother _⟩
  rw [write] at h
  split at h
  · rename_i names hfind
    cases h
    obtain ⟨hnames, hfree⟩ := find_spec hfind
    exact hput hnames (ne_nil_of_node?_none hfree) rfl
  · rename_i names old hfind
    cases h
    obtain ⟨hnames, hfile⟩ := find_spec hfind
    -- The root is a directory, so it was not found as a file.
    refine hput hnames ?_ rfl
    rintro rfl
    cases hfile
  · cases h
  · cases h

end Files

end SchemaBeans
