import SchemaBeans.Command.Run
import SchemaBeans.Proofs.Catalog.Serving
import SchemaBeans.Proofs.Uri.Losses

/-! The URIs under which files are published.

A file is given the URI that its names below the base directory give as a reference to the root; the
directory serves a URI from the path that the rest of its text spells. If the names are taken as they stand,
the URI leads back to the file (`Catalog.leadsBack_of_verbatim`). Otherwise it has lost characters, and no
path it could be served from has as many as the file (`Catalog.LeadsBack.bulk_le`). -/

namespace SchemaBeans

/-! ### Files below a directory -/

namespace Path

theorem pieces_intercalate {names : List String} (hne : names ≠ []) (h : ∀ name ∈ names, '/' ∉ name.toList) :
    Text.pieces '/' (String.intercalate "/" names) = names := by
  have hsplit : (List.intercalate ['/'] (names.map String.toList)).splitOn '/' = names.map String.toList :=
    List.splitOn_intercalate '/' (by simpa using h) (by simpa using hne)
  have htext : (String.intercalate "/" names).toList = List.intercalate ['/'] (names.map String.toList) := by simp
  rw [Text.pieces, ← List.splitOn_eq_splitOnP, htext, hsplit, List.map_map]
  simp [Function.comp_def]

theorem slash_not_mem_name {path name : String} (h : .name name ∈ parts path) : '/' ∉ name.toList := by
  have hmem : PathPart.name name ∈ steps path := by
    cases habsolute : isAbsolute path
    · rw [parts_of_relative habsolute] at h
      rcases List.mem_append.mp h with h | h
      · split at h <;> simp at h
      · exact h
    · rw [parts_of_absolute habsolute] at h
      exact (List.mem_cons.mp h).resolve_left (by simp)
  obtain ⟨piece, hpiece, hof⟩ := List.mem_filterMap.mp hmem
  obtain ⟨rfl, -⟩ := ofPiece?_eq_some hof
  exact fun hslash => (Text.of_mem_pieces hpiece '/' hslash).2 rfl

theorem steps_intercalate {path : String} {names : List String} (hne : names ≠ []) (h : ∀ name ∈ names, .name name ∈ parts path) :
    isAbsolute (String.intercalate "/" names) = false ∧ steps (String.intercalate "/" names) = names.map .name := by
  have hpieces := pieces_intercalate hne fun name hname => slash_not_mem_name (h name hname)
  have hname := fun name hname => Uri.name_of_mem_parts (h name hname)
  constructor
  · rw [← Bool.not_eq_true, isAbsolute_iff, hpieces]
    rintro ⟨piece, rest, rfl⟩
    exact (hname "" List.mem_cons_self).1 rfl
  · rw [steps, hpieces, filterMap_ofPiece?_eq fun hmem => (hname _ hmem).2.2 rfl, List.filter_eq_self.mpr]
    intro name hmem
    simp [(hname name hmem).1, (hname name hmem).2.1]

/-! ### How many characters a path has -/

/-- The number of characters in parts of a path, slashes apart. -/
def bulk (parts : List PathPart) : Nat := Text.bulk (parts.flatMap fun part => part.text.toList)

theorem bulk_append (parts others : List PathPart) : bulk (parts ++ others) = bulk parts + bulk others := by
  rw [bulk, List.flatMap_append, Text.bulk_append, bulk, bulk]

theorem bulk_le {parts others : List PathPart} (h : parts.Sublist others) : bulk parts ≤ bulk others :=
  Text.bulk_le (h.flatMap _)

theorem flatMap_filterMap_ofPiece? (pieces : List String) :
    ((pieces.filterMap PathPart.ofPiece?).flatMap fun part => part.text.toList).Sublist (pieces.flatMap String.toList) := by
  induction pieces with
  | nil => exact List.Sublist.refl _
  | cons piece pieces ih =>
    rw [List.filterMap_cons, List.flatMap_cons]
    split
    · exact ih.trans (List.sublist_append_right _ _)
    · rename_i part hpart
      rw [List.flatMap_cons, (ofPiece?_eq_some hpart).1]
      exact (List.Sublist.refl _).append ih

theorem bulk_steps_le (path : String) : bulk (steps path) ≤ Text.bulk path.toList := by
  have hpieces := Text.bulk_intercalate ((Text.pieces '/' path).map String.toList)
  rw [Text.intercalate_pieces, ← List.flatMap_def] at hpieces
  rw [hpieces]
  exact Text.bulk_le (flatMap_filterMap_ofPiece? _)

theorem bulk_names (names : List String) : bulk (names.map .name) = Text.bulk (String.intercalate "/" names).toList := by
  have htext : (String.intercalate "/" names).toList = List.intercalate ['/'] (names.map String.toList) := by simp
  rw [htext, Text.bulk_intercalate, bulk, List.flatMap_map, List.flatMap_def]
  rfl

end Path

namespace Catalog

/-- A file that lies below the base directory under given names. -/
structure Below (files : Files) (base file : String) (names : List String) : Prop where
  base_ne : base ≠ ""
  file_ne : file ≠ ""
  below : Path.below? (Path.absolute files.workingDirectory base) (Path.absolute files.workingDirectory file) =
    some (names.map .name)
  names_ne : names ≠ []

/-- The directory serves the file under the URI, whatever its fragment. -/
def LeadsBack (files : Files) (root : Uri) (base file : String) (u : Uri) : Prop :=
  ∃ path, servedPath? root base u.withoutFragment = some (Text.Utf8.encode path) ∧
    Path.same (Path.absolute files.workingDirectory path) (Path.absolute files.workingDirectory file) = true

section
variable {files : Files} {root : Uri} {base file : String} {names : List String}

theorem Below.parts (h : Below files base file names) :
    Path.parts (Path.absolute files.workingDirectory file) =
      Path.parts (Path.absolute files.workingDirectory base) ++ names.map .name :=
  (List.isPrefixOf?_eq_some_iff_append_eq.mp h.below).symm

theorem fileUri_eq_ok (h : Below files base file names) {u : Uri} :
    fileUri files root base file = .ok u ↔ root.join (String.intercalate "/" names) = .ok u := by
  have htexts : (names.map PathPart.name).map PathPart.text = names := by
    simp [Function.comp_def, PathPart.text]
  have hbase : absolutePath files base = .ok (Path.absolute files.workingDirectory base) := if_neg h.base_ne
  have hfile : absolutePath files file = .ok (Path.absolute files.workingDirectory file) := if_neg h.file_ne
  simp only [fileUri, hbase, hfile, bind, Except.bind, h.below, htexts]
  cases root.join (String.intercalate "/" names) <;> simp

theorem Below.same_iff (h : Below files base file names) (hdirectory : files.workingDirectory ≠ "") {path : String}
    (hpath : Path.isAbsolute path = false) :
    Path.same (Path.absolute files.workingDirectory (Path.join base path)) (Path.absolute files.workingDirectory file) = true ↔
      Path.steps path = names.map .name := by
  have hparts : Path.parts (Path.absolute files.workingDirectory (Path.join base path)) =
      Path.parts (Path.absolute files.workingDirectory base) ++ Path.steps path := by
    rw [Path.parts_absolute hdirectory, Path.parts_absolute hdirectory, Path.isAbsolute_join, hpath, Bool.false_or,
      Path.steps_join h.base_ne hpath, List.append_assoc]
  rw [Path.same, decide_eq_true_eq, hparts, h.parts, List.append_cancel_left_eq]

theorem Below.relative (h : Below files base file names) :
    Path.isAbsolute (String.intercalate "/" names) = false ∧ Path.steps (String.intercalate "/" names) = names.map .name := by
  have hmem : ∀ name ∈ names, .name name ∈ Path.parts (Path.absolute files.workingDirectory file) := by
    intro name hname
    rw [h.parts]
    exact List.mem_append_right _ (List.mem_map_of_mem hname)
  exact Path.steps_intercalate h.names_ne hmem

/-- A root ends in a slash, and a file root has no empty segments before its first name. -/
structure IsRoot (root : Uri) (front : List String) : Prop where
  path : root.path = .segments (front ++ [""])
  first : Uri.schemeKind root.scheme = .file → front.head? ≠ some ""
  query : root.query = none
  fragment : root.fragment = none

theorem asRoot_closed {u : Uri} (h : u.asRoot.isBase = true) : ∃ front, u.asRoot.path = .segments (front ++ [""]) := by
  have hpath : u.asRoot.path = Uri.closePath (Uri.schemeKind u.scheme) u.path := rfl
  rw [Uri.isBase, hpath] at h
  rw [hpath]
  unfold Uri.closePath at h ⊢
  split
  · split
    · rename_i hlast
      obtain ⟨front, rfl⟩ := List.getLast?_eq_some_iff.mp hlast
      exact ⟨front, rfl⟩
    · exact ⟨_, rfl⟩
  · simp_all
  · simp_all

theorem text_ne_empty_of_mem_parts {path : String} {part : PathPart} (h : part ∈ Path.parts path) : part.text ≠ "" := by
  cases part with
  | name name => exact (Uri.name_of_mem_parts h).1
  | root => decide
  | here => decide
  | up => decide

theorem head_ofDirectory {path : String} {front : List String} (h : (Uri.ofDirectory path).path = .segments (front ++ [""])) :
    front.head? ≠ some "" := by
  intro hhead
  have hfront := (List.append_cancel_right (UriPath.segments.inj h)).symm
  rw [hfront, List.head?_map, Option.map_eq_some_iff] at hhead
  obtain ⟨part, hpart, hempty⟩ := hhead
  have hdecode : Text.Percent.decode (Text.Percent.encode Uri.fileNameSet part.text) = part.text :=
    Text.Percent.decode_encode rfl part.text
  rw [hempty] at hdecode
  exact text_ne_empty_of_mem_parts (List.mem_filter.mp (List.mem_of_head? hpart)).1 hdecode.symm

theorem asRoot_ofDirectory (path : String) : (Uri.ofDirectory path).asRoot = Uri.ofDirectory path := by
  simp [Uri.asRoot, Uri.ofDirectory, Uri.closePath, Uri.fileUri]

theorem rootUri_cases {options : Command.Options} (h : Command.rootUri files options = .ok root) :
    (∃ text u, options.root = some text ∧ Uri.parse text = .ok u ∧ root = u.asRoot) ∨
    options.root = none ∧ root = Uri.ofDirectory (Path.absolute files.workingDirectory options.base) := by
  rw [Command.rootUri] at h
  split at h
  · rename_i text htext
    split at h
    · rename_i u hparse
      exact Or.inl ⟨text, u, htext, hparse, (Except.ok.inj h).symm⟩
    · cases h
  · rename_i hnone
    rw [absolutePath] at h
    split at h
    · cases h
    · cases h
      exact Or.inr ⟨hnone, asRoot_ofDirectory _⟩

theorem rootUri_isRoot {options : Command.Options} (h : Command.rootUri files options = .ok root) (hbase : root.isBase = true)
    (hquery : root.query = none) (hfragment : root.fragment = none) : ∃ front, IsRoot root front := by
  rcases rootUri_cases h with ⟨text, u, -, hparse, rfl⟩ | ⟨-, rfl⟩
  · obtain ⟨front, hfront⟩ := asRoot_closed hbase
    refine ⟨front, hfront, fun hkind hhead => ?_, hquery, hfragment⟩
    have hnormal := (Uri.Obtained.parse hparse).asRoot.normal.path
    rw [hfront] at hnormal
    have hblank := hnormal.first hkind (by rw [List.head?_append, hhead]; rfl)
    have hnil : front = [] := by simpa using hblank
    rw [hnil] at hhead
    cases hhead
  · exact ⟨_, rfl, fun _ => head_ofDirectory rfl, rfl, rfl⟩

theorem Below.head_ne_slash (h : Below files base file names) : (String.intercalate "/" names).toList.head? ≠ some '/' := by
  simpa [Path.isAbsolute] using h.relative.1

theorem Below.text_ne_empty (h : Below files base file names) : String.intercalate "/" names ≠ "" := by
  intro hempty
  have hsteps := h.relative.2
  rw [hempty] at hsteps
  exact h.names_ne (List.map_eq_nil_iff.mp hsteps.symm)

theorem Below.bulk_pos (h : Below files base file names) : 0 < Text.bulk (String.intercalate "/" names).toList := by
  have hhead := h.head_ne_slash
  obtain ⟨c, rest, heq⟩ := List.exists_cons_of_ne_nil (mt String.toList_eq_nil_iff.mp h.text_ne_empty)
  rw [heq] at hhead ⊢
  rw [Text.bulk_cons, if_neg fun hc => hhead (congrArg some hc)]
  omega

theorem servedPath?_extended {front : List String} {cs : List Char} (hroot : IsRoot root front)
    (h : Uri.Verbatim (Uri.schemeKind root.scheme) cs) (hslash : cs.head? ≠ some '/') :
    servedPath? root base (root.extended front cs).withoutFragment =
      some (Text.Utf8.encode (Path.join base (String.ofList cs))) := by
  have hbelow := Uri.below?_of_text (Uri.text_extended hroot.path hroot.query hroot.fragment hslash)
  have hfragment : (root.extended front cs).withoutFragment = root.extended front cs := rfl
  rw [hfragment, servedPath?_of_below hbelow, h.decode_text]

theorem fileUri_of_verbatim {front : List String} (hroot : IsRoot root front) (hdirectory : files.workingDirectory ≠ "")
    (h : Below files base file names)
    (hverbatim : Uri.Verbatim (Uri.schemeKind root.scheme) (String.intercalate "/" names).toList) :
    ∃ u, fileUri files root base file = .ok u ∧ LeadsBack files root base file u := by
  obtain ⟨hrelative, hsteps⟩ := h.relative
  have hslash := h.head_ne_slash
  refine ⟨_, (fileUri_eq_ok h).mpr (Uri.join_verbatim hroot.path hroot.first hverbatim h.text_ne_empty hslash), _,
    servedPath?_extended hroot hverbatim hslash, ?_⟩
  rw [String.ofList_toList, h.same_iff hdirectory hrelative]
  exact hsteps

/-! ### What leads back -/

theorem Below.bulk_le_of_relative (h : Below files base file names) (hdirectory : files.workingDirectory ≠ "") {path : String}
    (hpath : Path.isAbsolute path = false)
    (hsame : Path.same (Path.absolute files.workingDirectory (Path.join base path)) (Path.absolute files.workingDirectory file) = true) :
    Text.bulk (String.intercalate "/" names).toList ≤ Text.bulk path.toList := by
  have hsteps := (h.same_iff hdirectory hpath).mp hsame
  rw [← Path.bulk_names, ← hsteps]
  exact Path.bulk_steps_le path

theorem Below.bulk_le_of_absolute (h : Below files base file names) (hdirectory : files.workingDirectory ≠ "") {path : String}
    (hpath : Path.isAbsolute path = true)
    (hsame : Path.same (Path.absolute files.workingDirectory path) (Path.absolute files.workingDirectory file) = true) :
    Path.bulk (Path.parts (Path.absolute files.workingDirectory base)) + Text.bulk (String.intercalate "/" names).toList ≤
      Text.bulk path.toList := by
  rw [Path.same, decide_eq_true_eq, Path.parts_absolute hdirectory path, hpath, if_pos rfl, h.parts] at hsame
  have hbulk := congrArg Path.bulk hsame
  have hroot : Path.bulk [.root] = 0 := rfl
  rw [Path.bulk_append, Path.bulk_append, hroot, Nat.zero_add, Path.bulk_names] at hbulk
  rw [← hbulk]
  exact Path.bulk_steps_le path

theorem filePath?_bulk {u : Uri} {path : String} {part : String} {parts : List String} (hsegments : u.path = .segments (part :: parts))
    (h : u.filePath? = some (Text.Utf8.encode path)) :
    Path.isAbsolute path = true ∧ Text.bulk path.toList = Uri.pathWeight u.segments := by
  -- A path that ends in a drive letter gets a slash, which weighs nothing.
  obtain ⟨tail, htail, hweight, hoctets⟩ : ∃ tail : List Char, (∀ c, tail.head? = some c → c = '/') ∧
      Text.Percent.weight tail = 0 ∧
      Text.Utf8.encode path = Text.Percent.octets ((UriPath.segments (part :: parts)).text.toList ++ tail) := by
    simp only [Uri.filePath?, hsegments] at h
    split at h
    · split at h
      · refine ⟨['/'], by simp, by decide, ?_⟩
        rw [Uri.octets_segments (by simp)]
        exact (Option.some.inj h).symm
      · refine ⟨[], by simp, by decide, ?_⟩
        rw [Uri.octets_segments (by simp)]
        simpa using (Option.some.inj h).symm
    · cases h
  have hpath : path = Text.Percent.decode (String.ofList ((UriPath.segments (part :: parts)).text.toList ++ tail)) := by
    rw [Text.Percent.decode, String.toList_ofList, ← hoctets, Text.Utf8.decode_encode]
  constructor
  · rw [hpath, Uri.text_segments_cons, Path.isAbsolute, Text.Percent.decode, String.toList_ofList,
      Text.Percent.octets_cons (by decide), Text.Utf8.decode, String.toList_ofList, Text.Utf8.read_encodeChar]
    rfl
  · have hmark : ∀ c, tail.head? = some c → Text.Percent.IsPlainMark c := fun c hc => htail c hc ▸ by decide
    have hparts : u.segments = part :: parts := by rw [Uri.segments, hsegments]
    rw [hpath, ← Uri.weight_eq_bulk_decode, Uri.weight_segments hmark, hweight, hparts, Nat.add_zero]

/-- What leads back spells the names of the file beyond what is taken over from the root. -/
theorem LeadsBack.bulk_le {front : List String} {u : Uri} (hroot : IsRoot root front) (hnormal : root.Normal)
    (hkind : (Uri.schemeKind root.scheme).isSpecial = true)
    (hreach : Uri.schemeKind root.scheme = .file →
      Uri.spelled root ≤ Path.bulk (Path.parts (Path.absolute files.workingDirectory base)))
    (hdirectory : files.workingDirectory ≠ "") (hbelow : Below files base file names) (hu : u.Normal)
    (h : LeadsBack files root base file u) :
    Uri.schemeKind u.scheme ≠ .other ∧
      (if Uri.schemeKind u.scheme = Uri.schemeKind root.scheme then Uri.spelled root else 0) +
        Text.bulk (String.intercalate "/" names).toList ≤ Uri.spelled u := by
  obtain ⟨path, hserved, hsame⟩ := h
  obtain ⟨hscheme, hfragment, hspelled⟩ := u.withoutFragment_spelled
  have hv := hu.withoutFragment
  rw [← hscheme, ← hspelled]
  rw [servedPath?] at hserved
  split at hserved
  · rename_i rest hrest
    obtain rfl := Text.Utf8.encode_injective (Option.some.inj hserved)
    obtain ⟨hroot', hadded⟩ := Uri.spelled_of_below hnormal hkind hroot.path hroot.query hroot.fragment hv hfragment
      (Uri.below?_eq_some hrest)
    have hweight := Uri.weight_eq_bulk_decode rest.toList
    rw [String.ofList_toList] at hweight
    -- An absolute path does not go on from the base directory, so it spells that too.
    have hle : Text.bulk (String.intercalate "/" names).toList ≤ Text.bulk (Text.Percent.decode rest).toList := by
      cases hpath : Path.isAbsolute (Text.Percent.decode rest) with
      | false => exact hbelow.bulk_le_of_relative hdirectory hpath hsame
      | true =>
        rw [Path.join, hpath, Bool.true_or, if_pos rfl] at hsame
        exact Nat.le_trans (Nat.le_add_left _ _) (hbelow.bulk_le_of_absolute hdirectory hpath hsame)
    refine ⟨fun hother => ?_, by rw [hroot', if_pos rfl]; omega⟩
    rw [hroot'] at hother
    rw [hother] at hkind
    cases hkind
  · split at hserved
    · rename_i hfile
      have hkindFile : Uri.schemeKind u.withoutFragment.scheme = .file := by rw [hfile]; rfl
      obtain ⟨-, part, parts, hsegments⟩ := hv.special_parts (by rw [hkindFile]; rfl)
      obtain ⟨hpath, hbulk⟩ := filePath?_bulk hsegments hserved
      have hle := hbelow.bulk_le_of_absolute hdirectory hpath hsame
      have hsum := Uri.pathWeight_le_spelled u.withoutFragment
      refine ⟨fun hother => (by cases hkindFile.symm.trans hother), ?_⟩
      split
      · rename_i hsame
        have hreach := hreach (hsame.symm.trans hkindFile)
        omega
      · omega
    · cases hserved

/-- Below a root of a special scheme only names that are taken as they stand lead back. -/
theorem verbatim_of_leadsBack {front : List String} {u : Uri} (hroot : IsRoot root front) (hnormal : root.Normal)
    (hkind : (Uri.schemeKind root.scheme).isSpecial = true)
    (hreach : Uri.schemeKind root.scheme = .file →
      Uri.spelled root ≤ Path.bulk (Path.parts (Path.absolute files.workingDirectory base)))
    (hdrive : Uri.schemeKind root.scheme = .file → Uri.startsWithDriveLetter (String.intercalate "/" names).toList = false)
    (hdirectory : files.workingDirectory ≠ "") (hbelow : Below files base file names)
    (hu : fileUri files root base file = .ok u) (h : LeadsBack files root base file u) :
    Uri.Verbatim (Uri.schemeKind root.scheme) (String.intercalate "/" names).toList := by
  have hjoin := (fileUri_eq_ok hbelow).mp hu
  have hu' : u.Normal := Uri.resolve_normal (fun _ heq => by cases heq; exact hnormal) hjoin
  obtain ⟨hother, hle⟩ := h.bulk_le hroot hnormal hkind hreach hdirectory hbelow hu'
  rcases Uri.join_verbatim_or_within hkind hroot.path hbelow.head_ne_slash hbelow.bulk_pos hdrive hjoin with
    hverbatim | ⟨n, hn, hwithin | hwithin⟩
  · exact hverbatim
  · exact absurd hwithin hother
  · omega

theorem spelled_ofDirectory_le (path : String) : Uri.spelled (Uri.ofDirectory path) ≤ Path.bulk (Path.parts path) := by
  have hread (part : PathPart) :
      Text.Utf8.read none (Text.Percent.octets (Text.Percent.encode Uri.fileNameSet part.text).toList) = part.text.toList := by
    conv_rhs => rw [← Text.Percent.decode_encode (rfl : Uri.fileNameSet '%' = true) part.text]
    rw [Text.Percent.decode, Text.Utf8.decode, String.toList_ofList]
  have hspelled : Uri.spelled (Uri.ofDirectory path) = Path.bulk ((Path.parts path).filter (· ≠ .root)) := by
    have hsegments : (Uri.ofDirectory path).segments =
        ((Path.parts path).filter (· ≠ .root)).map (fun part => Text.Percent.encode Uri.fileNameSet part.text) ++ [""] := rfl
    rw [Uri.spelled, hsegments, Uri.pathWeight_append, Uri.pathWeight, Text.Percent.total, List.map_map, List.flatMap_map]
    simp only [Function.comp_def, hread]
    rfl
  rw [hspelled]
  exact Path.bulk_le List.filter_sublist

theorem fileUri_rootless (h : Below files base file names) (hbase : root.isBase = false)
    (hverbatim : Uri.Verbatim (Uri.schemeKind root.scheme) (String.intercalate "/" names).toList) {u : Uri} :
    fileUri files root base file ≠ .ok u := by
  intro hu
  have hjoin := (fileUri_eq_ok h).mp hu
  have hhash : ((String.intercalate "/" names).toList.head? == some '#') = false :=
    beq_eq_false_iff_ne.mpr fun heq => hverbatim.fragment (List.mem_of_head? heq)
  simp only [Uri.join, Uri.resolve, Uri.trimEnds_eq_self hverbatim.padding, hverbatim.scheme,
    Uri.significant_eq_self hverbatim.kept, hhash, hbase, Bool.false_eq_true, Bool.not_false, if_false, if_true] at hjoin
  cases hjoin

theorem LeadsBack.same {other : String} {u v : Uri} (h : LeadsBack files root base file u)
    (hother : LeadsBack files root base other v) (heq : u.withoutFragment = v.withoutFragment) :
    Path.same (Path.absolute files.workingDirectory file) (Path.absolute files.workingDirectory other) = true := by
  obtain ⟨path, hserved, hsame⟩ := h
  obtain ⟨otherPath, hotherServed, hotherSame⟩ := hother
  rw [heq, hotherServed] at hserved
  obtain rfl := Text.Utf8.encode_injective (Option.some.inj hserved)
  rw [Path.same, decide_eq_true_eq] at hsame hotherSame ⊢
  exact hsame.symm.trans hotherSame

theorem leadsBack_of_verbatim {options : Command.Options} (hroot : Command.rootUri files options = .ok root)
    (hquery : root.query = none) (hfragment : root.fragment = none) (hdirectory : files.workingDirectory ≠ "")
    (h : Below files base file names)
    (hverbatim : Uri.Verbatim (Uri.schemeKind root.scheme) (String.intercalate "/" names).toList) :
    (root.isBase = true ↔ ∃ u, fileUri files root base file = .ok u) ∧
      ∀ u, fileUri files root base file = .ok u → LeadsBack files root base file u := by
  cases hbase : root.isBase with
  | false =>
    have hnone {u : Uri} : fileUri files root base file ≠ .ok u := fileUri_rootless h hbase hverbatim
    exact ⟨⟨nofun, fun ⟨u, hu⟩ => absurd hu hnone⟩, fun u hu => absurd hu hnone⟩
  | true =>
    obtain ⟨front, hfront⟩ := rootUri_isRoot hroot hbase hquery hfragment
    obtain ⟨u, hu, hback⟩ := fileUri_of_verbatim hfront hdirectory h hverbatim
    refine ⟨⟨fun _ => ⟨u, hu⟩, fun _ => rfl⟩, fun v hv => ?_⟩
    rw [hu] at hv
    cases hv
    exact hback

/-- A root below which only names that are taken as they stand lead back: one of a special scheme other than
    `file`, or the URI of the base directory itself, unless the names start with what looks like a drive. -/
def IsExact (files : Files) (options : Command.Options) (root : Uri) (base text : String) : Prop :=
  Uri.schemeKind root.scheme = .special ∨
    options.root = none ∧ options.base = base ∧ Uri.IsPlainPath (Path.absolute files.workingDirectory base) ∧
      Uri.startsWithDriveLetter text.toList = false

theorem verbatim_of_isExact {options : Command.Options} (hroot : Command.rootUri files options = .ok root)
    (hquery : root.query = none) (hfragment : root.fragment = none) (hdirectory : files.workingDirectory ≠ "")
    (h : Below files base file names) (hexact : IsExact files options root base (String.intercalate "/" names)) {u : Uri}
    (hu : fileUri files root base file = .ok u) (hback : LeadsBack files root base file u) :
    Uri.Verbatim (Uri.schemeKind root.scheme) (String.intercalate "/" names).toList := by
  rcases hexact with hspecial | ⟨hnone, rfl, hplain, hdrive⟩
  · have hfile : Uri.schemeKind root.scheme ≠ .file := by
      rw [hspecial]
      nofun
    -- The URI of a directory is a file URI, so the root was given by its text.
    have hnormal : root.Normal := by
      rcases rootUri_cases hroot with ⟨_, _, -, hparse, rfl⟩ | ⟨-, rfl⟩
      · exact (Uri.Obtained.parse hparse).asRoot.normal
      · exact absurd rfl hfile
    have hkind : (Uri.schemeKind root.scheme).isSpecial = true := by rw [hspecial]; rfl
    obtain ⟨-, part, parts, hpath⟩ := hnormal.special_parts hkind
    obtain ⟨front, hfront⟩ := rootUri_isRoot hroot (by rw [Uri.isBase, hpath]) hquery hfragment
    exact verbatim_of_leadsBack hfront hnormal hkind (fun h => absurd h hfile) (fun h => absurd h hfile) hdirectory h hu hback
  · rcases rootUri_cases hroot with ⟨_, _, hsome, -⟩ | ⟨-, rfl⟩
    · rw [hnone] at hsome
      cases hsome
    · obtain ⟨front, hfront⟩ := rootUri_isRoot hroot rfl hquery hfragment
      exact verbatim_of_leadsBack hfront (Uri.ofDirectory_normal hplain) rfl (fun _ => spelled_ofDirectory_le _)
        (fun _ => hdrive) hdirectory h hu hback

/-- A file whose names are taken as they stand is served under the URI it is published under, so that such
    files never share a URI without fragment. Below a root of a special scheme, and below the URI of the base
    directory, no other file is. -/
theorem file_uri_leads_back {options : Command.Options} (hroot : Command.rootUri files options = .ok root)
    (hquery : root.query = none) (hfragment : root.fragment = none) (hdirectory : files.workingDirectory ≠ "")
    (h : Below files base file names) :
    (Uri.Verbatim (Uri.schemeKind root.scheme) (String.intercalate "/" names).toList →
      (root.isBase = true ↔ ∃ u, fileUri files root base file = .ok u) ∧
        ∀ u, fileUri files root base file = .ok u → LeadsBack files root base file u) ∧
    (IsExact files options root base (String.intercalate "/" names) → ∀ u, fileUri files root base file = .ok u →
      (LeadsBack files root base file u ↔ Uri.Verbatim (Uri.schemeKind root.scheme) (String.intercalate "/" names).toList)) ∧
    (∀ other others u v, Below files base other others →
      Uri.Verbatim (Uri.schemeKind root.scheme) (String.intercalate "/" names).toList →
      Uri.Verbatim (Uri.schemeKind root.scheme) (String.intercalate "/" others).toList →
      fileUri files root base file = .ok u → fileUri files root base other = .ok v → u.withoutFragment = v.withoutFragment →
      Path.same (Path.absolute files.workingDirectory file) (Path.absolute files.workingDirectory other) = true) := by
  have hleads := leadsBack_of_verbatim hroot hquery hfragment hdirectory h
  refine ⟨hleads, fun hexact u hu => ⟨?_, fun hverbatim => (hleads hverbatim).2 u hu⟩, ?_⟩
  · exact verbatim_of_isExact hroot hquery hfragment hdirectory h hexact hu
  · intro other others u v hother hverbatim hotherVerbatim hu hv heq
    have hotherLeads := leadsBack_of_verbatim hroot hquery hfragment hdirectory hother hotherVerbatim
    exact ((hleads hverbatim).2 u hu).same (hotherLeads.2 v hv) heq

end

/-- A run in `/work` that publishes documents at a given root. -/
def workFiles : Files := ⟨"/work", []⟩

def publishedAt (root : String) : Command.Options := { Command.Options.empty with root := some root }

theorem file_uri_leads_back_page :
    Command.rootUri workFiles (publishedAt "http://example.com") = .ok site ∧
      Below workFiles "." "sub/a b/x?y.json" ["sub", "a b", "x?y.json"] ∧
      Uri.Verbatim (Uri.schemeKind site.scheme) (String.intercalate "/" ["sub", "a b", "x?y.json"]).toList ∧
      fileUri workFiles site "." "sub/a b/x?y.json" = .ok { sitePage ["sub", "a%20b", "x"] with query := some "y.json" } ∧
      LeadsBack workFiles site "." "sub/a b/x?y.json" { sitePage ["sub", "a%20b", "x"] with query := some "y.json" } := by
  have hroot : Command.rootUri workFiles (publishedAt "http://example.com") = .ok site := rfl
  have hbelow : Below workFiles "." "sub/a b/x?y.json" ["sub", "a b", "x?y.json"] := ⟨by decide, by decide, rfl, by decide⟩
  have hverbatim : Uri.Verbatim (Uri.schemeKind site.scheme) (String.intercalate "/" ["sub", "a b", "x?y.json"]).toList := by
    refine ⟨rfl, ?_, by simp [Uri.isDropped], by decide, ?_, by decide, fun _ => by decide, by decide, nofun⟩
    · rintro c (hc | hc) <;> cases hc <;> rfl
    · intro rest hrest
      exact absurd (hrest.subset List.mem_cons_self) (by decide)
  have huri : fileUri workFiles site "." "sub/a b/x?y.json" =
      .ok { sitePage ["sub", "a%20b", "x"] with query := some "y.json" } := rfl
  exact ⟨hroot, hbelow, hverbatim, huri, ((file_uri_leads_back hroot rfl rfl (by decide) hbelow).1 hverbatim).2 _ huri⟩

/-- A name with a number sign is cut off at it, so that two files share a URI; and below a root with a query
    nothing leads back. -/
theorem number_sign_cuts_file_name :
    fileUri workFiles site "/work" "/work/a#1.json" = .ok { sitePage ["a"] with fragment := some "1.json" } ∧
      fileUri workFiles site "/work" "/work/a#2.json" = .ok { sitePage ["a"] with fragment := some "2.json" } ∧
      servedPath? site "/work" (sitePage ["a"]) = some (Text.Utf8.encode "/work/a") ∧
      Path.same "/work/a" "/work/a#1.json" = false ∧ Path.same "/work/a#1.json" "/work/a#2.json" = false ∧
      Command.rootUri workFiles (publishedAt "http://example.com/?q") = .ok { site with query := some "q" } ∧
      fileUri workFiles { site with query := some "q" } "/work" "/work/a.json" = .ok (sitePage ["a.json"]) ∧
      servedPath? { site with query := some "q" } "/work" (sitePage ["a.json"]) = none := by
  decide +kernel

end Catalog

end SchemaBeans
