import SchemaBeans.Proofs.Uri.Weights

/-! References that lose characters.

A reference either is taken as it stands, or the URI that it is resolved to spells fewer characters than the
base and the reference had (`Uri.join_verbatim_or_within`). What follows the text of a root in the text of a
URI is spelled by the URI beyond the root (`Uri.spelled_of_below`). -/

namespace SchemaBeans.Uri
open Text (bulk)
open Text.Percent (weight IsPlainMark)

section
variable {u b : Uri} {kind : SchemeKind} {scheme : String} {cs : List Char} {front : List String}

/-! ### References taken as they stand -/

/-- A reference without scheme whose characters are all kept. -/
structure Whole (cs : List Char) : Prop where
  content : content cs = bulk cs
  start : cs.head? ≠ some '\\'
  backslash : '\\' ∉ pathPart cs
  dots : ∀ piece ∈ (pathPart cs).splitOn '/', piece ≠ ['.'] ∧ piece ≠ ['.', '.']

theorem ne_dots_of_not_isDots {piece : List Char} (h : ¬IsDots (encodeSegment (significant piece))) :
    piece ≠ ['.'] ∧ piece ≠ ['.', '.'] := by
  constructor
  · rintro rfl
    exact h (Or.inr rfl)
  · rintro rfl
    exact h (Or.inl rfl)

theorem Whole.of_path {c : Char} {rest : List Char} (hkind : kind.isSpecial = true) (hc : isAnySlash c = false) {done : List String}
    (h : pathWeight done + bulk (c :: rest) ≤ spelled (finishPath kind u (readPath kind done) (c :: rest))) : Whole (c :: rest) := by
  have hspelled := finishPath_spelled kind u (readPath kind done) (c :: rest)
  have hcut := content_cut (c :: rest)
  have hcontent := content_le (c :: rest)
  have hsize := size_le_bulk (c :: rest)
  obtain ⟨hle, heq⟩ := readPath_weight kind done (pathPart (c :: rest))
  obtain ⟨hback, hdots⟩ := heq hkind (by omega)
  rw [splitOnP_isSlash fun _ => hback] at hdots
  refine ⟨by omega, fun hhead => ?_, hback, fun piece hpiece => ne_dots_of_not_isDots (hdots piece hpiece)⟩
  rw [Option.some.inj hhead] at hc
  cases hc

theorem Whole.of_query (hhead : cs.head? = some '?') (h : spelled u + bulk cs ≤ spelled (finish kind u cs)) : Whole cs := by
  have hfinish := finish_spelled kind u cs
  have hpath := pathWeight_le_spelled u
  have hcontent := content_le cs
  have hsize := size_le_bulk cs
  obtain ⟨query, rfl⟩ := List.head?_eq_some_iff.mp hhead
  have hnone : pathPart ('?' :: query) = [] := rfl
  exact ⟨by omega, by simp, by simp [hnone], by simp [hnone]⟩

theorem bulk_backslash {c : Char} {rest : List Char} (hc : c ≠ '/') : bulk (c :: rest) = 1 + bulk rest := by
  rw [Text.bulk_cons, if_neg hc]

theorem Whole.of_readRelative (hkind : (schemeKind b.scheme).isSpecial = true) (hslash : cs.head? ≠ some '/') (hpos : 0 < bulk cs)
    (h : readRelative b cs = .ok u) (hle : spelled b + bulk cs ≤ spelled u) : Whole cs := by
  rcases readRelative_cases h with
    ⟨rfl, -⟩ | ⟨hhead, rfl⟩ | ⟨hhead, rfl⟩ | ⟨c, rest, rfl, hc, ⟨after, hafter, h⟩ | rfl⟩ | ⟨c, rest, rfl, hc, rfl⟩
  · cases hpos
  · exact .of_query hhead hle
  · have hbase : spelled { finish (schemeKind b.scheme) b cs with query := b.query } = spelled b := rfl
    omega
  -- The reference starts with a backslash, which counts for it but not for the URI.
  · have hafterLe := (afterSlashes_le h).2
    have hsize := size_le hafter
    have hbulk := size_le_bulk rest
    rw [bulk_backslash fun heq => hslash (congrArg some heq)] at hle
    omega
  · have hread := finishPath_root_le (schemeKind b.scheme) b rest
    have hbulk := size_le_bulk rest
    rw [bulk_backslash fun heq => hslash (congrArg some heq)] at hle
    omega
  · have hfront := pathWeight_sublist (List.dropLast_sublist b.segments)
    have hpath := pathWeight_le_spelled b
    exact .of_path hkind hc (Nat.le_trans (by omega) hle)

theorem Whole.of_readFile (hclosed : IsClosed b front) (hkept : ∀ c ∈ cs, isDropped c = false)
    (hslash : cs.head? ≠ some '/') (hpos : 0 < bulk cs) (hdrive : startsWithDriveLetter cs = false)
    (h : readFile (some b) cs = .ok u) (hle : spelled b + bulk cs ≤ spelled u) : Whole cs := by
  -- The reference has been cleaned, so nothing is dropped at its start.
  have hself : cs.dropWhile isDropped = cs := by
    cases cs with
    | nil => rfl
    | cons c rest => rw [List.dropWhile_cons_of_neg (by simp [hkept c List.mem_cons_self])]
  rcases readFile_cases h with ⟨hcs, -⟩ | ⟨c, rest, hcs, hc, hrest⟩ | ⟨c, rest, hcs, hc, rfl⟩
  · rw [hself] at hcs
    rw [hcs] at hpos
    cases hpos
  · obtain rfl : cs = c :: rest := hself.symm.trans hcs
    have hbulk := size_le_bulk rest
    rw [bulk_backslash fun heq => hslash (congrArg some heq)] at hle
    rcases hrest with ⟨after, hafter, h⟩ | rfl
    · have hafterLe := (fileAfterSlashes_le h).2
      have hsize := size_le hafter
      omega
    · have hrooted := fileRooted_le (some b) rest
      rw [Option.elim_some] at hrooted
      omega
  · obtain rfl : cs = c :: rest := hself.symm.trans hcs
    unfold readFile.fileRelative at hle
    dsimp only at hle
    split at hle
    · rename_i hquestion
      exact .of_query (congrArg some (beq_iff_eq.mp hquestion)) hle
    · split at hle
      · have hbase : spelled b + bulk (c :: rest) ≤ spelled b := hle
        omega
      · rw [significant_eq_self hkept, hdrive, hclosed.readBelow] at hle
        have hfront := hclosed.pathWeight_le
        exact .of_path rfl hc (Nat.le_trans (by omega) hle)

theorem readOther_scheme (h : readOther scheme cs = .ok u) : u.scheme = scheme := by
  unfold readOther at h
  split at h
  · exact (afterSlashes_le h).1
  · cases h
    rfl
  · cases h
    rfl

/-- A URI that was read against a base spells at most so much more than what it takes over from the base. -/
def Within (b u : Uri) (n : Nat) : Prop :=
  schemeKind u.scheme = .other ∨
    spelled u ≤ (if schemeKind u.scheme = schemeKind b.scheme then spelled b else 0) + n

theorem Within.of_scheme {n : Nat} (hscheme : u.scheme = b.scheme) (h : spelled u ≤ spelled b + n) : Within b u n := by
  refine Or.inr ?_
  rwa [hscheme, if_pos rfl]

theorem Within.of_le {n : Nat} (h : spelled u ≤ n) : Within b u n :=
  Or.inr (Nat.le_trans h (Nat.le_add_left _ _))

theorem readScheme_within (hclosed : IsClosed b front) (h : readScheme (some b) scheme cs = .ok u) : Within b u (size cs) := by
  have hsize := size_significant cs
  unfold readScheme at h
  dsimp only at h
  split at h
  · by_cases hfile : b.scheme = "file"
    · have hsome : (some b).filter (·.scheme == "file") = some b := by simp [hfile]
      rw [hsome] at h
      obtain ⟨hscheme, hle⟩ := readFile_le (fun _ heq => by cases heq; exact ⟨hfile, front, hclosed⟩) h
      exact .of_scheme (hscheme.trans hfile.symm) hle
    · have hnone : (some b).filter (·.scheme == "file") = none := by simp [hfile]
      rw [hnone] at h
      have hle := (readFile_le (fun _ heq => by cases heq) h).2
      exact .of_le (by rwa [Option.elim_none, Nat.zero_add] at hle)
  · split at h
    · obtain ⟨hscheme, hle⟩ := readRelative_le h
      exact .of_scheme hscheme (by omega)
    · have hle := (afterSlashes_le h).2
      have hdrop := size_le (List.drop_sublist ((significant cs).takeWhile isAnySlash).length (significant cs))
      exact .of_le (by omega)
  · rename_i hother
    exact Or.inl (by rw [readOther_scheme h, hother])

theorem splitScheme?_size {rest : List Char} (h : splitScheme? cs = some (scheme, rest)) : size rest < size cs := by
  unfold splitScheme? at h
  dsimp only at h
  split at h
  · rename_i c name tail hname hdrop
    split at h
    · cases h
      have hsub : (':' :: rest).Sublist cs := hdrop ▸ List.dropWhile_sublist _
      have hcolon : significant (':' :: rest) = ':' :: significant rest := rfl
      have hle := size_le hsub
      rw [size, hcolon, Text.bulk_cons, if_neg (by decide)] at hle
      exact Nat.lt_of_lt_of_le (Nat.lt_add_of_pos_left Nat.one_pos) hle
    · cases h
  · cases h

theorem padding_ne_slash {c : Char} (h : isPadding c = true) : c ≠ '/' := by
  rintro rfl
  cases h

theorem not_isPadding_of_bulk (h : bulk cs ≤ bulk (Text.trimEnds isPadding cs)) :
    ∀ c, cs.head? = some c ∨ cs.getLast? = some c → isPadding c = false := by
  intro c hc
  rw [← Bool.not_eq_true]
  intro hpadding
  have hlt := Text.bulk_trimEnds_lt (padding_ne_slash hpadding) hpadding hc
  omega

/-- A reference that is neither absolute nor only a fragment, read against its base. -/
def readReference (b : Uri) (text : List Char) : Except UriError Uri :=
  if schemeKind b.scheme == .file then readFile (some b) text else readRelative b (significant text)

theorem readReference_le (hclosed : IsClosed b front) (h : readReference b cs = .ok u) :
    u.scheme = b.scheme ∧ spelled u ≤ spelled b + size cs := by
  rw [readReference] at h
  split at h
  · rename_i hkind
    have hfile := eq_file_of_schemeKind (beq_iff_eq.mp hkind)
    obtain ⟨hscheme, hle⟩ := readFile_le (fun _ heq => by cases heq; exact ⟨hfile, front, hclosed⟩) h
    exact ⟨hscheme.trans hfile.symm, hle⟩
  · have hread := readRelative_le h
    rwa [size_significant] at hread

theorem Whole.of_readReference (hkind : (schemeKind b.scheme).isSpecial = true) (hclosed : IsClosed b front)
    (hkept : ∀ c ∈ cs, isDropped c = false) (hslash : cs.head? ≠ some '/') (hpos : 0 < bulk cs)
    (hdrive : schemeKind b.scheme = .file → startsWithDriveLetter cs = false)
    (h : readReference b cs = .ok u) (hle : spelled b + bulk cs ≤ spelled u) : Whole cs := by
  rw [readReference] at h
  split at h
  · rename_i hfile
    exact .of_readFile hclosed hkept hslash hpos (hdrive (beq_iff_eq.mp hfile)) h hle
  · rw [significant_eq_self hkept] at h
    exact .of_readRelative hkind hslash hpos h hle

theorem join_cases {s : String} (h : b.join s = .ok u) :
    (∃ scheme rest, splitScheme? (Text.trimEnds isPadding s.toList) = some (scheme, rest) ∧
      readScheme (some b) scheme rest = .ok u) ∨
    splitScheme? (Text.trimEnds isPadding s.toList) = none ∧
      (u.scheme = b.scheme ∧ spelled u = spelled b ∨ readReference b (Text.trimEnds isPadding s.toList) = .ok u) := by
  unfold join resolve at h
  dsimp only at h
  split at h
  · rename_i scheme rest hsplit
    exact Or.inl ⟨scheme, rest, hsplit, h⟩
  · rename_i heq
    cases heq
  · rename_i root hsplit heq
    cases heq
    refine Or.inr ⟨hsplit, ?_⟩
    -- A fragment changes nothing that a reference spells, whatever it is.
    have hbase : ∀ cs, (finish (schemeKind b.scheme) b cs).scheme = b.scheme ∧
        spelled { finish (schemeKind b.scheme) b cs with query := b.query } = spelled b := fun _ => ⟨rfl, rfl⟩
    split at h
    · cases h
      exact Or.inl (hbase _)
    · split at h
      · cases h
      · exact Or.inr h

/-- A reference that is not taken as it stands loses characters. -/
theorem join_verbatim_or_within {s : String} (hkind : (schemeKind b.scheme).isSpecial = true) (hclosed : IsClosed b front)
    (hslash : s.toList.head? ≠ some '/') (hpos : 0 < bulk s.toList)
    (hdrive : schemeKind b.scheme = .file → startsWithDriveLetter s.toList = false) (h : b.join s = .ok u) :
    Verbatim (schemeKind b.scheme) s.toList ∨ ∃ n, n < bulk s.toList ∧ Within b u n := by
  have htrim := Text.bulk_le ((Text.trimEnds_sublist isPadding s.toList).trans (List.dropWhile_sublist _))
  have hsize := size_le_bulk (Text.trimEnds isPadding s.toList)
  rcases join_cases h with ⟨scheme, rest, hsplit, h⟩ | ⟨hsplit, ⟨hscheme, heq⟩ | h⟩
  · have hrest := splitScheme?_size hsplit
    exact Or.inr ⟨size rest, by omega, readScheme_within hclosed h⟩
  · exact Or.inr ⟨0, hpos, .of_scheme hscheme (by omega)⟩
  · obtain ⟨hscheme, hle⟩ := readReference_le hclosed h
    by_cases hlt : spelled u < spelled b + bulk s.toList
    · exact Or.inr ⟨bulk s.toList - 1, by omega, .of_scheme hscheme (by omega)⟩
    · have hpadding := not_isPadding_of_bulk (by omega : bulk s.toList ≤ bulk (Text.trimEnds isPadding s.toList))
      rw [trimEnds_eq_self hpadding] at h hle hsplit
      have hkept := isDropped_eq_false_of_size (by omega : bulk s.toList ≤ size s.toList)
      have hwhole := Whole.of_readReference hkind hclosed hkept hslash hpos hdrive h (by omega)
      obtain ⟨-, hhash, hescape⟩ := of_content_eq hwhole.content
      exact Or.inl ⟨hsplit, hpadding, hkept, hhash, hescape, hwhole.start, fun _ => hwhole.backslash, hwhole.dots, hdrive⟩

end

/-! ### What follows a root -/

section
variable {root u : Uri} {front : List String} {rest : String}

theorem text_segments_cons (part : String) (parts : List String) (tail : List Char) :
    (UriPath.segments (part :: parts)).text.toList ++ tail =
      '/' :: (part.toList ++ ((UriPath.segments parts).text.toList ++ tail)) := by
  simp [UriPath.text]

theorem head_text_segments (parts : List String) {tail : List Char} {c : Char}
    (h : ((UriPath.segments parts).text.toList ++ tail).head? = some c) : c = '/' ∨ tail.head? = some c := by
  cases parts with
  | nil => exact Or.inr (by simpa [UriPath.text] using h)
  | cons part parts =>
    rw [text_segments_cons] at h
    exact Or.inl (Option.some.inj h).symm

theorem weight_segments {tail : List Char} (htail : ∀ c, tail.head? = some c → IsPlainMark c) (parts : List String) :
    weight ((UriPath.segments parts).text.toList ++ tail) = pathWeight parts + weight tail := by
  induction parts with
  | nil => simp [UriPath.text, pathWeight_nil]
  | cons part parts ih =>
    have hhead : ∀ c, ((UriPath.segments parts).text.toList ++ tail).head? = some c → IsPlainMark c := by
      intro c hc
      rcases head_text_segments parts hc with rfl | hc
      · decide
      · exact htail c hc
    rw [text_segments_cons, Text.Percent.weight_cons (by decide), Text.Percent.weight_append hhead, ih, pathWeight_cons,
      if_pos rfl]
    omega

theorem octets_segments {tail : List Char} (htail : ∀ c, tail.head? = some c → c = '/') (parts : List String) :
    Text.Percent.octets ((UriPath.segments parts).text.toList ++ tail) =
      (parts.flatMap fun part => 0x2F :: Text.Percent.octets part.toList) ++ Text.Percent.octets tail := by
  induction parts with
  | nil => simp [UriPath.text]
  | cons part parts ih =>
    have hhead : ∀ c, ((UriPath.segments parts).text.toList ++ tail).head? = some c → Text.Percent.hexValue? c = none := by
      intro c hc
      obtain rfl : c = '/' := (head_text_segments parts hc).elim id (htail c)
      rfl
    have hslash : String.utf8EncodeChar '/' = [0x2F] := rfl
    rw [text_segments_cons, Text.Percent.octets_cons (by decide), hslash, Text.Percent.octets_append hhead, ih]
    simp

theorem withoutFragment_spelled (u : Uri) :
    u.withoutFragment.scheme = u.scheme ∧ u.withoutFragment.fragment = none ∧ spelled u.withoutFragment = spelled u := by
  rw [withoutFragment]
  split
  · rename_i hpath hquery
    simp [spelled, segments, hpath]
  · exact ⟨rfl, rfl, rfl⟩

/-- Path and query as text. -/
def tail (u : Uri) : String := u.path.text ++ (u.query.map ("?" ++ ·)).getD ""

theorem weight_tail {parts : List String} (hpath : u.path = .segments parts) : weight u.tail.toList = spelled u := by
  have hsegments : u.segments = parts := by rw [segments, hpath]
  rw [tail, hpath, String.toList_append, spelled, hsegments]
  cases u.query with
  | none => exact weight_segments (by simp) parts
  | some query =>
    have hquery : (((some query).map ("?" ++ ·)).getD "").toList = '?' :: query.toList := by simp
    have hmark : ∀ c, ('?' :: query.toList).head? = some c → IsPlainMark c := by
      rintro _ ⟨⟩
      decide
    rw [hquery, weight_segments hmark, Text.Percent.weight_cons (by decide)]
    rfl

theorem text_eq_front_append_tail (h : u.fragment = none) : u.text = u.front ++ u.tail := by
  simp [text, Uri.front, tail, h, String.append_assoc]

theorem Normal.special_parts (h : u.Normal) (hkind : (schemeKind u.scheme).isSpecial = true) :
    (∃ authority, Text.pieces '/' u.front = [u.scheme ++ ":", "", authority]) ∧ ∃ part parts, u.path = .segments (part :: parts) := by
  have hhost := h.special hkind
  constructor
  · rcases pieces_front h.toFronted with ⟨_, authority, -, hfront⟩ | ⟨_, _, hnone, -⟩ | ⟨hnone, -⟩
    · exact ⟨authority, hfront⟩
    · rw [hnone] at hhost
      cases hhost
    · rw [hnone] at hhost
      cases hhost
  · have hpath := h.path
    cases hcase : u.path with
    | segments parts =>
      rw [hcase] at hpath
      obtain ⟨part, rest, rfl⟩ := List.exists_cons_of_ne_nil (hpath.special hkind)
      exact ⟨part, rest, rfl⟩
    | rootless text =>
      rw [hcase] at hpath
      rw [hpath.1] at hhost
      cases hhost

/-- What follows a root in a special scheme is spelled by the URI beyond the root. -/
theorem spelled_of_below (hroot : root.Normal) (hkind : (schemeKind root.scheme).isSpecial = true) (hclosed : IsClosed root front)
    (hquery : root.query = none) (hfragment : root.fragment = none) (hu : u.Normal) (huFragment : u.fragment = none)
    (h : u.text = root.text ++ rest) : u.scheme = root.scheme ∧ spelled u = spelled root + weight rest.toList := by
  obtain ⟨hscheme, -⟩ : u.scheme = root.scheme ∧ u.afterScheme = root.afterScheme ++ rest := by
    rw [text_eq, text_eq] at h
    exact scheme_eq_of_text hu.scheme hroot.scheme (h.trans String.append_assoc)
  obtain ⟨⟨authority, hfront⟩, part, parts, hpath⟩ := hu.special_parts (hscheme ▸ hkind)
  obtain ⟨⟨rootAuthority, hrootFront⟩, rootPart, rootParts, hrootPath⟩ := hroot.special_parts hkind
  -- Both fronts have the same number of slashes, so they are equal.
  have htail : u.tail = root.tail ++ rest := by
    rw [text_eq_front_append_tail huFragment, text_eq_front_append_tail hfragment, String.append_assoc] at h
    refine Text.eq_of_append_eq (by rw [hfront, hrootFront]; rfl) ?_ ?_ h
    · simp [tail, hpath, UriPath.text]
    · simp [tail, hrootPath, UriPath.text]
  have hmark : ∀ c, ('/' :: rest.toList).head? = some c → IsPlainMark c := by
    rintro _ ⟨⟩
    decide
  have hrest : (root.tail ++ rest).toList = (UriPath.segments front).text.toList ++ '/' :: rest.toList := by
    rw [IsClosed] at hclosed
    simp [tail, hclosed, hquery, UriPath.text]
  have hspelled : spelled root = pathWeight front := by
    rw [spelled, hclosed.segments, hquery, pathWeight_append]
    rfl
  refine ⟨hscheme, ?_⟩
  rw [← weight_tail hpath, htail, hrest, weight_segments hmark, hspelled, Text.Percent.weight_cons (by decide), if_pos rfl,
    Nat.zero_add]

end

end SchemaBeans.Uri
