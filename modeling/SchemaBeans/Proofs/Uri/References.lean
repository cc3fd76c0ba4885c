import Mathlib.Data.List.TakeWhile
import SchemaBeans.Proofs.Uri.Texts

/-! References that are resolved as they are written.

Resolving a reference drops padding, tabs and line breaks, follows dot segments, turns backslashes into
slashes and cuts off a fragment; and what looks like a scheme, an authority or a drive letter is taken for
one. A reference with nothing of that kind is added to a root as it stands (`Uri.join_verbatim`). -/

namespace SchemaBeans.Uri

/-- The path of a reference. -/
def pathPart (cs : List Char) : List Char := cs.takeWhile (!endsPath ·)

/-- The query of a reference without fragment, with its question mark. -/
def queryPart (cs : List Char) : List Char := cs.dropWhile (!endsPath ·)

theorem pathPart_append_queryPart (cs : List Char) : pathPart cs ++ queryPart cs = cs := List.takeWhile_append_dropWhile

/-- A reference in which every character stands for itself. -/
structure Verbatim (kind : SchemeKind) (cs : List Char) : Prop where
  scheme : splitScheme? cs = none
  padding : ∀ c, cs.head? = some c ∨ cs.getLast? = some c → isPadding c = false
  kept : ∀ c ∈ cs, isDropped c = false
  fragment : '#' ∉ cs
  escape : Text.Percent.NoEscape cs
  start : cs.head? ≠ some '\\'
  backslash : kind.isSpecial = true → '\\' ∉ pathPart cs
  dots : ∀ piece ∈ (pathPart cs).splitOn '/', piece ≠ ['.'] ∧ piece ≠ ['.', '.']
  drive : kind = .file → startsWithDriveLetter cs = false

/-! ### Segments -/

section
variable {kind : SchemeKind} {done parts : List String} {piece cs : List Char}

theorem significant_eq_self (h : ∀ c ∈ cs, isDropped c = false) : significant cs = cs :=
  List.filter_eq_self.mpr fun c hc => by simp [h c hc]

theorem setOffDrive?_eq_none (h : ∀ c ∈ piece, isDropped c = false) : setOffDrive? piece = none := by
  rw [setOffDrive?]
  split
  · rename_i colon gap rest hdrop
    have hgap : gap ∈ piece := List.dropWhile_subset (· != ':') (hdrop ▸ by simp)
    simp [h gap hgap]
  · rfl

theorem addSegment_verbatim (hkept : ∀ c ∈ piece, isDropped c = false) (hdots : ¬IsDots (encodeSegment piece))
    (hdrive : kind = .file → done = [] → isDriveLetter piece = false) (last : Bool) :
    addSegment kind done piece last = done ++ [encodeSegment piece] := by
  have hsig := significant_eq_self hkept
  rcases addSegment_cases kind done piece last with
    ⟨hkind, hdone, ⟨drive, rest, hset, -⟩ | ⟨hletter, -⟩⟩ | ⟨hup, -⟩ | ⟨hhere, -⟩ | ⟨-, -, heq⟩
  · rw [setOffDrive?_eq_none hkept] at hset
    cases hset
  · rw [hsig, hdrive hkind hdone] at hletter
    cases hletter
  · rw [hsig] at hup
    exact absurd (Or.inl hup) hdots
  · rw [hsig] at hhere
    exact absurd (Or.inr hhere) hdots
  · rw [heq, hsig]

theorem addSegments_verbatim {pieces : List (List Char)} (hkept : ∀ piece ∈ pieces, ∀ c ∈ piece, isDropped c = false)
    (hdots : ∀ piece ∈ pieces, ¬IsDots (encodeSegment piece))
    (hdrive : kind = .file → done = [] → ∀ piece, pieces.head? = some piece → isDriveLetter piece = false) :
    addSegments kind done pieces = done ++ pieces.map encodeSegment := by
  fun_induction addSegments kind done pieces with
  | case1 => simp
  | case2 done piece =>
    exact addSegment_verbatim (hkept piece List.mem_cons_self) (hdots piece List.mem_cons_self)
      (fun hkind hdone => hdrive hkind hdone piece rfl) true
  | case3 done piece rest _ ih =>
    have hstep := addSegment_verbatim (hkept piece List.mem_cons_self) (hdots piece List.mem_cons_self)
      (fun hkind hdone => hdrive hkind hdone piece rfl) false
    rw [hstep] at ih ⊢
    rw [ih (fun p hp => hkept p (List.mem_cons_of_mem piece hp)) (fun p hp => hdots p (List.mem_cons_of_mem piece hp))
      (fun _ hdone => absurd hdone (by simp))]
    simp

theorem normalizePath_eq_self (hne : parts ≠ []) (h : kind = .file → parts.head? = some "" → parts = [""]) :
    normalizePath kind parts = parts := by
  cases kind with
  | file =>
    obtain ⟨first, rest, rfl⟩ := List.exists_cons_of_ne_nil hne
    unfold normalizePath
    by_cases hfirst : first = ""
    · subst hfirst
      rw [h rfl rfl]
      rfl
    · simp [hfirst]
  | special => rfl
  | other => rfl

theorem keepsEscapes_pathSet : Text.Percent.KeepsEscapes pathSet := Text.Percent.keepsEscapes_of_ascii rfl (by decide)

theorem not_isDots_encodeSegment (h : Text.Percent.NoEscape piece) (hdots : piece ≠ ['.'] ∧ piece ≠ ['.', '.']) :
    ¬IsDots (encodeSegment piece) := by
  have hdecode : Text.Percent.decode (encodeSegment piece) = String.ofList piece := by
    rw [encodeSegment, Text.Percent.decode_encodeChars keepsEscapes_pathSet, h.decode]
  rintro (hd | hd)
  · exact hdots.2 (String.ofList_injective (hdecode.symm.trans (isDoubleDot_iff.mp hd)))
  · exact hdots.1 (String.ofList_injective (hdecode.symm.trans (isSingleDot_iff.mp hd)))

end

/-! ### Resolving -/

def encodeQuery (kind : SchemeKind) : List Char → List Char :=
  Text.Percent.encodeChars (if kind.isSpecial then specialQuerySet else querySet)

/-- A query without its question mark. -/
def readQuery (kind : SchemeKind) : List Char → Option String
  | _ :: query => some (String.ofList (encodeQuery kind query))
  | [] => none

/-- A root extended by a reference that is added as it is written. -/
def extended (root : Uri) (front : List String) (cs : List Char) : Uri :=
  { root with
    path := .segments (front ++ ((pathPart cs).splitOn '/').map encodeSegment)
    query := readQuery (schemeKind root.scheme) (queryPart cs)
    fragment := none }

section
variable {kind : SchemeKind} {cs : List Char} {root : Uri} {front : List String}

theorem trimEnds_eq_self {p : Char → Bool} (h : ∀ c, cs.head? = some c ∨ cs.getLast? = some c → p c = false) :
    Text.trimEnds p cs = cs := by
  have hdrop : ∀ xs : List Char, (∀ c, xs.head? = some c → p c = false) → xs.dropWhile p = xs := by
    rintro (_ | ⟨x, xs⟩) hx
    · rfl
    · rw [List.dropWhile_cons, hx x rfl]
      rfl
  rw [Text.trimEnds, hdrop cs fun c hc => h c (Or.inl hc), hdrop, List.reverse_reverse]
  intro c hc
  rw [List.head?_reverse] at hc
  exact h c (Or.inr hc)

theorem finish_verbatim (u : Uri) {text : List Char} (hkept : ∀ c ∈ text, isDropped c = false) (hfragment : '#' ∉ text)
    (hstart : ∀ c, text.head? = some c → c = '?') :
    finish kind u text = { u with query := readQuery kind text, fragment := none } := by
  have hhash : ∀ c ∈ text, (c != '#') = true := fun c hc => bne_iff_ne.mpr fun heq => hfragment (heq ▸ hc)
  have htake : text.takeWhile (· != '#') = text := List.takeWhile_eq_self_iff.mpr hhash
  have hdrop : text.dropWhile (· != '#') = [] := List.dropWhile_eq_nil_iff.mpr hhash
  simp only [finish, significant_eq_self hkept, htake, hdrop]
  cases text with
  | nil => rfl
  | cons c query =>
    obtain rfl := hstart c rfl
    rfl

theorem queryPart_head (h : Verbatim kind cs) : ∀ c, (queryPart cs).head? = some c → c = '?' := by
  intro c hc
  have hmem : c ∈ cs := List.dropWhile_subset _ (List.mem_of_head? hc)
  have hends := List.head?_dropWhile_not (!endsPath ·) cs
  rw [queryPart] at hc
  rw [hc] at hends
  have hne : c ≠ '#' := fun heq => h.fragment (heq ▸ hmem)
  simpa [endsPath, hne] using hends

theorem Verbatim.finish_queryPart (h : Verbatim kind cs) (u : Uri) :
    finish kind u (queryPart cs) = { u with query := readQuery kind (queryPart cs), fragment := none } := by
  have hsub : ∀ c ∈ queryPart cs, c ∈ cs := fun c hc => List.dropWhile_subset _ hc
  exact finish_verbatim u (fun c hc => h.kept c (hsub c hc)) (fun hmem => h.fragment (hsub _ hmem)) (queryPart_head h)

theorem splitOnP_congr {p q : Char → Bool} {xs : List Char} (h : ∀ c ∈ xs, p c = q c) : xs.splitOnP p = xs.splitOnP q := by
  induction xs with
  | nil => rfl
  | cons x xs ih =>
    rw [List.splitOnP_cons_eq_if_modifyHead, List.splitOnP_cons_eq_if_modifyHead, h x List.mem_cons_self,
      ih fun c hc => h c (List.mem_cons_of_mem x hc)]

theorem splitOnP_isSlash (h : kind.isSpecial = true → '\\' ∉ cs) : cs.splitOnP (isSlash kind) = cs.splitOn '/' := by
  rw [List.splitOn_eq_splitOnP]
  refine splitOnP_congr fun c hc => ?_
  cases hspecial : kind.isSpecial with
  | false => simp [isSlash, hspecial]
  | true =>
    have hne : c ≠ '\\' := fun heq => h hspecial (heq ▸ hc)
    simp [isSlash, hne]

theorem startsWithDriveLetter_of_piece {piece : List Char} (hdrive : isDriveLetter piece = true)
    (h : ((pathPart cs).splitOn '/').head? = some piece) : startsWithDriveLetter cs = true := by
  have hcs := (pathPart_append_queryPart cs).symm
  unfold isDriveLetter at hdrive
  split at hdrive
  · rename_i a b
    rcases Text.head_splitOn h with hpath | ⟨rest, hpath⟩
    · rw [hcs, hpath]
      cases hquery : queryPart cs with
      | nil => exact hdrive
      | cons c query =>
        have hends := List.head?_dropWhile_not (!endsPath ·) cs
        rw [← queryPart, hquery] at hends
        have hends : endsPath c = true := by simpa using hends
        simpa [startsWithDriveLetter, isDriveLetter, hends] using hdrive
    · rw [hcs, hpath]
      simpa [startsWithDriveLetter, isDriveLetter, isAnySlash] using hdrive
  · cases hdrive

theorem encodeSegment_eq_empty {piece : List Char} (h : encodeSegment piece = "") : piece = [] := by
  cases piece with
  | nil => rfl
  | cons c piece =>
    obtain ⟨d, rest, heq, -⟩ := Text.Percent.head_encodeChars pathSet c piece
    rw [encodeSegment, heq] at h
    exact absurd (congrArg String.toList h) (by simp)

theorem head_pieces {piece : List Char} {pieces : List (List Char)} (hslash : cs.head? ≠ some '/')
    (h : (pathPart cs).splitOn '/' = piece :: pieces) (hempty : encodeSegment piece = "") : pieces = [] := by
  obtain rfl := encodeSegment_eq_empty hempty
  rcases Text.head_splitOn (h ▸ rfl : ((pathPart cs).splitOn '/').head? = some []) with hpath | ⟨rest, hpath⟩
  · rw [hpath] at h
    cases h
    rfl
  · rw [← pathPart_append_queryPart cs, hpath] at hslash
    exact absurd rfl hslash

theorem Verbatim.readPath (h : Verbatim kind cs) (hslash : cs.head? ≠ some '/')
    (hfirst : kind = .file → front.head? ≠ some "") :
    readPath kind front (pathPart cs) = front ++ ((pathPart cs).splitOn '/').map encodeSegment := by
  -- The segments are cut out of the reference, so they have nothing that it does not have.
  have hwithin : ∀ piece ∈ (pathPart cs).splitOn '/', piece <:+: cs := by
    intro piece hpiece
    have hjoin : List.intercalate ['/'] ((pathPart cs).splitOn '/') = pathPart cs := List.intercalate_splitOn '/'
    have hpath := Text.infix_intercalate ['/'] hpiece
    rw [hjoin] at hpath
    exact hpath.trans (List.takeWhile_prefix _).isInfix
  rw [Uri.readPath, splitOnP_isSlash h.backslash, addSegments_verbatim, normalizePath_eq_self]
  · simp
  · intro hkind hhead
    cases front with
    | cons first rest => exact absurd hhead (hfirst hkind)
    | nil =>
      obtain ⟨piece, pieces, hpieces⟩ := List.exists_cons_of_ne_nil (List.splitOn_ne_nil '/' (pathPart cs))
      rw [hpieces] at hhead ⊢
      have hempty := Option.some.inj hhead
      rw [head_pieces hslash hpieces hempty]
      exact congrArg (· :: []) hempty
  · exact fun piece hpiece c hc => h.kept c ((hwithin piece hpiece).subset hc)
  · exact fun piece hpiece => not_isDots_encodeSegment (h.escape.within (hwithin piece hpiece)) (h.dots piece hpiece)
  · intro hkind hfront piece hpiece
    rw [← Bool.not_eq_true]
    intro hdrive
    have hstarts := startsWithDriveLetter_of_piece hdrive hpiece
    rw [h.drive hkind] at hstarts
    cases hstarts

theorem finishPath_verbatim (h : Verbatim (schemeKind root.scheme) cs) (hslash : cs.head? ≠ some '/')
    (hfirst : schemeKind root.scheme = .file → front.head? ≠ some "") {path : List Char → List String}
    (hpath : path (pathPart cs) = readPath (schemeKind root.scheme) front (pathPart cs)) :
    finishPath (schemeKind root.scheme) root path cs = root.extended front cs := by
  rw [finishPath, ← pathPart, ← queryPart, hpath, h.readPath hslash hfirst, h.finish_queryPart, extended]

theorem finish_question {query : List Char} (hpath : root.path = .segments (front ++ [""]))
    (h : Verbatim (schemeKind root.scheme) ('?' :: query)) :
    finish (schemeKind root.scheme) root ('?' :: query) = root.extended front ('?' :: query) := by
  have hsegments : ((pathPart ('?' :: query)).splitOn '/').map encodeSegment = [""] := rfl
  have hquery := h.finish_queryPart root
  rw [show queryPart ('?' :: query) = '?' :: query from rfl] at hquery
  rw [hquery, extended, hsegments, ← hpath]
  rfl

theorem isAnySlash_head {c : Char} (h : Verbatim kind (c :: cs)) (hslash : c ≠ '/') : isAnySlash c = false := by
  have hstart : c ≠ '\\' := fun heq => h.start (congrArg some heq)
  simp [isAnySlash, hslash, hstart]

theorem readRelative_verbatim (hpath : root.path = .segments (front ++ [""])) (hkind : schemeKind root.scheme ≠ .file)
    (h : Verbatim (schemeKind root.scheme) cs) (hne : cs ≠ []) (hslash : cs.head? ≠ some '/') :
    readRelative root cs = .ok (root.extended front cs) := by
  obtain ⟨c, rest, rfl⟩ := List.exists_cons_of_ne_nil hne
  have hc : c ≠ '/' := fun heq => hslash (congrArg some heq)
  have hhash : c ≠ '#' := fun heq => h.fragment (heq ▸ List.mem_cons_self)
  have hsegments : root.segments.dropLast = front := by simp [segments, hpath]
  unfold readRelative
  by_cases hquestion : c = '?'
  · subst hquestion
    exact congrArg Except.ok (finish_question hpath h)
  · simp only [beq_iff_eq, hquestion, hhash, isAnySlash_head h hc, if_false, Bool.false_eq_true]
    refine congrArg Except.ok (finishPath_verbatim h hslash (fun hfile => absurd hfile hkind) ?_)
    rw [hsegments]

theorem readFile_verbatim (hpath : root.path = .segments (front ++ [""])) (hkind : schemeKind root.scheme = .file)
    (hfirst : front.head? ≠ some "") (h : Verbatim (schemeKind root.scheme) cs) (hne : cs ≠ []) (hslash : cs.head? ≠ some '/') :
    readFile (some root) cs = .ok (root.extended front cs) := by
  obtain ⟨c, rest, rfl⟩ := List.exists_cons_of_ne_nil hne
  have hc : c ≠ '/' := fun heq => hslash (congrArg some heq)
  have hhash : c ≠ '#' := fun heq => h.fragment (heq ▸ List.mem_cons_self)
  have hdropped : (c :: rest).dropWhile isDropped = c :: rest := by simp [h.kept c List.mem_cons_self]
  have hsegments : root.segments = front ++ [""] := by simp [segments, hpath]
  unfold readFile
  rw [hdropped]
  simp only [isAnySlash_head h hc, Bool.not_false, if_true, readFile.fileRelative]
  refine congrArg Except.ok ?_
  by_cases hquestion : c = '?'
  · subst hquestion
    rw [← hkind]
    exact finish_question hpath h
  · simp only [beq_iff_eq, hquestion, hhash, if_false]
    rw [significant_eq_self h.kept, h.drive hkind, ← hkind]
    refine finishPath_verbatim h hslash (fun _ => hfirst) ?_
    rw [hkind, readBelow, hsegments]
    simp [isDrive]

/-- A reference in which every character stands for itself is added to a root as it is written. -/
theorem join_verbatim {s : String} (hpath : root.path = .segments (front ++ [""]))
    (hfirst : schemeKind root.scheme = .file → front.head? ≠ some "") (h : Verbatim (schemeKind root.scheme) s.toList)
    (hne : s ≠ "") (hslash : s.toList.head? ≠ some '/') : root.join s = .ok (root.extended front s.toList) := by
  have hhash : (s.toList.head? == some '#') = false := by
    refine beq_eq_false_iff_ne.mpr fun heq => h.fragment (List.mem_of_head? heq)
  have hbase : root.isBase = true := by simp [isBase, hpath]
  have htext : s.toList ≠ [] := mt String.toList_eq_nil_iff.mp hne
  simp only [join, resolve, trimEnds_eq_self h.padding, h.scheme, significant_eq_self h.kept, hhash, hbase, Bool.not_true,
    Bool.false_eq_true, if_false, beq_iff_eq]
  split
  · rename_i hkind
    exact readFile_verbatim hpath hkind (hfirst hkind) h htext hslash
  · rename_i hkind
    exact readRelative_verbatim hpath hkind h htext hslash

/-! ### The text of an extended root -/

theorem authority_extended (hpath : root.path = .segments (front ++ [""])) (hslash : cs.head? ≠ some '/') :
    (root.extended front cs).authority = root.authority := by
  obtain ⟨piece, pieces, hpieces⟩ := List.exists_cons_of_ne_nil (List.splitOn_ne_nil '/' (pathPart cs))
  have hsegments : (root.extended front cs).path = .segments (front ++ (piece :: pieces).map encodeSegment) := by
    rw [extended, hpieces]
  unfold authority
  rw [hpath, hsegments]
  cases hhost : root.host with
  | some host => simp [extended, hhost, userinfo]
  | none =>
    have hnone : (root.extended front cs).host = none := hhost
    rw [hnone]
    cases front with
    | cons first front =>
      by_cases hfirst : first = ""
      · subst hfirst
        cases front <;> rfl
      · split <;> split <;> simp_all
    | nil =>
      -- An empty first segment is the only one, so no dot is needed to set the path off.
      have hsetOff : ∀ second rest, (piece :: pieces).map encodeSegment ≠ "" :: second :: rest := by
        intro second rest heq
        obtain ⟨hempty, hmore⟩ := List.cons.inj heq
        rw [head_pieces hslash hpieces hempty] at hmore
        cases hmore
      split <;> split <;> simp_all

theorem text_segments (parts : List String) : (UriPath.segments parts).text.toList = parts.flatMap fun part => '/' :: part.toList := by
  simp [UriPath.text, List.flatMap_map]

theorem flatMap_encodeSegment {pieces : List (List Char)} (h : pieces ≠ []) :
    (pieces.map encodeSegment).flatMap (fun part => '/' :: part.toList) =
      '/' :: Text.Percent.encodeChars pathSet (List.intercalate ['/'] pieces) := by
  induction pieces with
  | nil => exact absurd rfl h
  | cons piece pieces ih =>
    cases pieces with
    | nil => simp [encodeSegment]
    | cons next pieces =>
      have hslash : Text.Percent.encodeChars pathSet ['/'] = ['/'] := by decide
      rw [List.map_cons, List.flatMap_cons, ih (by simp), List.intercalate_cons_cons, Text.Percent.encodeChars_append,
        Text.Percent.encodeChars_append, hslash]
      simp [encodeSegment]

/-- The text of a query, with its question mark. -/
def queryText (kind : SchemeKind) : List Char → List Char
  | _ :: query => '?' :: encodeQuery kind query
  | [] => []

theorem text_extended (hpath : root.path = .segments (front ++ [""])) (hquery : root.query = none) (hfragment : root.fragment = none)
    (hslash : cs.head? ≠ some '/') :
    (root.extended front cs).text.toList = root.text.toList ++
      (Text.Percent.encodeChars pathSet (pathPart cs) ++ queryText (schemeKind root.scheme) (queryPart cs)) := by
  have hjoin : List.intercalate ['/'] ((pathPart cs).splitOn '/') = pathPart cs := List.intercalate_splitOn '/'
  have hauthority := authority_extended hpath hslash
  have hsegments := flatMap_encodeSegment (List.splitOn_ne_nil '/' (pathPart cs))
  rw [hjoin] at hsegments
  have hquestion : (((readQuery (schemeKind root.scheme) (queryPart cs)).map ("?" ++ ·)).getD "").toList =
      queryText (schemeKind root.scheme) (queryPart cs) := by
    cases queryPart cs <;> simp [readQuery, queryText]
  rw [text, text, hauthority, hpath, hquery, hfragment]
  simp only [extended, hquestion, String.toList_append, text_segments, List.flatMap_append, hsegments]
  simp

theorem octets_encodeQuery (kind : SchemeKind) (query : List Char) :
    Text.Percent.octets (encodeQuery kind query) = Text.Percent.octets query := by
  rw [encodeQuery, Text.Percent.octets_encodeChars]
  split <;> exact Text.Percent.keepsEscapes_of_ascii rfl (by decide)

theorem Verbatim.decode_text (h : Verbatim kind cs) :
    Text.Percent.decode (String.ofList (Text.Percent.encodeChars pathSet (pathPart cs) ++ queryText kind (queryPart cs))) =
      String.ofList cs := by
  rw [← h.escape.decode, Text.Percent.decode, Text.Percent.decode, String.toList_ofList, String.toList_ofList]
  refine congrArg Text.Utf8.decode ?_
  conv_rhs => rw [← pathPart_append_queryPart cs]
  cases hquery : queryPart cs with
  | nil => rw [queryText, List.append_nil, List.append_nil, Text.Percent.octets_encodeChars keepsEscapes_pathSet]
  | cons c query =>
    obtain rfl := queryPart_head h c (by rw [hquery]; rfl)
    rw [queryText, Text.Percent.octets_append_cons (by decide), Text.Percent.octets_append_cons (by decide),
      Text.Percent.octets_cons (by decide), Text.Percent.octets_cons (by decide), octets_encodeQuery,
      Text.Percent.octets_encodeChars keepsEscapes_pathSet]

end

end SchemaBeans.Uri
