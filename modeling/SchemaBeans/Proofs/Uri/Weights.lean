import SchemaBeans.Proofs.Text.Weight
import SchemaBeans.Proofs.Uri.References

/-! How much of a reference its URI spells.

Slashes apart, path and query of what is read spell at most as many characters as the base and the
reference had. Whatever reading drops, follows or takes for something else makes it fewer, so that only a
reference that is resolved as it is written keeps them all. -/

namespace SchemaBeans.Uri
open Text (bulk)
open Text.Percent (weight total IsPlainMark)

/-! ### Segments -/

def pathWeight (parts : List String) : Nat := total (parts.map String.toList)

section
variable {kind : SchemeKind} {done parts : List String} {piece cs : List Char}

theorem pathWeight_nil : pathWeight [] = 0 := rfl

theorem pathWeight_cons (part : String) (parts : List String) : pathWeight (part :: parts) = weight part.toList + pathWeight parts :=
  Text.Percent.total_cons _ _

theorem pathWeight_append (parts others : List String) : pathWeight (parts ++ others) = pathWeight parts + pathWeight others := by
  rw [pathWeight, List.map_append, Text.Percent.total_append, pathWeight, pathWeight]

theorem pathWeight_sublist {others : List String} (h : parts.Sublist others) : pathWeight parts ≤ pathWeight others :=
  Text.Percent.total_le (h.map _)

theorem pathWeight_parent (parts : List String) : pathWeight (parent parts) ≤ pathWeight parts := by
  rw [parent]
  split
  · split
    · exact Nat.le_refl _
    · exact pathWeight_sublist (List.dropLast_sublist parts)
  · exact Nat.zero_le _

theorem weight_encodeSegment (cs : List Char) : weight (encodeSegment cs).toList = weight cs := by
  rw [encodeSegment, String.toList_ofList, Text.Percent.weight_encodeChars keepsEscapes_pathSet]

theorem decode_of_isDots (h : IsDots (encodeSegment cs)) :
    Text.Percent.decode (String.ofList cs) = ".." ∨ Text.Percent.decode (String.ofList cs) = "." := by
  rw [← Text.Percent.decode_encodeChars keepsEscapes_pathSet]
  exact h.imp isDoubleDot_iff.mp isSingleDot_iff.mp

theorem weight_eq_bulk_decode (cs : List Char) : weight cs = bulk (Text.Percent.decode (String.ofList cs)).toList := by
  rw [Text.Percent.decode, Text.Utf8.decode, String.toList_ofList, String.toList_ofList, weight]

theorem weight_of_isDots (h : IsDots (encodeSegment cs)) : 0 < weight cs := by
  rw [weight_eq_bulk_decode]
  rcases decode_of_isDots h with h | h <;> rw [h] <;> decide

theorem eq_of_isDriveLetter (h : isDriveLetter cs = true) : ∃ a b, cs = [a, b] ∧ a.isAlpha = true ∧ (b = ':' ∨ b = '|') := by
  unfold isDriveLetter at h
  split at h
  · rename_i a b
    exact ⟨a, b, rfl, (Bool.and_eq_true_iff.mp h).1, by simpa using (Bool.and_eq_true_iff.mp h).2⟩
  · cases h

theorem weight_driveOf (h : isDriveLetter cs = true) (rest : List Char) :
    weight (driveOf cs).toList + weight rest = weight (cs ++ rest) := by
  obtain ⟨a, b, rfl, -, hb⟩ := eq_of_isDriveLetter h
  have hmark : IsPlainMark b ∧ b ≠ '/' := by rcases hb with rfl | rfl <;> decide
  have hcut : ∀ c, IsPlainMark c ∧ c ≠ '/' → ∀ more, weight (a :: c :: more) = weight [a] + (1 + weight more) := by
    intro c hc more
    simpa [hc.2] using Text.Percent.weight_append_cons hc.1 [a] more
  have hdrive : (driveOf [a, b]).toList = [a, ':'] := by simp [driveOf]
  rw [hdrive, hcut ':' (by decide), List.cons_append, List.cons_append, List.nil_append, hcut b hmark, Text.Percent.weight_nil]
  omega

theorem not_isDots_of_isDriveLetter (h : isDriveLetter cs = true) (rest : List Char) : ¬IsDots (encodeSegment (cs ++ rest)) := by
  obtain ⟨a, b, rfl, ha, -⟩ := eq_of_isDriveLetter h
  intro hdots
  obtain ⟨more, hstart⟩ : ∃ more, Text.Percent.DotThen (a :: b :: rest) more := by
    rcases decode_of_isDots hdots with hdecode | hdecode
    · obtain ⟨more, hstart, -⟩ := Text.Percent.decode_eq_dots.mp hdecode
      exact ⟨more, hstart⟩
    · exact ⟨[], Text.Percent.decode_eq_dot.mp hdecode⟩
  rcases hstart with heq | heq | heq <;> rw [(List.cons.inj heq).1] at ha <;> cases ha

theorem significant_append (cs ds : List Char) : significant (cs ++ ds) = significant cs ++ significant ds := List.filter_append cs ds

theorem setOffDrive?_eq_some {drive rest : List Char} (h : setOffDrive? piece = some (drive, rest)) :
    significant piece = drive ++ rest := by
  have hcut : piece.takeWhile (· != ':') ++ piece.dropWhile (· != ':') = piece := List.takeWhile_append_dropWhile
  have hcolon := List.head?_dropWhile_not (· != ':') piece
  rw [setOffDrive?] at h
  split at h
  · rename_i colon gap tail hdrop
    rw [hdrop] at hcut hcolon
    obtain rfl : colon = ':' := by simpa using hcolon
    split at h
    · rename_i hletter
      have hgap : isDropped gap = true := (Bool.and_eq_true_iff.mp (Bool.and_eq_true_iff.mp hletter).1).2
      -- The character between the colon and the rest is dropped.
      have hmore : significant (':' :: gap :: tail) = significant [':'] ++ significant tail := by
        have hcolon : isDropped ':' = false := rfl
        simp [significant, hgap, hcolon]
      cases h
      conv_lhs => rw [← hcut]
      rw [significant_append, significant_append, hmore, List.append_assoc]
    · cases h
  · cases h

theorem addSegment_weight (kind : SchemeKind) (done : List String) (piece : List Char) (last : Bool) :
    pathWeight (addSegment kind done piece last) ≤ pathWeight done + weight (significant piece) ∧
      (IsDots (encodeSegment (significant piece)) →
        pathWeight (addSegment kind done piece last) < pathWeight done + weight (significant piece)) := by
  have hblank : pathWeight (if last then [""] else []) = 0 := by cases last <;> rfl
  have hparent := pathWeight_parent done
  rcases addSegment_cases kind done piece last with
    ⟨rfl, rfl, ⟨drive, rest, hset, heq⟩ | ⟨hletter, heq⟩⟩ | ⟨hdots, heq⟩ | ⟨hdot, heq⟩ | ⟨hdots, hdot, heq⟩ <;> rw [heq]
  -- A drive letter is no dot segment, so only the bound has to be shown.
  · have hletter := (setOffDrive?_mem hset).1
    have hdrive := weight_driveOf hletter rest
    rw [setOffDrive?_eq_some hset, pathWeight_cons, pathWeight_cons, weight_encodeSegment, pathWeight_nil]
    exact ⟨by omega, fun hdots => absurd hdots (not_isDots_of_isDriveLetter hletter rest)⟩
  · have hdrive := weight_driveOf hletter []
    have hdots := not_isDots_of_isDriveLetter hletter []
    rw [List.append_nil] at hdrive hdots
    rw [pathWeight_cons, pathWeight_nil]
    exact ⟨by omega, fun h => absurd h hdots⟩
  · have hpos := weight_of_isDots (Or.inl hdots)
    rw [pathWeight_append, hblank]
    exact ⟨by omega, fun _ => by omega⟩
  · have hpos := weight_of_isDots (Or.inr hdot)
    rw [pathWeight_append, hblank]
    exact ⟨by omega, fun _ => by omega⟩
  · rw [pathWeight_append, pathWeight_cons, weight_encodeSegment]
    refine ⟨Nat.le_refl _, ?_⟩
    rintro (hd | hd)
    · rw [hdots] at hd
      cases hd
    · rw [hdot] at hd
      cases hd

theorem addSegments_weight (kind : SchemeKind) (done : List String) (pieces : List (List Char)) :
    pathWeight (addSegments kind done pieces) ≤ pathWeight done + total (pieces.map significant) ∧
      ((∃ piece ∈ pieces, IsDots (encodeSegment (significant piece))) →
        pathWeight (addSegments kind done pieces) < pathWeight done + total (pieces.map significant)) := by
  fun_induction addSegments kind done pieces with
  | case1 => simp
  | case2 done piece => simpa [Text.Percent.total_singleton] using addSegment_weight kind done piece true
  | case3 done piece rest _ ih =>
    obtain ⟨hle, hlt⟩ := addSegment_weight kind done piece false
    rw [List.map_cons, Text.Percent.total_cons]
    refine ⟨by omega, ?_⟩
    rintro ⟨dots, hmem, hdots⟩
    rcases List.mem_cons.mp hmem with rfl | hmem
    · have := hlt hdots
      omega
    · have := ih.2 ⟨dots, hmem, hdots⟩
      omega

theorem normalizePath_weight (kind : SchemeKind) (parts : List String) : pathWeight (normalizePath kind parts) ≤ pathWeight parts := by
  cases kind with
  | file =>
    unfold normalizePath
    dsimp only
    split
    · exact Nat.zero_le _
    · exact pathWeight_sublist (List.dropWhile_sublist _)
  | special => exact Nat.le_refl _
  | other => exact Nat.le_refl _

theorem isPlainMark_isSlash {c : Char} (h : isSlash kind c = true) : IsPlainMark c ∧ isDropped c = false := by
  have hc : c = '/' ∨ c = '\\' := by
    rcases Bool.or_eq_true_iff.mp h with h | h
    · exact Or.inl (beq_iff_eq.mp h)
    · exact Or.inr (beq_iff_eq.mp (Bool.and_eq_true_iff.mp h).2)
  rcases hc with rfl | rfl <;> decide

/-- A path adds at most what it spells, and less where it has backslashes for slashes or dot segments. -/
theorem readPath_weight (kind : SchemeKind) (done : List String) (cs : List Char) :
    pathWeight (readPath kind done cs) ≤ pathWeight done + weight (significant cs) ∧
      (kind.isSpecial = true → pathWeight (readPath kind done cs) = pathWeight done + weight (significant cs) →
        '\\' ∉ cs ∧ ∀ piece ∈ cs.splitOnP (isSlash kind), ¬IsDots (encodeSegment (significant piece))) := by
  have hmark : ∀ c, isSlash kind c = true → IsPlainMark c := fun c hc => (isPlainMark_isSlash hc).1
  have hkept : ∀ c, isSlash kind c = true → (!isDropped c) = true := fun c hc => by simp [(isPlainMark_isSlash hc).2]
  have hsum : total ((cs.splitOnP (isSlash kind)).map significant) + cs.countP (fun c => isSlash kind c && c != '/') =
      weight (significant cs) := Text.Percent.total_splitOnP hmark hkept cs
  obtain ⟨hle, hlt⟩ := addSegments_weight kind done (cs.splitOnP (isSlash kind))
  have hnormal := normalizePath_weight kind (addSegments kind done (cs.splitOnP (isSlash kind)))
  rw [readPath]
  refine ⟨by omega, fun hkind heq => ⟨fun hback => ?_, fun piece hpiece hdots => ?_⟩⟩
  · have hcount : 0 < cs.countP fun c => isSlash kind c && c != '/' :=
      List.countP_pos_iff.mpr ⟨_, hback, by simp [isSlash, hkind]⟩
    omega
  · have := hlt ⟨piece, hpiece, hdots⟩
    omega

/-- The number of characters that count, slashes apart. -/
def size (cs : List Char) : Nat := bulk (significant cs)

theorem size_le {ds : List Char} (h : cs.Sublist ds) : size cs ≤ size ds := Text.bulk_le (h.filter _)

theorem size_le_bulk (cs : List Char) : size cs ≤ bulk cs := Text.bulk_le List.filter_sublist

theorem size_significant (cs : List Char) : size (significant cs) = size cs := by
  simp [size, significant]

theorem isDropped_eq_false_of_size (h : bulk cs ≤ size cs) : ∀ c ∈ cs, isDropped c = false := by
  intro c hc
  rw [← Bool.not_eq_true]
  intro hdropped
  have hslash : c ≠ '/' := by
    rintro rfl
    cases hdropped
  have hgone : c ∉ significant cs := by simp [significant, hdropped]
  have hlt := Text.bulk_lt List.filter_sublist hslash hc hgone
  exact absurd h (Nat.not_le.mpr hlt)

theorem readPath_le (kind : SchemeKind) (done : List String) (cs : List Char) :
    pathWeight (readPath kind done cs) ≤ pathWeight done + size cs :=
  Nat.le_trans (readPath_weight kind done cs).1 (Nat.add_le_add_left (Text.Percent.weight_le _) _)

theorem pathAfterAuthority_le (kind : SchemeKind) (cs : List Char) : pathWeight (pathAfterAuthority kind cs) ≤ size cs := by
  unfold pathAfterAuthority
  split
  · split <;> exact Nat.zero_le _
  · rename_i c rest
    split
    · have hread := readPath_le kind [] rest
      have hle := size_le (List.sublist_cons_self c rest)
      rw [pathWeight_nil] at hread
      omega
    · simpa [pathWeight_nil] using readPath_le kind [] (c :: rest)

end

/-! ### References -/

/-- What path and query of a URI spell. -/
def spelled (u : Uri) : Nat := pathWeight u.segments + (u.query.map fun query => 1 + weight query.toList).getD 0

/-- What a reference spells before its fragment. -/
def content (cs : List Char) : Nat := weight ((significant cs).takeWhile (· != '#'))

section
variable {u b : Uri} {kind : SchemeKind} {scheme : String} {cs : List Char} {front : List String}

theorem content_le (cs : List Char) : content cs ≤ size cs :=
  Nat.le_trans (Text.Percent.weight_le _) (Text.bulk_le (List.takeWhile_sublist _))

theorem of_content_eq (h : content cs = bulk cs) : (∀ c ∈ cs, isDropped c = false) ∧ '#' ∉ cs ∧ Text.Percent.NoEscape cs := by
  have hcontent := content_le cs
  have hkept := isDropped_eq_false_of_size (by omega : bulk cs ≤ size cs)
  rw [content, significant_eq_self hkept] at h
  have hweight := Text.Percent.weight_le (cs.takeWhile (· != '#'))
  have hhash : '#' ∉ cs := by
    intro hmem
    have hlt : bulk (cs.takeWhile (· != '#')) < bulk cs :=
      Text.bulk_lt (List.takeWhile_sublist _) (by decide) hmem fun htaken => by
        cases List.all_eq_true.mp List.all_takeWhile '#' htaken
    omega
  have hself : cs.takeWhile (· != '#') = cs :=
    List.takeWhile_eq_self_iff.mpr fun c hc => bne_iff_ne.mpr fun hc' => hhash (hc' ▸ hc)
  refine ⟨hkept, hhash, by_contra fun hescape => ?_⟩
  have hlt := Text.Percent.weight_lt hescape
  rw [hself] at h
  omega

theorem content_cut (cs : List Char) : weight (significant (pathPart cs)) + content (queryPart cs) = content cs := by
  have hends := List.head?_dropWhile_not (!endsPath ·) cs
  -- The path ends before a hash, so the fragment is cut off the query only.
  have hpath : ∀ c ∈ significant (pathPart cs), (c != '#') = true := by
    intro c hc
    have hends := List.all_eq_true.mp List.all_takeWhile c (mem_of_mem_significant hc)
    refine bne_iff_ne.mpr ?_
    rintro rfl
    cases hends
  have hcut : content cs = weight (significant (pathPart cs) ++ (significant (queryPart cs)).takeWhile (· != '#')) := by
    rw [content, ← List.takeWhile_append_of_pos hpath, ← significant_append, pathPart_append_queryPart]
  rw [hcut, content]
  cases hquery : queryPart cs with
  | nil => simp [significant, Text.Percent.weight_nil]
  | cons c query =>
    rw [← queryPart, hquery] at hends
    have hends : endsPath c = true := by simpa using hends
    have hc : c = '?' ∨ c = '#' := by simpa [endsPath] using hends
    rcases hc with rfl | rfl
    · have hkept : (significant ('?' :: query)).takeWhile (· != '#') = '?' :: (significant query).takeWhile (· != '#') := rfl
      rw [hkept, Text.Percent.weight_append_cons (by decide), Text.Percent.weight_cons (by decide)]
    · have hnone : (significant ('#' :: query)).takeWhile (· != '#') = [] := rfl
      rw [hnone, List.append_nil, Text.Percent.weight_nil, Nat.add_zero]

theorem finish_spelled (kind : SchemeKind) (u : Uri) (text : List Char) :
    spelled (finish kind u text) ≤ pathWeight u.segments + content text := by
  have hsegments : (finish kind u text).segments = u.segments := rfl
  rw [spelled, hsegments, content]
  refine Nat.add_le_add_left ?_ _
  simp only [finish]
  split
  · rename_i query hbefore
    have hweight : weight (encodeQuery kind query) = weight query := by rw [weight, octets_encodeQuery, weight]
    rw [encodeQuery] at hweight
    rw [hbefore, Text.Percent.weight_cons (by decide)]
    simp [hweight]
  · exact Nat.zero_le _

theorem finishPath_spelled (kind : SchemeKind) (u : Uri) (path : List Char → List String) (cs : List Char) :
    spelled (finishPath kind u path cs) ≤ pathWeight (path (pathPart cs)) + content (queryPart cs) :=
  finish_spelled kind _ _

theorem finishPath_le {path : List Char → List String} (h : pathWeight (path (pathPart cs)) ≤ size (pathPart cs)) :
    spelled (finishPath kind u path cs) ≤ size cs := by
  have hspelled := finishPath_spelled kind u path cs
  have hquery := content_le (queryPart cs)
  have hcut : size (pathPart cs) + size (queryPart cs) = size cs := by
    rw [size, size, ← Text.bulk_append, ← significant_append, pathPart_append_queryPart, size]
  omega

theorem finishPath_readPath_le (kind : SchemeKind) (u : Uri) (done : List String) (cs : List Char) :
    spelled (finishPath kind u (readPath kind done) cs) ≤ pathWeight done + size cs := by
  have hspelled := finishPath_spelled kind u (readPath kind done) cs
  have hread := (readPath_weight kind done (pathPart cs)).1
  have hcut := content_cut cs
  have hcontent := content_le cs
  omega

theorem finishPath_root_le (kind : SchemeKind) (u : Uri) (cs : List Char) :
    spelled (finishPath kind u (readPath kind []) cs) ≤ size cs := by
  have hle := finishPath_readPath_le kind u [] cs
  rwa [pathWeight_nil, Nat.zero_add] at hle

theorem pathWeight_le_spelled (u : Uri) : pathWeight u.segments ≤ spelled u := Nat.le_add_right _ _

theorem finish_le (kind : SchemeKind) (u : Uri) (text : List Char) : spelled (finish kind u text) ≤ spelled u + size text := by
  have hfinish := finish_spelled kind u text
  have hcontent := content_le text
  have hpath := pathWeight_le_spelled u
  omega

theorem afterSlashes_le (h : afterSlashes scheme cs = .ok u) : u.scheme = scheme ∧ spelled u ≤ size cs := by
  obtain ⟨user, host, port, rest, -, hrest, rfl⟩ := afterSlashes_ok h
  exact ⟨rfl, Nat.le_trans (finishPath_le (pathAfterAuthority_le _ _)) (size_le hrest)⟩

theorem readRelative_le (h : readRelative b cs = .ok u) : u.scheme = b.scheme ∧ spelled u ≤ spelled b + size cs := by
  have hpath := pathWeight_le_spelled b
  rcases readRelative_cases h with
    ⟨-, rfl⟩ | ⟨-, rfl⟩ | ⟨-, rfl⟩ | ⟨c, rest, rfl, -, ⟨after, hafter, h⟩ | rfl⟩ | ⟨c, rest, rfl, -, rfl⟩
  · exact ⟨rfl, Nat.le_add_right _ _⟩
  · exact ⟨rfl, finish_le _ _ _⟩
  · exact ⟨rfl, Nat.le_add_right _ _⟩
  · obtain ⟨hscheme, hle⟩ := afterSlashes_le h
    have hsize := size_le (hafter.trans (List.sublist_cons_self c rest))
    exact ⟨hscheme, by omega⟩
  · have hread := finishPath_root_le (schemeKind b.scheme) b rest
    have hsize := size_le (List.sublist_cons_self c rest)
    exact ⟨rfl, by omega⟩
  · have hread := finishPath_readPath_le (schemeKind b.scheme) b b.segments.dropLast (c :: rest)
    have hfront := pathWeight_sublist (List.dropLast_sublist b.segments)
    exact ⟨rfl, by omega⟩

theorem fileAfterSlashes_le (h : fileAfterSlashes cs = .ok u) : u.scheme = "file" ∧ spelled u ≤ size cs := by
  unfold fileAfterSlashes at h
  dsimp only at h
  split at h
  · cases h
    exact ⟨rfl, finishPath_root_le _ _ _⟩
  · obtain ⟨host, -, h⟩ := ok_of_bind h
    generalize hrest : cs.dropWhile (fun c => !isAnySlash c && !endsPath c) = rest at h
    have hsize := size_le (hrest ▸ List.dropWhile_sublist _ : rest.Sublist cs)
    split at h
    · cases h
      exact ⟨rfl, Nat.le_trans (finishPath_root_le _ _ _) hsize⟩
    · cases h
      have hread := readPath_le .file [] ((pathPart rest).drop 1)
      have hdrop := size_le (List.drop_sublist 1 (pathPart rest))
      rw [pathWeight_nil, Nat.zero_add] at hread
      exact ⟨rfl, Nat.le_trans (finishPath_le (Nat.le_trans hread hdrop)) hsize⟩

/-- A base that ends in a slash. -/
def IsClosed (b : Uri) (front : List String) : Prop := b.path = .segments (front ++ [""])

theorem IsClosed.segments (h : IsClosed b front) : b.segments = front ++ [""] := by rw [Uri.segments, h]

theorem IsClosed.pathWeight_le (h : IsClosed b front) : pathWeight front ≤ spelled b := by
  have hpath := pathWeight_le_spelled b
  rw [h.segments, pathWeight_append] at hpath
  omega

theorem IsClosed.readBelow (h : IsClosed b front) : readBelow b.segments = readPath .file front := by
  funext cs
  simp [h.segments, Uri.readBelow, isDrive]

theorem finishPath_fileRoot_le (host : Host) (cs : List Char) (n : Nat) :
    spelled (finishPath .file (fileUri host []) (readPath .file []) cs) ≤ n + size cs :=
  Nat.le_trans (finishPath_root_le _ _ _) (Nat.le_add_left _ _)

theorem fileRooted_le (base : Option Uri) (cs : List Char) :
    spelled (readFile.fileRooted base cs) ≤ base.elim 0 spelled + size cs := by
  unfold readFile.fileRooted
  cases base with
  | none => exact finishPath_fileRoot_le _ _ _
  | some b =>
    dsimp only
    split
    · exact finishPath_fileRoot_le _ _ _
    · split
      · rename_i first rest hsegments
        split
        · have hpath := pathWeight_le_spelled b
          have hread := finishPath_readPath_le .file (fileUri (.domain "") [first]) [first] cs
          rw [hsegments, pathWeight_cons] at hpath
          rw [pathWeight_cons, pathWeight_nil] at hread
          exact Nat.le_trans hread (Nat.add_le_add_right (by rw [Option.elim_some]; omega) _)
        · exact finishPath_fileRoot_le _ _ _
      · exact finishPath_fileRoot_le _ _ _

theorem fileRelative_le {base : Option Uri} (hbase : ∀ b, base = some b → ∃ front, IsClosed b front) (c : Char) (cs : List Char) :
    spelled (readFile.fileRelative base c cs) ≤ base.elim 0 spelled + size cs := by
  unfold readFile.fileRelative
  cases base with
  | none => exact finishPath_fileRoot_le _ _ _
  | some b =>
    obtain ⟨front, hclosed⟩ := hbase b rfl
    dsimp only
    split
    · exact finish_le _ _ _
    · split
      · exact Nat.le_add_right _ _
      · split
        · exact finishPath_fileRoot_le _ _ _
        · rw [hclosed.readBelow]
          exact Nat.le_trans (finishPath_readPath_le .file b front cs) (Nat.add_le_add_right hclosed.pathWeight_le _)

theorem fileRelative_scheme {base : Option Uri} (hbase : ∀ b, base = some b → b.scheme = "file") (c : Char) (cs : List Char) :
    (readFile.fileRelative base c cs).scheme = "file" := by
  unfold readFile.fileRelative
  cases base with
  | none => rfl
  | some b =>
    have hscheme := hbase b rfl
    dsimp only
    split
    · exact hscheme
    · split
      · exact hscheme
      · split
        · rfl
        · exact hscheme

theorem fileRooted_scheme (base : Option Uri) (cs : List Char) : (readFile.fileRooted base cs).scheme = "file" := by
  unfold readFile.fileRooted
  cases base with
  | none => rfl
  | some b =>
    dsimp only
    split
    · rfl
    · split
      · split <;> rfl
      · rfl

theorem readFile_le {base : Option Uri} (hbase : ∀ b, base = some b → b.scheme = "file" ∧ ∃ front, IsClosed b front)
    (h : readFile base cs = .ok u) : u.scheme = "file" ∧ spelled u ≤ base.elim 0 spelled + size cs := by
  have hdrop := size_le (List.dropWhile_sublist isDropped (l := cs))
  rcases readFile_cases h with
    ⟨-, rfl⟩ | ⟨c, rest, hcs, -, ⟨after, hafter, h⟩ | rfl⟩ | ⟨c, rest, hcs, -, rfl⟩
  · cases base with
    | none => exact ⟨rfl, Nat.zero_le _⟩
    | some b => exact ⟨(hbase b rfl).1, Nat.le_add_right _ _⟩
  · obtain ⟨hscheme, hle⟩ := fileAfterSlashes_le h
    have hsize := size_le (hafter.trans (List.sublist_cons_self c rest))
    rw [hcs] at hdrop
    exact ⟨hscheme, by omega⟩
  · have hle := fileRooted_le base rest
    have hsize := size_le (List.sublist_cons_self c rest)
    rw [hcs] at hdrop
    exact ⟨fileRooted_scheme base rest, by omega⟩
  · have hle := fileRelative_le (fun b hb => (hbase b hb).2) c (c :: rest)
    rw [hcs] at hdrop
    exact ⟨fileRelative_scheme (fun b hb => (hbase b hb).1) c _, by omega⟩

end

end SchemaBeans.Uri
