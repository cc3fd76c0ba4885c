import SchemaBeans.Proofs.Uri.Hosts
import SchemaBeans.Uri.File

/-! What every URI that was read has in common.

Slashes stand only before segments and after the scheme: none is in the scheme, in the authority or in a
segment. Dot segments are resolved, except that a file URI can keep one after a drive letter, and a file
URI has no empty segments before its first name (`Uri.resolve_normal`). -/

namespace SchemaBeans.Uri

/-! ### Dot segments -/

open Text.Percent (DotThen)

/-- Lowering moves the upper-case letters and nothing else. -/
theorem toLower_cases (c : Char) :
    c.toLower = c ∨ 0x41 ≤ c.toNat ∧ c.toNat ≤ 0x5A ∧ c.toLower.toNat = c.toNat + 0x20 := by
  unfold Char.toLower
  split
  · rename_i h
    have hlow : 0x41 ≤ c.val.toNat := h.1
    have hhigh : c.val.toNat ≤ 0x5A := h.2
    refine Or.inr ⟨hlow, hhigh, ?_⟩
    show (c.val + ('a'.val - 'A'.val)).toNat = c.val.toNat + 0x20
    rw [UInt32.toNat_add, show ('a'.val - 'A'.val).toNat = 0x20 from rfl]
    omega
  · exact Or.inl rfl

theorem eq_of_toLower {c d : Char} (h : c.toLower = d) (hd : d.toNat < 0x61) : c = d := by
  rcases toLower_cases c with heq | ⟨hlow, hhigh, heq⟩
  · exact heq.symm.trans h
  · rw [h] at heq
    omega

theorem eq_e_of_toLower {c : Char} (h : c.toLower = 'e') : c = 'E' ∨ c = 'e' := by
  rcases toLower_cases c with heq | ⟨hlow, hhigh, heq⟩
  · exact Or.inr (heq.symm.trans h)
  · rw [h] at heq
    exact Or.inl (Char.toNat_inj.mp (by simp at heq ⊢; omega))

theorem dotThen_iff_toLower {w cs : List Char} :
    (w.map Char.toLower = '.' :: cs ∨ w.map Char.toLower = '%' :: '2' :: 'e' :: cs) ↔
      ∃ rest, DotThen w rest ∧ rest.map Char.toLower = cs := by
  constructor
  · rintro (h | h)
    · obtain ⟨c, rest, rfl, hc, hrest⟩ := List.map_eq_cons_iff.mp h
      exact ⟨rest, Or.inl (by rw [eq_of_toLower hc (by decide)]), hrest⟩
    · obtain ⟨c, w, rfl, hc, h⟩ := List.map_eq_cons_iff.mp h
      obtain ⟨d, w, rfl, hd, h⟩ := List.map_eq_cons_iff.mp h
      obtain ⟨e, rest, rfl, he, hrest⟩ := List.map_eq_cons_iff.mp h
      rw [eq_of_toLower hc (by decide), eq_of_toLower hd (by decide)]
      rcases eq_e_of_toLower he with rfl | rfl
      · exact ⟨rest, Or.inr (Or.inl rfl), hrest⟩
      · exact ⟨rest, Or.inr (Or.inr rfl), hrest⟩
  · rintro ⟨rest, rfl | rfl | rfl, rfl⟩
    · exact Or.inl rfl
    · exact Or.inr rfl
    · exact Or.inr rfl

theorem dotThen_nil_iff_toLower {w : List Char} :
    (w.map Char.toLower = ['.'] ∨ w.map Char.toLower = ['%', '2', 'e']) ↔ DotThen w [] := by
  rw [dotThen_iff_toLower]
  simp

theorem isSingleDot_iff {w : List Char} : isSingleDot (String.ofList w) = true ↔ Text.Percent.decode (String.ofList w) = "." := by
  rw [Text.Percent.decode_eq_dot, ← dotThen_nil_iff_toLower]
  simp [isSingleDot, ← String.toList_inj]

theorem isDoubleDot_iff {w : List Char} : isDoubleDot (String.ofList w) = true ↔ Text.Percent.decode (String.ofList w) = ".." := by
  rw [Text.Percent.decode_eq_dots]
  simp only [← dotThen_nil_iff_toLower, and_or_left, exists_or, ← dotThen_iff_toLower]
  simp [isDoubleDot, ← String.toList_inj]
  tauto

/-! ### Segments -/

/-- A segment that stands for a step and not for a name. -/
def IsDots (s : String) : Prop := isDoubleDot s = true ∨ isSingleDot s = true

structure CleanSegments (kind : SchemeKind) (parts : List String) : Prop where
  slash : ∀ s ∈ parts, '/' ∉ s.toList
  /-- Only after a drive letter a dot segment can stay. -/
  dots : ∀ s ∈ parts, IsDots s → kind = .file ∧ parts.head?.any isDrive = true

section
variable {kind : SchemeKind} {done parts : List String} {piece : List Char}

theorem CleanSegments.nil (kind : SchemeKind) : CleanSegments kind [] := ⟨by simp, by simp⟩

theorem CleanSegments.append (h : CleanSegments kind parts) {others : List String}
    (hothers : ∀ s ∈ others, '/' ∉ s.toList ∧ ¬IsDots s) : CleanSegments kind (parts ++ others) := by
  refine ⟨fun s hs => ?_, fun s hs hdots => ?_⟩ <;> rcases List.mem_append.mp hs with hs | hs
  · exact h.slash s hs
  · exact (hothers s hs).1
  · obtain ⟨hkind, hdrive⟩ := h.dots s hs hdots
    refine ⟨hkind, ?_⟩
    obtain ⟨first, hfirst, hdrive⟩ := (Option.any_eq_true _ _).mp hdrive
    simp [List.head?_append, hfirst, hdrive]
  · exact absurd hdots (hothers s hs).2

theorem CleanSegments.dropLast (h : CleanSegments kind parts) : CleanSegments kind parts.dropLast := by
  refine ⟨fun s hs => h.slash s (List.dropLast_subset _ hs), fun s hs hdots => ?_⟩
  have hlength : 1 < parts.length := by
    have hpos := List.length_pos_of_mem hs
    rw [List.length_dropLast] at hpos
    omega
  rw [List.head?_dropLast, if_pos hlength]
  exact h.dots s (List.dropLast_subset _ hs) hdots

theorem CleanSegments.ofDrive (hslash : ∀ s ∈ parts, '/' ∉ s.toList) (hdrive : parts.head?.any isDrive = true) :
    CleanSegments .file parts :=
  ⟨hslash, fun _ _ _ => ⟨rfl, hdrive⟩⟩

theorem slash_not_mem_blank : ∀ s ∈ [""], '/' ∉ s.toList ∧ ¬IsDots s := by
  intro s hs
  rw [List.mem_singleton.mp hs]
  exact ⟨by decide, by rintro (h | h) <;> cases h⟩

theorem CleanSegments.blank (kind : SchemeKind) : CleanSegments kind [""] :=
  (CleanSegments.nil kind).append slash_not_mem_blank

theorem slash_not_mem_encodeSegment {cs : List Char} (h : '/' ∉ cs) : '/' ∉ (encodeSegment cs).toList := by
  rw [encodeSegment, String.toList_ofList]
  exact fun hmem => h (Text.Percent.of_mem_encodeChars (by decide) (by decide) hmem).1

theorem slash_not_mem_driveOf {cs : List Char} (h : '/' ∉ cs) : '/' ∉ (driveOf cs).toList := by
  rw [driveOf, String.toList_ofList]
  simpa using fun hmem => h (List.mem_of_mem_take hmem)

theorem mem_of_mem_significant {cs : List Char} {c : Char} (h : c ∈ significant cs) : c ∈ cs :=
  (List.mem_filter.mp h).1

theorem CleanSegments.parent (h : CleanSegments kind parts) : CleanSegments kind (Uri.parent parts) := by
  rw [Uri.parent]
  split
  · split
    · exact h
    · exact h.dropLast
  · exact .nil kind

theorem isDrive_driveOf {cs : List Char} (h : isDriveLetter cs = true) : isDrive (driveOf cs) = true := by
  unfold isDriveLetter at h
  split at h
  · rename_i a b
    simpa [driveOf, isDrive] using (Bool.and_eq_true_iff.mp h).1
  · cases h

theorem setOffDrive?_mem {drive rest : List Char} (h : setOffDrive? piece = some (drive, rest)) :
    isDriveLetter drive = true ∧ (∀ c ∈ drive, c ∈ piece ∨ c = ':') ∧ ∀ c ∈ rest, c ∈ piece := by
  rw [setOffDrive?] at h
  split at h
  · rename_i colon gap tail hdrop
    split at h
    · rename_i hletter
      cases h
      refine ⟨(Bool.and_eq_true_iff.mp (Bool.and_eq_true_iff.mp hletter).1).1, fun c hc => ?_, fun c hc => ?_⟩
      · rcases List.mem_append.mp (mem_of_mem_significant hc) with hc | hc
        · exact Or.inl (List.takeWhile_subset _ hc)
        · exact Or.inr (List.mem_singleton.mp hc)
      · have hmem : c ∈ piece.dropWhile (· != ':') := by
          rw [hdrop]
          simp [mem_of_mem_significant hc]
        exact List.dropWhile_subset _ hmem
    · cases h
  · cases h

theorem addSegment_cases (kind : SchemeKind) (done : List String) (piece : List Char) (last : Bool) :
    (kind = .file ∧ done = [] ∧ ((∃ drive rest, setOffDrive? piece = some (drive, rest) ∧
        addSegment kind done piece last = [driveOf drive, encodeSegment rest]) ∨
      isDriveLetter (significant piece) = true ∧ addSegment kind done piece last = [driveOf (significant piece)])) ∨
    (isDoubleDot (encodeSegment (significant piece)) = true ∧
      addSegment kind done piece last = parent done ++ if last then [""] else []) ∨
    (isSingleDot (encodeSegment (significant piece)) = true ∧
      addSegment kind done piece last = done ++ if last then [""] else []) ∨
    (isDoubleDot (encodeSegment (significant piece)) = false ∧ isSingleDot (encodeSegment (significant piece)) = false ∧
      addSegment kind done piece last = done ++ [encodeSegment (significant piece)]) := by
  rw [addSegment]
  split
  · rename_i drive rest hset
    -- A drive letter is set off only at the start of a file path.
    split at hset
    · rename_i hstart
      simp only [Bool.and_eq_true, beq_iff_eq, List.isEmpty_iff] at hstart
      exact Or.inl ⟨hstart.1, hstart.2, Or.inl ⟨drive, rest, hset, rfl⟩⟩
    · cases hset
  · split
    · rename_i hdots
      refine Or.inr (Or.inl ⟨hdots, ?_⟩)
      cases last <;> simp
    · rename_i hdots
      split
      · rename_i hdot
        refine Or.inr (Or.inr (Or.inl ⟨hdot, ?_⟩))
        cases last <;> simp
      · rename_i hdot
        split
        · rename_i hstart
          simp only [Bool.and_eq_true, beq_iff_eq, List.isEmpty_iff] at hstart
          exact Or.inl ⟨hstart.1.1, hstart.1.2, Or.inr ⟨hstart.2, rfl⟩⟩
        · exact Or.inr (Or.inr (Or.inr ⟨by simpa using hdots, by simpa using hdot, rfl⟩))

theorem CleanSegments.addSegment (h : CleanSegments kind done) (hpiece : '/' ∉ piece) (last : Bool) :
    CleanSegments kind (Uri.addSegment kind done piece last) := by
  have hsig : '/' ∉ significant piece := fun hmem => hpiece (mem_of_mem_significant hmem)
  have hblank : ∀ s ∈ if last then [""] else [], '/' ∉ s.toList ∧ ¬IsDots s := by
    cases last
    · simp
    · exact slash_not_mem_blank
  rcases addSegment_cases kind done piece last with
    ⟨rfl, -, ⟨drive, rest, hset, heq⟩ | ⟨hletter, heq⟩⟩ | ⟨-, heq⟩ | ⟨-, heq⟩ | ⟨hdots, hdot, heq⟩ <;> rw [heq]
  · obtain ⟨hletter, hdrive, hrest⟩ := setOffDrive?_mem hset
    refine .ofDrive (fun s hs => ?_) (isDrive_driveOf hletter)
    simp only [List.mem_cons, List.not_mem_nil, or_false] at hs
    rcases hs with rfl | rfl
    · exact slash_not_mem_driveOf fun hmem => (hdrive _ hmem).elim hpiece (by decide)
    · exact slash_not_mem_encodeSegment fun hmem => hpiece (hrest _ hmem)
  · refine .ofDrive (fun s hs => ?_) (isDrive_driveOf hletter)
    rw [List.mem_singleton.mp hs]
    exact slash_not_mem_driveOf hsig
  · exact h.parent.append hblank
  · exact h.append hblank
  · refine h.append fun s hs => ?_
    rw [List.mem_singleton.mp hs]
    refine ⟨slash_not_mem_encodeSegment hsig, ?_⟩
    rintro (hd | hd)
    · rw [hdots] at hd
      cases hd
    · rw [hdot] at hd
      cases hd

theorem CleanSegments.addSegments (h : CleanSegments kind done) {pieces : List (List Char)}
    (hpieces : ∀ piece ∈ pieces, '/' ∉ piece) : CleanSegments kind (Uri.addSegments kind done pieces) := by
  fun_induction Uri.addSegments kind done pieces with
  | case1 => exact h
  | case2 done piece => exact h.addSegment (hpieces piece List.mem_cons_self) true
  | case3 done piece rest _ ih =>
    exact ih (h.addSegment (hpieces piece List.mem_cons_self) false) fun p hp => hpieces p (List.mem_cons_of_mem _ hp)

theorem slash_not_mem_splitOnP {cs : List Char} : ∀ piece ∈ cs.splitOnP (isSlash kind), '/' ∉ piece := by
  intro piece hpiece hmem
  have hslash := (Text.of_mem_splitOnP hpiece '/' hmem).2
  cases kind <;> cases hslash

/-- Segments as a whole path has them: in a file URI the first one is empty only if it is the only one, and
    a special scheme has at least one. -/
structure NormalSegments (kind : SchemeKind) (parts : List String) : Prop extends CleanSegments kind parts where
  first : kind = .file → parts.head? = some "" → parts = [""]
  special : kind.isSpecial = true → parts ≠ []

theorem NormalSegments.blank (kind : SchemeKind) : NormalSegments kind [""] :=
  ⟨.blank kind, fun _ _ => rfl, fun _ => List.cons_ne_nil _ _⟩

theorem addSegments_ne_nil {pieces : List (List Char)} (h : pieces ≠ []) : Uri.addSegments kind done pieces ≠ [] := by
  fun_induction Uri.addSegments kind done pieces with
  | case1 => exact absurd rfl h
  | case2 done piece =>
    rcases addSegment_cases kind done piece true with
      ⟨-, -, ⟨_, _, -, heq⟩ | ⟨-, heq⟩⟩ | ⟨-, heq⟩ | ⟨-, heq⟩ | ⟨-, -, heq⟩ <;> simp [heq]
  | case3 done piece rest hrest ih => exact ih fun hnil => hrest hnil

theorem CleanSegments.normalizePath (h : CleanSegments kind parts) (hne : parts ≠ []) :
    NormalSegments kind (Uri.normalizePath kind parts) := by
  cases kind with
  | file =>
    unfold Uri.normalizePath
    dsimp only
    split
    · exact .blank _
    · rename_i hrest
      refine ⟨⟨fun s hs => h.slash s (List.dropWhile_subset _ hs), fun s hs hdots => ?_⟩, fun _ hhead => ?_, fun _ => hrest⟩
      · obtain ⟨hkind, hdrive⟩ := h.dots s (List.dropWhile_subset _ hs) hdots
        refine ⟨hkind, ?_⟩
        -- A drive letter at the start is not empty, so nothing is dropped.
        cases parts with
        | nil => cases hs
        | cons first rest =>
          have hfirst : (first == "") = false := by
            rw [beq_eq_false_iff_ne]
            rintro rfl
            cases hdrive
          rwa [List.dropWhile_cons, hfirst]
      · have hnot := List.head?_dropWhile_not (· == "") parts
        rw [hhead] at hnot
        cases hnot
  | special => exact ⟨h, nofun, fun _ => hne⟩
  | other => exact ⟨h, nofun, fun _ => hne⟩

theorem CleanSegments.readPath (h : CleanSegments kind done) (cs : List Char) :
    NormalSegments kind (Uri.readPath kind done cs) :=
  (h.addSegments slash_not_mem_splitOnP).normalizePath (addSegments_ne_nil (List.splitOnP_ne_nil _ _))

theorem normalSegments_pathAfterAuthority (kind : SchemeKind) (cs : List Char) :
    NormalSegments kind (pathAfterAuthority kind cs) := by
  unfold pathAfterAuthority
  split
  · split
    · exact .blank kind
    · rename_i hspecial
      exact ⟨.nil kind, nofun, fun h => absurd h hspecial⟩
  · split <;> exact (CleanSegments.nil kind).readPath _

end

/-! ### URIs -/

/-- A text that can stand before the colon of a URI. -/
def SchemeText (scheme : String) : Prop := ∀ c ∈ scheme.toList, c ≠ '/' ∧ c ≠ ':'

/-- What stands before the path has no slashes of its own, and in a special scheme a host. -/
structure Fronted (u : Uri) : Prop where
  scheme : SchemeText u.scheme
  username : '/' ∉ u.username.toList
  password : ∀ password, u.password = some password → '/' ∉ password.toList
  host : ∀ host, u.host = some host → '/' ∉ host.text.toList
  special : (schemeKind u.scheme).isSpecial = true → u.host.isSome = true

/-- A path as it stands after a host or without one. -/
def NormalPath (kind : SchemeKind) (host : Option Host) : UriPath → Prop
  | .segments parts => NormalSegments kind parts
  | .rootless text => host = none ∧ text.toList.head? ≠ some '/'

structure Normal (u : Uri) : Prop extends Fronted u where
  path : NormalPath (schemeKind u.scheme) u.host u.path

section
variable {u b : Uri} {base : Option Uri} {cs : List Char} {scheme : String}

theorem Normal.finish (h : u.Normal) (kind : SchemeKind) (text : List Char) : (finish kind u text).Normal :=
  ⟨⟨h.scheme, h.username, h.password, h.host, h.special⟩, h.path⟩

theorem Fronted.finishPath (h : u.Fronted) {kind : SchemeKind} {path : List Char → List String}
    (hpath : ∀ cs, NormalSegments (schemeKind u.scheme) (path cs)) (cs : List Char) : (finishPath kind u path cs).Normal := by
  have hu : Normal { u with path := .segments (path (cs.takeWhile (!endsPath ·))) } :=
    ⟨⟨h.scheme, h.username, h.password, h.host, h.special⟩, hpath _⟩
  exact hu.finish kind _

theorem Normal.segments (h : u.Normal) : CleanSegments (schemeKind u.scheme) u.segments := by
  rw [Uri.segments]
  split
  · rename_i parts hpath
    have hnormal := h.path
    rw [hpath] at hnormal
    exact hnormal.toCleanSegments
  · exact .nil _

theorem slash_not_mem_escape {cs : List Char} : '/' ∉ Text.Percent.encodeChars userinfoSet cs := fun hmem =>
  absurd (Text.Percent.of_mem_encodeChars (by decide) (by decide) hmem).2 (by decide)

theorem readUserinfo_slash (cs : List Char) :
    '/' ∉ (readUserinfo cs).1.toList ∧ ∀ password, (readUserinfo cs).2 = some password → '/' ∉ password.toList := by
  rw [readUserinfo]
  dsimp only
  split
  · refine ⟨by simpa using slash_not_mem_escape, fun password hpassword => ?_⟩
    cases hpassword
    simpa using slash_not_mem_escape
  · exact ⟨by simpa using slash_not_mem_escape, nofun⟩

theorem ok_of_bind {α β : Type} {x : Except UriError α} {f : α → Except UriError β} {result : β} (h : x >>= f = .ok result) :
    ∃ a, x = .ok a ∧ f a = .ok result := by
  cases x with
  | error cause => cases h
  | ok a => exact ⟨a, rfl, h⟩

theorem splitUserinfo_suffix (cs : List Char) : (splitUserinfo cs).2 <:+ cs := by
  unfold splitUserinfo
  split
  · exact List.suffix_refl cs
  · simpa using List.reverse_suffix.mpr (List.takeWhile_prefix (· != '@') (l := cs.reverse))

theorem splitHost_suffix (cs : List Char) : ∀ brackets done, (splitHost brackets done cs).2 <:+ cs := by
  induction cs with
  | nil => exact fun _ _ => List.suffix_refl []
  | cons c rest ih =>
    intro brackets done
    rw [splitHost]
    split
    · exact List.suffix_refl _
    · exact (ih _ _).trans (List.suffix_cons c rest)

theorem readPort_suffix {port : Option Nat} {rest : List Char} (h : readPort scheme cs = .ok (port, rest)) : rest <:+ cs := by
  rw [readPort] at h
  split at h
  · cases h
  · split at h <;> cases h <;> exact List.dropWhile_suffix _

theorem afterSlashes_ok (h : afterSlashes scheme cs = .ok u) :
    ∃ user host port rest, (∀ c, isDelimiter c = true → c ∉ host.text.toList) ∧ rest.Sublist cs ∧ u = finishPath (schemeKind scheme)
      { scheme := scheme, username := (readUserinfo user).1, password := (readUserinfo user).2, host := some host
        port := port, path := .segments [], query := none, fragment := none }
      (pathAfterAuthority (schemeKind scheme)) rest := by
  have hrest {p : Char → Bool} {afterPort : List Char} (hafter : afterPort <:+ (splitUserinfo (cs.takeWhile p)).2) :
      (afterPort ++ cs.dropWhile p).Sublist cs := by
    conv_rhs => rw [← @List.takeWhile_append_dropWhile _ p cs]
    exact (hafter.trans (splitUserinfo_suffix _)).sublist.append (List.Sublist.refl _)
  unfold afterSlashes at h
  dsimp only at h
  split at h
  · cases h
  · split at h
    all_goals
      obtain ⟨host, hhost, h⟩ := ok_of_bind h
      obtain ⟨⟨port, afterPort⟩, hport, h⟩ := ok_of_bind h
      have hsuffix := (readPort_suffix hport).trans (List.drop_suffix 1 _)
      refine ⟨_, host, port, _, ?_, hrest (hsuffix.trans (splitHost_suffix _ _ _)), (Except.ok.inj h).symm⟩
    · exact fun c hc => Host.delimiter_not_mem_special hc hhost
    · exact fun c hc => Host.delimiter_not_mem_other hc hhost

theorem afterSlashes_normal (hscheme : SchemeText scheme) (h : afterSlashes scheme cs = .ok u) : u.Normal := by
  obtain ⟨user, host, port, rest, hhost, -, rfl⟩ := afterSlashes_ok h
  obtain ⟨hname, hpassword⟩ := readUserinfo_slash user
  refine Fronted.finishPath ⟨hscheme, hname, hpassword, ?_, fun _ => rfl⟩ (normalSegments_pathAfterAuthority _) rest
  rintro _ ⟨⟩
  exact hhost '/' rfl

theorem fileUri_fronted {host : Host} (h : '/' ∉ host.text.toList) (parts : List String) : (fileUri host parts).Fronted := by
  refine ⟨?_, ?_, nofun, ?_, fun _ => rfl⟩
  · show ∀ c ∈ "file".toList, c ≠ '/' ∧ c ≠ ':'
    simp
  · show '/' ∉ "".toList
    decide
  · rintro _ ⟨⟩
    exact h

theorem slash_not_mem_domain : '/' ∉ (Host.domain "").text.toList := by decide

theorem delimiter_not_mem_readFileHost {c : Char} (hc : isDelimiter c = true) {host : Host} (h : readFileHost cs = .ok host) :
    c ∉ host.text.toList := by
  have hempty : c ∉ (Host.domain "").text.toList := List.not_mem_nil
  rw [readFileHost] at h
  split at h
  · cases h
    exact hempty
  · cases hread : Host.special cs with
    | error cause =>
      rw [hread] at h
      cases h
    | ok read =>
      rw [hread] at h
      cases h
      dsimp only
      split
      · exact hempty
      · exact Host.delimiter_not_mem_special hc hread

theorem fileAfterSlashes_normal (h : fileAfterSlashes cs = .ok u) : u.Normal := by
  unfold fileAfterSlashes at h
  dsimp only at h
  split at h
  · cases h
    exact (fileUri_fronted slash_not_mem_domain []).finishPath (fun cs => (CleanSegments.nil .file).readPath cs) cs
  · obtain ⟨host, hhost, h⟩ := ok_of_bind h
    have hslash : '/' ∉ host.text.toList := delimiter_not_mem_readFileHost rfl hhost
    split at h
    · cases h
      exact (fileUri_fronted hslash []).finishPath (fun cs => (CleanSegments.nil .file).readPath cs) _
    · cases h
      refine Fronted.finishPath (fileUri_fronted ?_ []) (fun _ => ?_) _
      · split
        · exact slash_not_mem_domain
        · exact hslash
      · exact ((CleanSegments.nil .file).addSegments slash_not_mem_splitOnP).normalizePath
          (addSegments_ne_nil (List.splitOnP_ne_nil _ _))

theorem Normal.withQuery (h : u.Normal) (query fragment : Option String) :
    Normal { u with query := query, fragment := fragment } :=
  ⟨⟨h.scheme, h.username, h.password, h.host, h.special⟩, h.path⟩

theorem CleanSegments.readBelow {parts : List String} (h : CleanSegments .file parts) (cs : List Char) :
    NormalSegments .file (Uri.readBelow parts cs) := by
  unfold Uri.readBelow
  have hfront : CleanSegments .file parts.dropLast := h.dropLast
  split
  · dsimp only
    split
    · exact hfront.readPath _
    · split
      · exact h.readPath _
      · exact hfront.readPath _
  · exact (CleanSegments.nil .file).readPath _

theorem slash_not_mem_baseHost (h : b.Normal) : '/' ∉ (b.host.getD (.domain "")).text.toList := by
  cases hhost : b.host with
  | none => exact slash_not_mem_domain
  | some host => exact h.host host hhost

theorem fileRooted_normal (hbase : ∀ b, base = some b → b.Normal ∧ schemeKind b.scheme = .file) (cs : List Char) :
    (readFile.fileRooted base cs).Normal := by
  -- The path starts where the host or the drive letter of the base ends.
  have hstart {host : Host} {parts : List String} (hhost : '/' ∉ host.text.toList) (hparts : CleanSegments .file parts) :
      (finishPath .file (fileUri host parts) (readPath .file (fileUri host parts).segments) cs).Normal :=
    (fileUri_fronted hhost parts).finishPath (fun cs => hparts.readPath cs) cs
  unfold readFile.fileRooted
  cases base with
  | none => exact hstart slash_not_mem_domain (.nil _)
  | some b =>
    obtain ⟨hb, hkind⟩ := hbase b rfl
    dsimp only
    split
    · exact hstart slash_not_mem_domain (.nil _)
    · split
      · rename_i first rest hparts
        split
        · rename_i hdrive
          have hsegments := hb.segments
          rw [hkind, hparts] at hsegments
          exact hstart slash_not_mem_domain (.ofDrive (by simpa using hsegments.slash first List.mem_cons_self) hdrive)
        · exact hstart (slash_not_mem_baseHost hb) (.nil _)
      · exact hstart (slash_not_mem_baseHost hb) (.nil _)

theorem fileRelative_normal (hbase : ∀ b, base = some b → b.Normal ∧ schemeKind b.scheme = .file) (c : Char) (cs : List Char) :
    (readFile.fileRelative base c cs).Normal := by
  have hstart : (finishPath .file (fileUri (.domain "") []) (readPath .file []) cs).Normal :=
    (fileUri_fronted slash_not_mem_domain []).finishPath (fun cs => (CleanSegments.nil .file).readPath cs) cs
  unfold readFile.fileRelative
  cases base with
  | none => exact hstart
  | some b =>
    obtain ⟨hb, hkind⟩ := hbase b rfl
    dsimp only
    split
    · exact hb.finish _ _
    · split
      · exact hb.withQuery _ _
      · split
        · exact hstart
        · refine hb.toFronted.finishPath (fun cs => ?_) cs
          rw [hkind]
          have hsegments := hb.segments
          rw [hkind] at hsegments
          exact hsegments.readBelow cs

theorem readFile_cases (h : readFile base cs = .ok u) :
    (cs.dropWhile isDropped = [] ∧ u = base.elim (fileUri (.domain "") [""]) fun b => { b with fragment := none }) ∨
    (∃ c rest, cs.dropWhile isDropped = c :: rest ∧ isAnySlash c = true ∧
      ((∃ after, after.Sublist rest ∧ fileAfterSlashes after = .ok u) ∨ u = readFile.fileRooted base rest)) ∨
    (∃ c rest, cs.dropWhile isDropped = c :: rest ∧ isAnySlash c = false ∧ u = readFile.fileRelative base c (c :: rest)) := by
  unfold readFile at h
  split at h
  · rename_i hcs
    refine Or.inl ⟨hcs, ?_⟩
    cases base <;> exact (Except.ok.inj h).symm
  · rename_i c rest hcs
    split at h
    · rename_i hslash
      exact Or.inr (Or.inr ⟨c, rest, hcs, by simpa using hslash, (Except.ok.inj h).symm⟩)
    · rename_i hslash
      refine Or.inr (Or.inl ⟨c, rest, hcs, by simpa using hslash, ?_⟩)
      split at h
      · rename_i d after hrest
        split at h
        · have hsub : (d :: after).Sublist rest := hrest ▸ List.dropWhile_sublist _
          exact Or.inl ⟨after, (List.sublist_cons_self d after).trans hsub, h⟩
        · exact Or.inr (Except.ok.inj h).symm
      · exact Or.inr (Except.ok.inj h).symm

theorem readFile_normal (hbase : ∀ b, base = some b → b.Normal ∧ schemeKind b.scheme = .file) (h : readFile base cs = .ok u) :
    u.Normal := by
  rcases readFile_cases h with ⟨-, rfl⟩ | ⟨_, _, -, -, ⟨_, -, hafter⟩ | rfl⟩ | ⟨_, _, -, -, rfl⟩
  · cases base with
    | none => exact ⟨fileUri_fronted slash_not_mem_domain _, .blank _⟩
    | some b => exact (hbase b rfl).1.withQuery _ none
  · exact fileAfterSlashes_normal hafter
  · exact fileRooted_normal hbase _
  · exact fileRelative_normal hbase _ _

theorem readRelative_cases (h : readRelative b cs = .ok u) :
    (cs = [] ∧ u = { b with fragment := none }) ∨
    (cs.head? = some '?' ∧ u = finish (schemeKind b.scheme) b cs) ∨
    (cs.head? = some '#' ∧ u = { finish (schemeKind b.scheme) b cs with query := b.query }) ∨
    (∃ c rest, cs = c :: rest ∧ isAnySlash c = true ∧
      ((∃ after, after.Sublist rest ∧ afterSlashes b.scheme after = .ok u) ∨
        u = finishPath (schemeKind b.scheme) b (readPath (schemeKind b.scheme) []) rest)) ∨
    (∃ c rest, cs = c :: rest ∧ isAnySlash c = false ∧
      u = finishPath (schemeKind b.scheme) b (readPath (schemeKind b.scheme) b.segments.dropLast) cs) := by
  unfold readRelative at h
  split at h
  · exact Or.inl ⟨rfl, (Except.ok.inj h).symm⟩
  · rename_i c rest
    split at h
    · rename_i hc
      exact Or.inr (Or.inl ⟨congrArg some (beq_iff_eq.mp hc), (Except.ok.inj h).symm⟩)
    · split at h
      · rename_i hc
        exact Or.inr (Or.inr (Or.inl ⟨congrArg some (beq_iff_eq.mp hc), (Except.ok.inj h).symm⟩))
      · split at h
        · rename_i hslash
          refine Or.inr (Or.inr (Or.inr (Or.inl ⟨c, rest, rfl, hslash, ?_⟩)))
          split at h
          · rename_i after heq
            cases heq
            exact Or.inl ⟨after, List.sublist_cons_self _ _, h⟩
          · split at h
            · refine Or.inl ⟨_, ?_, h⟩
              rw [List.dropWhile_cons_of_pos hslash]
              exact List.dropWhile_sublist _
            · exact Or.inr (Except.ok.inj h).symm
        · rename_i hslash
          exact Or.inr (Or.inr (Or.inr (Or.inr ⟨c, rest, rfl, Bool.eq_false_iff.mpr hslash, (Except.ok.inj h).symm⟩)))

theorem readRelative_normal (hb : b.Normal) (h : readRelative b cs = .ok u) : u.Normal := by
  rcases readRelative_cases h with
    ⟨-, rfl⟩ | ⟨-, rfl⟩ | ⟨-, rfl⟩ | ⟨_, _, -, -, ⟨_, -, hafter⟩ | rfl⟩ | ⟨_, _, -, -, rfl⟩
  · exact hb.withQuery _ _
  · exact hb.finish _ _
  · exact hb.withQuery _ _
  · exact afterSlashes_normal hb.scheme hafter
  · exact hb.toFronted.finishPath (fun cs => (CleanSegments.nil _).readPath cs) _
  · exact hb.toFronted.finishPath (fun cs => hb.segments.dropLast.readPath cs) _

theorem plain_fronted (hscheme : SchemeText scheme) (hkind : schemeKind scheme = .other) (path : UriPath) :
    (readOther.plain scheme path).Fronted := by
  have hother : schemeKind (readOther.plain scheme path).scheme = .other := hkind
  refine ⟨hscheme, ?_, nofun, nofun, fun hspecial => ?_⟩
  · show '/' ∉ "".toList
    decide
  · rw [hother] at hspecial
    cases hspecial

theorem readOther_normal (hscheme : SchemeText scheme) (hkind : schemeKind scheme = .other) (h : readOther scheme cs = .ok u) :
    u.Normal := by
  unfold readOther at h
  split at h
  · exact afterSlashes_normal hscheme h
  · cases h
    refine (plain_fronted hscheme hkind _).finishPath (fun cs => ?_) _
    rw [show schemeKind (readOther.plain scheme _).scheme = .other from hkind]
    exact (CleanSegments.nil _).readPath cs
  · rename_i hslash
    cases h
    refine Normal.finish ⟨plain_fronted hscheme hkind _, ?_⟩ _ _
    refine And.intro rfl ?_
    -- Escaping leaves the first character or makes it a percent sign.
    rw [String.toList_ofList]
    cases cs with
    | nil => decide
    | cons c cs =>
      rw [List.takeWhile_cons]
      split
      · obtain ⟨d, rest, heq, rfl | rfl⟩ := Text.Percent.head_encodeChars Text.Percent.isControl c
          (cs.takeWhile (!endsPath ·)) <;> rw [heq]
        · rintro ⟨⟩
          exact hslash _ rfl
        · simp
      · decide

theorem splitScheme?_text {rest : List Char} (h : splitScheme? cs = some (scheme, rest)) : SchemeText scheme := by
  unfold splitScheme? at h
  dsimp only at h
  split at h
  · rename_i c name tail hname hrest
    split at h
    · cases h
      intro d hd
      rw [String.toList_ofList, List.mem_map] at hd
      obtain ⟨e, he, rfl⟩ := hd
      rw [← hname, significant, List.mem_filter] at he
      have hdropped : isDropped e = false := by simpa using he.2
      have hscheme : isSchemeChar e = true := by
        simpa [hdropped] using List.all_eq_true.mp List.all_takeWhile e he.1
      -- The lower case of a letter is a letter, and other characters stay as they are.
      rcases toLower_cases e with hlower | ⟨hlow, hhigh, hlower⟩
      · rw [hlower]
        constructor <;> rintro rfl <;> cases hscheme
      · constructor <;> intro heq <;> rw [heq] at hlower
        · exact absurd hlower (by have : ('/').toNat = 0x2F := rfl; omega)
        · exact absurd hlower (by have : (':').toNat = 0x3A := rfl; omega)
    · cases h
  · cases h

theorem readScheme_normal (hbase : ∀ b, base = some b → b.Normal) (hscheme : SchemeText scheme)
    (h : readScheme base scheme cs = .ok u) : u.Normal := by
  unfold readScheme at h
  dsimp only at h
  split at h
  · refine readFile_normal (fun b hb => ?_) h
    obtain ⟨hb, hfile⟩ := Option.filter_eq_some_iff.mp hb
    rw [beq_iff_eq.mp hfile]
    exact ⟨hbase b hb, rfl⟩
  · split at h
    · split at h
      · exact readRelative_normal (hbase _ rfl) h
      · exact afterSlashes_normal hscheme h
    · exact afterSlashes_normal hscheme h
  · rename_i hkind
    exact readOther_normal hscheme hkind h

/-- Whatever is read is normal. -/
theorem resolve_normal (hbase : ∀ b, base = some b → b.Normal) {s : String} (h : resolve base s = .ok u) : u.Normal := by
  unfold resolve at h
  dsimp only at h
  split at h
  · rename_i hsplit
    exact readScheme_normal hbase (splitScheme?_text hsplit) h
  · cases h
  · rename_i b hsplit
    have hb := hbase b rfl
    split at h
    · cases h
      exact hb.withQuery _ _
    · split at h
      · cases h
      · split at h
        · rename_i hkind
          refine readFile_normal (fun b' hb' => ?_) h
          cases hb'
          exact ⟨hb, beq_iff_eq.mp hkind⟩
        · exact readRelative_normal hb h

theorem Normal.withoutFragment (h : u.Normal) : u.withoutFragment.Normal := by
  rw [Uri.withoutFragment]
  split
  · rename_i text hpath hquery
    have hnormal := h.path
    rw [hpath] at hnormal
    refine ⟨⟨h.scheme, h.username, h.password, h.host, h.special⟩, hnormal.1, fun hhead => hnormal.2 ?_⟩
    -- Only the end of the path is cut off.
    obtain ⟨tail, htail⟩ : (dropTrailingSpaces text).toList <+: text.toList := by
      rw [dropTrailingSpaces, String.toList_ofList]
      simpa using List.reverse_prefix.mpr (List.dropWhile_suffix (· == ' ') (l := text.toList.reverse))
    rw [← htail, List.head?_append, hhead]
    rfl
  · exact ⟨⟨h.scheme, h.username, h.password, h.host, h.special⟩, h.path⟩

theorem withDrive_cons (kind : SchemeKind) (first : String) (rest : List String) :
    withDrive kind (first :: rest) = first :: rest ∨
      kind = .file ∧ isDriveLetter first.toList = true ∧ withDrive kind (first :: rest) = driveOf first.toList :: rest := by
  simp only [withDrive, Bool.and_eq_true, decide_eq_true_eq]
  split
  · rename_i hdrive
    exact Or.inr ⟨hdrive.1, hdrive.2, rfl⟩
  · exact Or.inl rfl

theorem driveOf_ne_empty (cs : List Char) : driveOf cs ≠ "" := by
  intro h
  have htext := congrArg String.toList h
  simp [driveOf] at htext

theorem NormalSegments.close {kind : SchemeKind} {parts : List String} (h : NormalSegments kind parts) :
    NormalSegments kind (if parts.getLast? = some "" then parts else withDrive kind parts ++ [""]) := by
  split
  · exact h
  · rename_i hlast
    cases parts with
    | nil => exact .blank kind
    | cons first rest =>
      rcases withDrive_cons kind first rest with heq | ⟨rfl, hletter, heq⟩ <;> rw [heq]
      · refine ⟨h.append slash_not_mem_blank, fun hkind hhead => ?_, fun _ => List.cons_ne_nil _ _⟩
        rw [h.first hkind hhead] at hlast
        exact absurd rfl hlast
      · refine ⟨.ofDrive (fun s hs => ?_) (isDrive_driveOf hletter), fun _ hhead => ?_, fun _ => List.cons_ne_nil _ _⟩
        · simp only [List.cons_append, List.mem_cons, List.mem_append, List.not_mem_nil, or_false] at hs
          rcases hs with rfl | hs | rfl
          · exact slash_not_mem_driveOf (h.slash first List.mem_cons_self)
          · exact h.slash s (List.mem_cons_of_mem first hs)
          · decide
        · exact absurd (Option.some.inj hhead) (driveOf_ne_empty _)

theorem Normal.asRoot (h : u.Normal) : u.asRoot.Normal := by
  refine ⟨⟨h.scheme, h.username, h.password, h.host, h.special⟩, ?_⟩
  have hpath := h.path
  show NormalPath (schemeKind u.scheme) u.host (closePath (schemeKind u.scheme) u.path)
  unfold closePath
  split
  · rename_i parts hparts
    rw [hparts] at hpath
    exact hpath.close
  · rename_i htext
    rw [htext] at hpath
    exact ⟨hpath.1, by decide⟩
  · rename_i text hne htext
    rw [htext] at hpath
    refine And.intro hpath.1 ?_
    split
    · exact hpath.2
    · rw [String.toList_append, List.head?_append_of_ne_nil]
      · exact hpath.2
      · simpa using hne

/-- A path from the root by names only. -/
def IsPlainPath (path : String) : Prop := ∀ part ∈ Path.parts path, part = .root ∨ ∃ name, part = .name name

/-- The URIs that a run can come to. -/
inductive Obtained : Uri → Prop
  | parse {s : String} {u : Uri} (h : Uri.parse s = .ok u) : Obtained u
  | ofDirectory {path : String} (h : IsPlainPath path) : Obtained (Uri.ofDirectory path)
  | asRoot {u : Uri} (h : Obtained u) : Obtained u.asRoot
  | join {b u : Uri} {reference : String} (hb : Obtained b) (h : b.join reference = .ok u) : Obtained u
  | withFragment {u : Uri} (h : Obtained u) (fragment : String) : Obtained (u.withFragment fragment)
  | withoutFragment {u : Uri} (h : Obtained u) : Obtained u.withoutFragment

theorem name_of_mem_parts {path name : String} (h : .name name ∈ Path.parts path) : name ≠ "" ∧ name ≠ "." ∧ name ≠ ".." := by
  have hpiece : PathPart.name name ∈ (Text.pieces '/' path).filterMap PathPart.ofPiece? := by
    rw [Path.parts] at h
    repeat' split at h
    all_goals simpa using h
  obtain ⟨piece, -, hof⟩ := List.mem_filterMap.mp hpiece
  rw [PathPart.ofPiece?] at hof
  repeat' split at hof
  all_goals cases hof
  rename_i hidle hup
  simpa [not_or, and_assoc] using And.intro hidle hup

theorem ofDirectory_normal {path : String} (h : IsPlainPath path) : (ofDirectory path).Normal := by
  refine ⟨fileUri_fronted slash_not_mem_domain _, ?_⟩
  show NormalSegments .file _
  -- A file name is escaped, so it has no slash, and decoding it gives the name back.
  have hsegment : ∀ s ∈ ((Path.parts path).filter (· ≠ .root)).map fun part => Text.Percent.encode fileNameSet part.text,
      s ≠ "" ∧ '/' ∉ s.toList ∧ ¬IsDots s := by
    intro s hs
    obtain ⟨part, hpart, rfl⟩ := List.mem_map.mp hs
    obtain ⟨hmem, hroot⟩ := List.mem_filter.mp hpart
    obtain ⟨name, rfl⟩ := (h part hmem).resolve_left (by simpa using hroot)
    obtain ⟨hempty, hdot, hdots⟩ := name_of_mem_parts hmem
    have hdecode : Text.Percent.decode (Text.Percent.encode fileNameSet name) = name := Text.Percent.decode_encode rfl name
    refine ⟨fun heq => hempty ?_, fun hslash => ?_, ?_⟩
    · rw [← hdecode]
      exact congrArg Text.Percent.decode heq
    · rw [Text.Percent.encode, String.toList_ofList] at hslash
      cases (Text.Percent.of_mem_encodeChars (by decide) (by decide) hslash).2
    · rintro (h | h)
      · exact hdots (hdecode.symm.trans (isDoubleDot_iff.mp h))
      · exact hdot (hdecode.symm.trans (isSingleDot_iff.mp h))
  generalize ((Path.parts path).filter (· ≠ .root)).map _ = parts at hsegment
  refine ⟨((CleanSegments.nil .file).append fun s hs => (hsegment s hs).2).append slash_not_mem_blank, fun _ hhead => ?_,
    fun _ => List.append_ne_nil_of_right_ne_nil _ (List.cons_ne_nil _ _)⟩
  cases parts with
  | nil => rfl
  | cons first rest => exact absurd (Option.some.inj hhead) (hsegment first List.mem_cons_self).1

theorem Obtained.normal (h : u.Obtained) : u.Normal := by
  induction h with
  | parse h => exact resolve_normal (by simp) h
  | ofDirectory h => exact ofDirectory_normal h
  | asRoot _ ih => exact ih.asRoot
  | join _ h ih =>
    refine resolve_normal (fun b hb => ?_) h
    cases hb
    exact ih
  | withFragment _ fragment ih => exact ih.withQuery _ _
  | withoutFragment _ ih => exact ih.withoutFragment

end

end SchemaBeans.Uri
