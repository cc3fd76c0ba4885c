import SchemaBeans.Proofs.Uri.Texts

/-! Where the fragment of a URI starts.

A scheme has no hash, nor has a host, and in all that is escaped a hash is. So in the text of a URI that was
read the first hash is the one before the fragment, and texts with fragments are the same only if the
fragments and all that stands before them are (`Uri.text_eq_iff`). -/

namespace SchemaBeans.Uri

theorem hash_not_mem_encodeChars {set : Char → Bool} (hset : set '#' = true) (cs : List Char) :
    '#' ∉ Text.Percent.encodeChars set cs := by
  intro hmem
  rw [(Text.Percent.of_mem_encodeChars (by decide) (by decide) hmem).2] at hset
  cases hset

/-! ### Segments -/

/-- Segments without a hash. -/
def Unhashed (parts : List String) : Prop := ∀ part ∈ parts, '#' ∉ part.toList

section
variable {kind : SchemeKind} {done parts others : List String}

theorem Unhashed.nil : Unhashed [] := nofun

theorem Unhashed.blank : Unhashed [""] := by simp [Unhashed]

theorem Unhashed.append (h : Unhashed parts) (hothers : Unhashed others) : Unhashed (parts ++ others) := by
  intro part hpart
  exact (List.mem_append.mp hpart).elim (h part) (hothers part)

theorem Unhashed.subset (h : Unhashed parts) (hsub : others ⊆ parts) : Unhashed others := fun part hpart => h part (hsub hpart)

theorem Unhashed.parent (h : Unhashed parts) : Unhashed (Uri.parent parts) := by
  rw [Uri.parent]
  split
  · split
    · exact h
    · exact h.subset (List.dropLast_subset parts)
  · exact .nil

theorem hash_not_mem_encodeSegment (cs : List Char) : '#' ∉ (encodeSegment cs).toList := by
  rw [encodeSegment, String.toList_ofList]
  exact hash_not_mem_encodeChars rfl cs

theorem hash_not_mem_driveOf {cs : List Char} (h : isDriveLetter cs = true) : '#' ∉ (driveOf cs).toList := by
  unfold isDriveLetter at h
  split at h
  · rename_i a b
    have ha : '#' ≠ a := by
      rintro rfl
      cases h
    simpa [driveOf] using ha
  · cases h

theorem Unhashed.addSegment (h : Unhashed done) (piece : List Char) (last : Bool) :
    Unhashed (Uri.addSegment kind done piece last) := by
  have hblank : Unhashed (if last then [""] else []) := by
    cases last
    · exact .nil
    · exact .blank
  rcases addSegment_cases kind done piece last with
    ⟨-, -, ⟨drive, rest, hset, heq⟩ | ⟨hletter, heq⟩⟩ | ⟨-, heq⟩ | ⟨-, heq⟩ | ⟨-, -, heq⟩ <;> rw [heq]
  · simp [Unhashed, hash_not_mem_driveOf (setOffDrive?_mem hset).1, hash_not_mem_encodeSegment]
  · simp [Unhashed, hash_not_mem_driveOf hletter]
  · exact h.parent.append hblank
  · exact h.append hblank
  · exact h.append (by simp [Unhashed, hash_not_mem_encodeSegment])

theorem Unhashed.addSegments (h : Unhashed done) (pieces : List (List Char)) : Unhashed (Uri.addSegments kind done pieces) := by
  fun_induction Uri.addSegments kind done pieces with
  | case1 => exact h
  | case2 done piece => exact h.addSegment piece true
  | case3 done piece rest _ ih => exact ih (h.addSegment piece false)

theorem Unhashed.normalizePath (h : Unhashed parts) : Unhashed (Uri.normalizePath kind parts) := by
  unfold Uri.normalizePath
  split
  · split
    · exact .blank
    · exact h.subset (List.dropWhile_subset _)
  · exact h

theorem Unhashed.readPath (h : Unhashed done) (cs : List Char) : Unhashed (Uri.readPath kind done cs) :=
  (h.addSegments _).normalizePath

theorem unhashed_pathAfterAuthority (kind : SchemeKind) (cs : List Char) : Unhashed (pathAfterAuthority kind cs) := by
  unfold pathAfterAuthority
  split
  · split
    · exact .blank
    · exact .nil
  · split <;> exact Unhashed.nil.readPath _

theorem Unhashed.readBelow (h : Unhashed parts) (cs : List Char) : Unhashed (Uri.readBelow parts cs) := by
  have hfront : Unhashed parts.dropLast := h.subset (List.dropLast_subset parts)
  unfold Uri.readBelow
  split
  · dsimp only
    split
    · exact hfront.readPath _
    · split
      · exact h.readPath _
      · exact hfront.readPath _
  · exact Unhashed.nil.readPath _

theorem Unhashed.close (h : Unhashed parts) :
    Unhashed (if parts.getLast? = some "" then parts else withDrive kind parts ++ [""]) := by
  split
  · exact h
  · refine Unhashed.append ?_ .blank
    cases parts with
    | nil => exact h
    | cons first rest =>
      rcases withDrive_cons kind first rest with heq | ⟨-, hletter, heq⟩ <;> rw [heq]
      · exact h
      · intro part hpart
        rcases List.mem_cons.mp hpart with rfl | hpart
        · exact hash_not_mem_driveOf hletter
        · exact h part (List.mem_cons_of_mem first hpart)

end

/-! ### URIs -/

/-- What stands before the path has no hash. -/
structure UnhashedFront (u : Uri) : Prop where
  scheme : '#' ∉ u.scheme.toList
  username : '#' ∉ u.username.toList
  password : ∀ password, u.password = some password → '#' ∉ password.toList
  host : ∀ host, u.host = some host → '#' ∉ host.text.toList

def UnhashedPath : UriPath → Prop
  | .segments parts => Unhashed parts
  | .rootless text => '#' ∉ text.toList

/-- Nothing before the fragment has a hash. -/
structure HashFree (u : Uri) : Prop extends UnhashedFront u where
  path : UnhashedPath u.path
  query : ∀ query, u.query = some query → '#' ∉ query.toList

section
variable {u b : Uri} {base : Option Uri} {cs : List Char} {scheme : String}

theorem HashFree.segments (h : u.HashFree) : Unhashed u.segments := by
  have hpath := h.path
  rw [Uri.segments]
  split
  · rename_i parts hparts
    rwa [hparts] at hpath
  · exact .nil

theorem HashFree.withFragmentOf (h : u.HashFree) (fragment : Option String) : HashFree { u with fragment := fragment } :=
  ⟨⟨h.scheme, h.username, h.password, h.host⟩, h.path, h.query⟩

/-- Of a text that follows the path only the query stands before the fragment, and it is escaped. -/
theorem UnhashedFront.finish (h : u.UnhashedFront) (hpath : UnhashedPath u.path) (kind : SchemeKind) (text : List Char) :
    (finish kind u text).HashFree := by
  refine ⟨⟨h.scheme, h.username, h.password, h.host⟩, hpath, fun query hquery => ?_⟩
  rw [Uri.finish] at hquery
  dsimp only at hquery
  split at hquery <;> cases hquery
  rw [String.toList_ofList]
  refine hash_not_mem_encodeChars ?_ _
  split <;> rfl

theorem UnhashedFront.finishPath (h : u.UnhashedFront) {path : List Char → List String} (hpath : ∀ cs, Unhashed (path cs))
    (kind : SchemeKind) (cs : List Char) : (finishPath kind u path cs).HashFree := by
  have hu : UnhashedFront { u with path := .segments (path (cs.takeWhile (!endsPath ·))) } :=
    ⟨h.scheme, h.username, h.password, h.host⟩
  exact hu.finish (hpath _) kind _

theorem readUserinfo_hash (cs : List Char) :
    '#' ∉ (readUserinfo cs).1.toList ∧ ∀ password, (readUserinfo cs).2 = some password → '#' ∉ password.toList := by
  have hescape (cs : List Char) : '#' ∉ (String.ofList (Text.Percent.encodeChars userinfoSet cs)).toList := by
    rw [String.toList_ofList]
    exact hash_not_mem_encodeChars rfl cs
  rw [readUserinfo]
  dsimp only
  split
  · refine ⟨hescape _, fun password hpassword => ?_⟩
    cases hpassword
    exact hescape _
  · refine ⟨hescape _, fun password hpassword => ?_⟩
    cases hpassword

theorem afterSlashes_hashFree (hscheme : '#' ∉ scheme.toList) (h : afterSlashes scheme cs = .ok u) : u.HashFree := by
  obtain ⟨user, host, port, rest, hhost, -, rfl⟩ := afterSlashes_ok h
  obtain ⟨hname, hpassword⟩ := readUserinfo_hash user
  refine UnhashedFront.finishPath ⟨hscheme, hname, hpassword, ?_⟩ (unhashed_pathAfterAuthority _) _ rest
  rintro _ ⟨⟩
  exact hhost '#' rfl

theorem fileUri_unhashedFront {host : Host} (h : '#' ∉ host.text.toList) (parts : List String) :
    (fileUri host parts).UnhashedFront := by
  refine ⟨?_, ?_, nofun, ?_⟩
  · show '#' ∉ "file".toList
    decide
  · exact List.not_mem_nil
  · rintro _ ⟨⟩
    exact h

theorem hash_not_mem_domain : '#' ∉ (Host.domain "").text.toList := List.not_mem_nil

theorem fileAfterSlashes_hashFree (h : fileAfterSlashes cs = .ok u) : u.HashFree := by
  unfold fileAfterSlashes at h
  dsimp only at h
  split at h
  · cases h
    exact (fileUri_unhashedFront hash_not_mem_domain []).finishPath (fun cs => Unhashed.nil.readPath cs) _ cs
  · obtain ⟨host, hhost, h⟩ := ok_of_bind h
    have hhash : '#' ∉ host.text.toList := delimiter_not_mem_readFileHost rfl hhost
    split at h
    · cases h
      exact (fileUri_unhashedFront hhash []).finishPath (fun cs => Unhashed.nil.readPath cs) _ _
    · cases h
      refine UnhashedFront.finishPath (fileUri_unhashedFront ?_ []) (fun _ => (Unhashed.nil.addSegments _).normalizePath) _ _
      split
      · exact hash_not_mem_domain
      · exact hhash

theorem fileRooted_hashFree (hbase : ∀ b, base = some b → b.HashFree) (cs : List Char) :
    (readFile.fileRooted base cs).HashFree := by
  have hstart {host : Host} {parts : List String} (hhost : '#' ∉ host.text.toList) (hparts : Unhashed parts) :
      (finishPath .file (fileUri host parts) (readPath .file (fileUri host parts).segments) cs).HashFree :=
    (fileUri_unhashedFront hhost parts).finishPath (fun cs => hparts.readPath cs) _ cs
  unfold readFile.fileRooted
  cases base with
  | none => exact hstart hash_not_mem_domain .nil
  | some b =>
    have hb := hbase b rfl
    have hhost : '#' ∉ (b.host.getD (.domain "")).text.toList := by
      cases hhost : b.host with
      | none => exact hash_not_mem_domain
      | some host => exact hb.host host hhost
    dsimp only
    split
    · exact hstart hash_not_mem_domain .nil
    · split
      · rename_i first rest hparts
        have hfirst := hb.segments
        rw [hparts] at hfirst
        split
        · exact hstart hash_not_mem_domain (hfirst.subset (by simp))
        · exact hstart hhost .nil
      · exact hstart hhost .nil

theorem HashFree.finish (h : u.HashFree) (kind : SchemeKind) (text : List Char) : (finish kind u text).HashFree :=
  h.toUnhashedFront.finish h.path kind text

theorem fileRelative_hashFree (hbase : ∀ b, base = some b → b.HashFree) (c : Char) (cs : List Char) :
    (readFile.fileRelative base c cs).HashFree := by
  have hstart : (finishPath .file (fileUri (.domain "") []) (readPath .file []) cs).HashFree :=
    (fileUri_unhashedFront hash_not_mem_domain []).finishPath (fun cs => Unhashed.nil.readPath cs) _ cs
  unfold readFile.fileRelative
  cases base with
  | none => exact hstart
  | some b =>
    have hb := hbase b rfl
    dsimp only
    split
    · exact hb.finish _ _
    · split
      · exact hb.withFragmentOf _
      · split
        · exact hstart
        · exact hb.toUnhashedFront.finishPath (fun cs => hb.segments.readBelow cs) _ cs

theorem readFile_hashFree (hbase : ∀ b, base = some b → b.HashFree) (h : readFile base cs = .ok u) : u.HashFree := by
  rcases readFile_cases h with ⟨-, rfl⟩ | ⟨_, _, -, -, ⟨_, -, hafter⟩ | rfl⟩ | ⟨_, _, -, -, rfl⟩
  · cases base with
    | none => exact ⟨fileUri_unhashedFront hash_not_mem_domain _, Unhashed.blank, nofun⟩
    | some b => exact (hbase b rfl).withFragmentOf none
  · exact fileAfterSlashes_hashFree hafter
  · exact fileRooted_hashFree hbase _
  · exact fileRelative_hashFree hbase _ _

theorem readRelative_hashFree (hb : b.HashFree) (h : readRelative b cs = .ok u) : u.HashFree := by
  have hfront := hb.segments.subset (List.dropLast_subset _)
  rcases readRelative_cases h with
    ⟨-, rfl⟩ | ⟨-, rfl⟩ | ⟨-, rfl⟩ | ⟨_, _, -, -, ⟨_, -, hafter⟩ | rfl⟩ | ⟨_, _, -, -, rfl⟩
  · exact hb.withFragmentOf _
  · exact hb.finish _ _
  · exact hb.withFragmentOf _
  · exact afterSlashes_hashFree hb.scheme hafter
  · exact hb.toUnhashedFront.finishPath (fun cs => Unhashed.nil.readPath cs) _ _
  · exact hb.toUnhashedFront.finishPath (fun cs => hfront.readPath cs) _ _

theorem plain_unhashedFront (hscheme : '#' ∉ scheme.toList) (path : UriPath) : (readOther.plain scheme path).UnhashedFront :=
  ⟨hscheme, List.not_mem_nil, nofun, nofun⟩

theorem readOther_hashFree (hscheme : '#' ∉ scheme.toList) (h : readOther scheme cs = .ok u) : u.HashFree := by
  unfold readOther at h
  split at h
  · exact afterSlashes_hashFree hscheme h
  · cases h
    exact (plain_unhashedFront hscheme _).finishPath (fun cs => Unhashed.nil.readPath cs) _ _
  · cases h
    refine (plain_unhashedFront hscheme _).finish ?_ _ _
    show '#' ∉ _
    -- The path ends before the first hash.
    rw [String.toList_ofList]
    intro hmem
    have htaken := (Text.Percent.of_mem_encodeChars (by decide) (by decide) hmem).1
    exact absurd (List.all_eq_true.mp List.all_takeWhile _ htaken) (by decide)

theorem hash_not_mem_scheme {rest : List Char} (h : splitScheme? cs = some (scheme, rest)) : '#' ∉ scheme.toList := by
  unfold splitScheme? at h
  dsimp only at h
  split at h
  · rename_i c name tail hname hrest
    split at h
    · cases h
      rw [String.toList_ofList]
      intro hmem
      obtain ⟨d, hd, hlower⟩ := List.mem_map.mp hmem
      rw [eq_of_toLower hlower (by decide), ← hname, significant, List.mem_filter] at hd
      exact absurd (List.all_eq_true.mp List.all_takeWhile _ hd.1) (by decide)
    · cases h
  · cases h

theorem readScheme_hashFree (hbase : ∀ b, base = some b → b.HashFree) (hscheme : '#' ∉ scheme.toList)
    (h : readScheme base scheme cs = .ok u) : u.HashFree := by
  unfold readScheme at h
  dsimp only at h
  split at h
  · exact readFile_hashFree (fun b hb => hbase b (Option.filter_eq_some_iff.mp hb).1) h
  · split at h
    · split at h
      · exact readRelative_hashFree (hbase _ rfl) h
      · exact afterSlashes_hashFree hscheme h
    · exact afterSlashes_hashFree hscheme h
  · exact readOther_hashFree hscheme h

theorem resolve_hashFree (hbase : ∀ b, base = some b → b.HashFree) {s : String} (h : resolve base s = .ok u) : u.HashFree := by
  unfold resolve at h
  dsimp only at h
  split at h
  · rename_i hsplit
    exact readScheme_hashFree hbase (hash_not_mem_scheme hsplit) h
  · cases h
  · rename_i b hsplit
    have hb := hbase b rfl
    split at h
    · cases h
      exact hb.withFragmentOf _
    · split at h
      · cases h
      · split at h
        · exact readFile_hashFree hbase h
        · exact readRelative_hashFree hb h

theorem mem_of_mem_dropTrailingSpaces {s : String} {c : Char} (h : c ∈ (dropTrailingSpaces s).toList) : c ∈ s.toList := by
  rw [dropTrailingSpaces, String.toList_ofList, List.mem_reverse] at h
  exact List.mem_reverse.mp (List.dropWhile_subset _ h)

theorem HashFree.withoutFragment (h : u.HashFree) : u.withoutFragment.HashFree := by
  have hpath := h.path
  rw [Uri.withoutFragment]
  split
  · rename_i text htext hquery
    rw [htext] at hpath
    exact ⟨⟨h.scheme, h.username, h.password, h.host⟩, fun hmem => hpath (mem_of_mem_dropTrailingSpaces hmem), h.query⟩
  · exact h.withFragmentOf none

theorem HashFree.asRoot (h : u.HashFree) : u.asRoot.HashFree := by
  refine ⟨⟨h.scheme, h.username, h.password, h.host⟩, ?_, h.query⟩
  have hpath := h.path
  show UnhashedPath (closePath (schemeKind u.scheme) u.path)
  unfold closePath
  split
  · rename_i parts hparts
    rw [hparts] at hpath
    exact Unhashed.close hpath
  · show '#' ∉ "%2F".toList
    decide
  · rename_i text _ htext
    rw [htext] at hpath
    have hhash : '#' ∉ text.toList := hpath
    show '#' ∉ _
    split
    · exact hhash
    · simpa using hhash

theorem ofDirectory_hashFree (path : String) : (ofDirectory path).HashFree := by
  refine ⟨fileUri_unhashedFront hash_not_mem_domain _, Unhashed.append (fun part hpart => ?_) .blank, nofun⟩
  obtain ⟨name, -, rfl⟩ := List.mem_map.mp hpart
  rw [Text.Percent.encode, String.toList_ofList]
  exact hash_not_mem_encodeChars rfl _

theorem Obtained.hashFree (h : u.Obtained) : u.HashFree := by
  induction h with
  | parse h => exact resolve_hashFree (by simp) h
  | ofDirectory h => exact ofDirectory_hashFree _
  | asRoot _ ih => exact ih.asRoot
  | join _ h ih =>
    refine resolve_hashFree (fun b hb => ?_) h
    cases hb
    exact ih
  | withFragment _ fragment ih => exact ih.withFragmentOf _
  | withoutFragment _ ih => exact ih.withoutFragment

/-! ### Texts -/

theorem hash_not_mem_userinfo (h : u.UnhashedFront) : '#' ∉ u.userinfo.toList := by
  rw [userinfo]
  split
  · decide
  · simpa using h.username
  · rename_i password hpassword
    simpa using ⟨h.username, h.password password hpassword⟩

theorem hash_not_mem_authority (h : u.UnhashedFront) : '#' ∉ u.authority.toList := by
  rcases authority_cases u with ⟨host, hhost, heq⟩ | ⟨_, _, -, -, heq⟩ | ⟨-, -, heq⟩ <;> rw [heq]
  · have hport : '#' ∉ ((u.port.map fun p => ":" ++ decimal p).getD "").toList := by
      cases u.port with
      | none => decide
      | some p => simpa using delimiter_not_mem_decimal (c := '#') rfl p
    simp [hash_not_mem_userinfo h, h.host host hhost, hport]
  · decide
  · decide

theorem hash_not_mem_path {path : UriPath} (h : UnhashedPath path) : '#' ∉ path.text.toList := by
  cases path with
  | segments parts => simpa [UriPath.text, Unhashed, UnhashedPath] using h
  | rootless text => exact h

theorem HashFree.hash_not_mem_text (h : u.HashFree) (hfragment : u.fragment = none) : '#' ∉ u.text.toList := by
  have hquery : '#' ∉ ((u.query.map ("?" ++ ·)).getD "").toList := by
    cases hquery : u.query with
    | none => decide
    | some query => simpa using h.query query hquery
  simp [text, hfragment, h.scheme, hash_not_mem_authority h.toUnhashedFront, hash_not_mem_path h.path, hquery]

theorem text_of_fragment {fragment : String} (h : u.fragment = some fragment) :
    u.text = Uri.text { u with fragment := none } ++ "#" ++ fragment := by
  have hauthority : Uri.authority { u with fragment := none } = u.authority := rfl
  simp [text, h, hauthority, String.append_assoc]

/-- Of two URIs with fragments that are written the same, the fragments are the same and all that stands
    before them is written the same. -/
theorem text_eq_iff {v : Uri} (hu : u.HashFree) (hv : v.HashFree) {x y : String} (hx : u.fragment = some x)
    (hy : v.fragment = some y) :
    u.text = v.text ↔ Uri.text { u with fragment := none } = Uri.text { v with fragment := none } ∧ x = y := by
  rw [text_of_fragment hx, text_of_fragment hy]
  constructor
  · intro h
    have hchars := congrArg String.toList h
    simp only [String.toList_append, List.append_assoc] at hchars
    exact Text.eq_of_append_cons_eq ((hu.withFragmentOf none).hash_not_mem_text rfl)
      ((hv.withFragmentOf none).hash_not_mem_text rfl) hchars
  · rintro ⟨htext, rfl⟩
    rw [htext]

end

end SchemaBeans.Uri
