import SchemaBeans.Proofs.Paths.Joining
import SchemaBeans.Proofs.Uri.Reading

/-! The text of a URI, cut at slashes.

Before the path stand the scheme and an authority between slashes, or a dot that sets the path off; each
segment then stands after a slash. So where one text starts with another that ends in a slash, what
follows is cut into segments of the longer one (`Uri.pieces_below`). -/

namespace SchemaBeans.Uri

/-- A URI that a run can come to, without query and fragment. -/
structure Plain (u : Uri) : Prop where
  obtained : u.Obtained
  query : u.query = none
  fragment : u.fragment = none

theorem exists_of_getLast?_segments {u : Uri} {last : String} (h : u.segments.getLast? = some last) :
    ∃ front, u.path = .segments (front ++ [last]) := by
  rw [segments] at h
  split at h
  · obtain ⟨front, rfl⟩ := List.getLast?_eq_some_iff.mp h
    exact ⟨front, ‹_›⟩
  · cases h

theorem eq_file_of_schemeKind {scheme : String} (h : schemeKind scheme = .file) : scheme = "file" := by
  rw [schemeKind] at h
  split at h
  · exact beq_iff_eq.mp ‹_›
  · split at h <;> cases h

/-- What stands before the path. -/
def front (u : Uri) : String := u.scheme ++ ":" ++ u.authority

theorem pieces_append_segments (start : String) {parts : List String} (h : ∀ part ∈ parts, '/' ∉ part.toList) :
    Text.pieces '/' (start ++ (UriPath.segments parts).text) = Text.pieces '/' start ++ parts := by
  induction parts generalizing start with
  | nil => simp [UriPath.text]
  | cons part parts ih =>
    have hrest := ih part fun p hp => h p (List.mem_cons_of_mem part hp)
    have hcut : (start ++ (UriPath.segments (part :: parts)).text).toList =
        start.toList ++ '/' :: (part ++ (UriPath.segments parts).text).toList := by
      simp [UriPath.text]
    rw [Text.pieces_append_cons hcut, hrest, Text.pieces_eq_singleton (h part List.mem_cons_self)]
    rfl

theorem text_of_segments {u : Uri} {parts : List String} (hpath : u.path = .segments parts)
    (hquery : u.query = none) (hfragment : u.fragment = none) : u.text = u.front ++ (UriPath.segments parts).text := by
  simp [text, front, hpath, hquery, hfragment]

theorem pieces_text {u : Uri} {parts : List String} (h : u.Normal) (hpath : u.path = .segments parts)
    (hquery : u.query = none) (hfragment : u.fragment = none) :
    Text.pieces '/' u.text = Text.pieces '/' u.front ++ parts := by
  have hparts := h.path
  rw [hpath] at hparts
  rw [text_of_segments hpath hquery hfragment, pieces_append_segments _ hparts.slash]

theorem slash_not_mem_userinfo {u : Uri} (h : u.Fronted) : '/' ∉ u.userinfo.toList := by
  rw [userinfo]
  split
  · decide
  · simpa using h.username
  · rename_i password hpassword
    simpa using ⟨h.username, h.password password hpassword⟩

theorem slash_not_mem_port (port : Option Nat) : '/' ∉ ((port.map fun p => ":" ++ decimal p).getD "").toList := by
  cases port with
  | none => decide
  | some p => simpa using delimiter_not_mem_decimal (c := '/') rfl p

theorem authority_cases (u : Uri) :
    (∃ host, u.host = some host ∧
      u.authority = "//" ++ u.userinfo ++ host.text ++ (u.port.map fun p => ":" ++ decimal p).getD "") ∨
    (∃ second rest, u.host = none ∧ u.path = .segments ("" :: second :: rest) ∧ u.authority = "/.") ∨
    (u.host = none ∧ (∀ second rest, u.path ≠ .segments ("" :: second :: rest)) ∧ u.authority = "") := by
  unfold authority
  split
  · rename_i host hhost
    exact Or.inl ⟨host, hhost, rfl⟩
  · rename_i second rest hhost hpath
    exact Or.inr (Or.inl ⟨second, rest, hhost, hpath, rfl⟩)
  · rename_i hhost hpath
    exact Or.inr (Or.inr ⟨hhost, hpath, rfl⟩)

/-- What stands before the path has slashes only before the authority, or one that sets off the path. -/
theorem pieces_front {u : Uri} (h : u.Fronted) :
    (∃ host authority, u.host = some host ∧ Text.pieces '/' u.front = [u.scheme ++ ":", "", authority]) ∨
    (∃ second rest, u.host = none ∧ u.path = .segments ("" :: second :: rest) ∧
      Text.pieces '/' u.front = [u.scheme ++ ":", "."]) ∨
    (u.host = none ∧ (∀ second rest, u.path ≠ .segments ("" :: second :: rest)) ∧
      Text.pieces '/' u.front = [u.scheme ++ ":"]) := by
  have hscheme : Text.pieces '/' (u.scheme ++ ":") = [u.scheme ++ ":"] := by
    refine Text.pieces_eq_singleton ?_
    simpa using fun hmem => (h.scheme '/' hmem).1 rfl
  rcases authority_cases u with ⟨host, hhost, heq⟩ | ⟨second, rest, hhost, hpath, heq⟩ | ⟨hhost, hpath, heq⟩
  -- There are two slashes before the authority, and none in it.
  · generalize hport : (u.port.map fun p => ":" ++ decimal p).getD "" = port at heq
    have hslash : '/' ∉ (u.userinfo ++ host.text ++ port).toList := by
      have hp := slash_not_mem_port u.port
      rw [hport] at hp
      simp [slash_not_mem_userinfo h, h.host host hhost, hp]
    refine Or.inl ⟨host, u.userinfo ++ host.text ++ port, hhost, ?_⟩
    rw [Text.pieces_append_cons (t := u.scheme ++ ":/") (u := u.userinfo ++ host.text ++ port) (by simp [front, heq]),
      Text.pieces_append_cons (t := u.scheme ++ ":") (u := "") (by simp), hscheme, Text.pieces_eq_singleton hslash]
    rfl
  · refine Or.inr (Or.inl ⟨second, rest, hhost, hpath, ?_⟩)
    rw [Text.pieces_append_cons (t := u.scheme ++ ":") (u := ".") (by simp [front, heq]), hscheme]
    rfl
  · refine Or.inr (Or.inr ⟨hhost, hpath, ?_⟩)
    rw [front, heq, String.append_empty, hscheme]

theorem scheme_eq_of_text {s t x y : String} (hs : SchemeText s) (ht : SchemeText t) (h : s ++ ":" ++ x = t ++ ":" ++ y) :
    s = t ∧ x = y := by
  have hchars := congrArg String.toList h
  simp only [String.toList_append, List.append_assoc] at hchars
  exact Text.eq_of_append_cons_eq (fun hmem => (hs ':' hmem).2 rfl) (fun hmem => (ht ':' hmem).2 rfl) hchars

theorem below?_of_text {root u : Uri} {cs : List Char} (h : u.text.toList = root.text.toList ++ cs) :
    root.below? u = some (String.ofList cs) := by
  rw [below?, List.isPrefixOf?_eq_some_iff_append_eq.mpr h.symm]
  rfl

theorem below?_eq_some {root u : Uri} {rest : String} (h : root.below? u = some rest) : u.text = root.text ++ rest := by
  obtain ⟨cs, hcs, rfl⟩ := Option.map_eq_some_iff.mp h
  have htext := List.isPrefixOf?_eq_some_iff_append_eq.mp hcs
  rw [← String.toList_inj, String.toList_append, String.toList_ofList, htext]

/-- What follows the colon. -/
def afterScheme (u : Uri) : String :=
  u.authority ++ u.path.text ++ (u.query.map ("?" ++ ·)).getD "" ++ (u.fragment.map ("#" ++ ·)).getD ""

theorem text_eq (u : Uri) : u.text = u.scheme ++ ":" ++ u.afterScheme := by
  simp [text, afterScheme, String.append_assoc]

theorem head_afterScheme {u : Uri} {part : String} {parts : List String} (hpath : u.path = .segments (part :: parts)) :
    u.afterScheme.toList.head? = some '/' := by
  rcases authority_cases u with ⟨host, -, heq⟩ | ⟨_, _, -, -, heq⟩ | ⟨-, -, heq⟩ <;>
    simp [afterScheme, heq, hpath, UriPath.text]

theorem head_afterScheme_rootless {u : Uri} {text : String} (hu : u.Normal) (hpath : u.path = .rootless text)
    (hquery : u.query = none) (hfragment : u.fragment = none) : u.afterScheme.toList.head? ≠ some '/' := by
  have hnormal := hu.path
  rw [hpath] at hnormal
  rcases authority_cases u with ⟨host, hhost, -⟩ | ⟨_, _, -, hsegments, -⟩ | ⟨-, -, heq⟩
  · rw [hnormal.1] at hhost
    cases hhost
  · rw [hpath] at hsegments
    cases hsegments
  · simpa [afterScheme, heq, hpath, UriPath.text, hquery, hfragment] using hnormal.2

section
variable {root u : Uri} {ps : List String} {rest : String}

theorem exists_segments (hroot : root.Normal) (hu : u.Normal) (hpath : root.path = .segments (ps ++ [""]))
    (hquery : u.query = none) (hfragment : u.fragment = none) (h : u.text = root.text ++ rest) :
    u.scheme = root.scheme ∧ ∃ parts, u.path = .segments parts := by
  rw [text_eq, text_eq] at h
  obtain ⟨hscheme, hafter⟩ := scheme_eq_of_text hu.scheme hroot.scheme (h.trans String.append_assoc)
  refine ⟨hscheme, ?_⟩
  cases hcase : u.path with
  | segments parts => exact ⟨parts, rfl⟩
  | rootless t =>
    have hslash : root.afterScheme.toList.head? = some '/' := by
      cases ps with
      | nil => exact head_afterScheme hpath
      | cons p ps => exact head_afterScheme hpath
    refine absurd ?_ (head_afterScheme_rootless hu hcase hquery hfragment)
    rw [hafter, String.toList_append, List.head?_append, hslash]
    rfl

theorem pieces_below (hroot : root.Normal) (hu : u.Normal) (hpath : root.path = .segments (ps ++ [""]))
    (hrootQuery : root.query = none) (hrootFragment : root.fragment = none) (hquery : u.query = none)
    (hfragment : u.fragment = none) (h : u.text = root.text ++ rest) (hrelative : Path.isAbsolute rest = false) :
    ∃ parts, u.path = .segments parts ∧ ∀ piece ∈ Text.pieces '/' rest, piece ∈ parts ∨ piece = "." := by
  obtain ⟨hscheme, parts, hparts⟩ := exists_segments hroot hu hpath hquery hfragment h
  refine ⟨parts, hparts, ?_⟩
  -- Cut at its slashes, the longer text has the pieces of the shorter one and those of the rest.
  have hcut : Text.pieces '/' root.front ++ ps ++ Text.pieces '/' rest = Text.pieces '/' u.front ++ parts := by
    have hrootParts := hroot.path
    rw [hpath] at hrootParts
    rw [← pieces_text hu hparts hquery hfragment,
      ← pieces_append_segments root.front fun p hp => hrootParts.slash p (List.mem_append_left _ hp)]
    refine (Text.pieces_append_cons ?_).symm
    rw [h, text_of_segments hpath hrootQuery hrootFragment]
    simp [UriPath.text]
  obtain ⟨start, more, hmore⟩ := List.exists_cons_of_ne_nil (Text.pieces_ne_nil '/' root.front)
  rcases pieces_front hu.toFronted with ⟨_, authority, -, hfront⟩ | ⟨_, _, -, -, hfront⟩ | ⟨-, -, hfront⟩
  · -- The root has the same authority, or it ends before it and the rest starts with a slash.
    rw [hfront] at hcut
    rcases pieces_front hroot.toFronted with ⟨_, _, -, hrootFront⟩ | ⟨_, _, -, -, hrootFront⟩ | ⟨-, hsetOff, hrootFront⟩
    · have hrest : ps ++ Text.pieces '/' rest = parts := by
        rw [hrootFront, List.append_assoc] at hcut
        exact (List.append_inj hcut rfl).2
      exact fun piece hpiece => Or.inl (hrest ▸ List.mem_append_right ps hpiece)
    · simp [hrootFront] at hcut
    · rw [hrootFront] at hcut
      cases ps with
      | nil =>
        have habsolute := Path.isAbsolute_iff.mpr ⟨authority, parts, (List.cons.inj hcut).2⟩
        rw [hrelative] at habsolute
        cases habsolute
      | cons p ps =>
        obtain rfl : p = "" := (List.cons.inj (List.cons.inj hcut).2).1
        cases ps with
        | nil => exact absurd hpath (hsetOff _ _)
        | cons q ps => exact absurd hpath (hsetOff _ _)
  · have hrest : more ++ ps ++ Text.pieces '/' rest = "." :: parts := by
      rw [hmore, hfront] at hcut
      exact (List.cons.inj hcut).2
    intro piece hpiece
    have hmem : piece ∈ "." :: parts := hrest ▸ List.mem_append_right _ hpiece
    exact (List.mem_cons.mp hmem).symm
  · have hrest : more ++ ps ++ Text.pieces '/' rest = parts := by
      rw [hmore, hfront] at hcut
      exact (List.cons.inj hcut).2
    exact fun piece hpiece => Or.inl (hrest ▸ List.mem_append_right _ hpiece)

end

end SchemaBeans.Uri
