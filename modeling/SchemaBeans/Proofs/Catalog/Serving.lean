import SchemaBeans.Catalog
import SchemaBeans.Proofs.Uri.Texts

/-! Which files a published directory serves.

The rest of a URI after the root is decoded and joined to the directory. The path is the directory
extended by names exactly if the rest leads down (`Catalog.isExtension_decode_iff`), which an escaped
slash or a second slash after the root prevents. -/

namespace SchemaBeans

namespace Catalog
open Text.Percent (decode pieces)

/-- What follows a root in a URI leads down from the directory: it does not start with a slash, written as
    such or escaped, and no piece of it goes up. In the empty directory a dot at the start would stay. -/
structure LeadsDown (base rest : String) : Prop where
  relative : ¬∃ w ws, pieces rest.toList = [] :: w :: ws
  noUp : ∀ w ∈ pieces rest.toList, Uri.isDoubleDot (String.ofList w) = false
  noDot : base = "" → ∀ w, (pieces rest.toList).head? = some w → Uri.isSingleDot (String.ofList w) = false

theorem isAbsolute_iff_of_pieces {path : String} {ws : List (List Char)} {f : List Char → String}
    (hpieces : Text.pieces '/' path = ws.map f) (hf : ∀ w, f w = "" ↔ w = []) :
    Path.isAbsolute path = false ↔ ¬∃ v vs, ws = [] :: v :: vs := by
  rw [← Bool.not_eq_true, Path.isAbsolute_iff, hpieces, not_iff_not]
  constructor
  · rintro ⟨piece, more, heq⟩
    obtain ⟨w, ws, rfl, hempty, htail⟩ := List.map_eq_cons_iff.mp heq
    obtain ⟨v, vs, rfl, -, -⟩ := List.map_eq_cons_iff.mp htail
    exact ⟨v, vs, by rw [(hf w).mp hempty]⟩
  · rintro ⟨v, vs, rfl⟩
    exact ⟨f v, vs.map f, by rw [List.map_cons, (hf []).mpr rfl, List.map_cons]⟩

theorem isExtension_decode_iff (base rest : String) : Path.IsExtension base (decode rest) ↔ LeadsDown base rest := by
  have hpieces := Text.Percent.pieces_decode rest
  have hrelative := isAbsolute_iff_of_pieces hpieces fun w => Text.Percent.decode_eq_empty
  have hup : ".." ∉ Text.pieces '/' (decode rest) ↔ ∀ w ∈ pieces rest.toList, Uri.isDoubleDot (String.ofList w) = false := by
    simp [hpieces, ← Uri.isDoubleDot_iff]
  have hdot : Path.startsHere (decode rest) = false ↔
      ∀ w, (pieces rest.toList).head? = some w → Uri.isSingleDot (String.ofList w) = false := by
    simp [Path.startsHere, hpieces, ← Uri.isSingleDot_iff]
  rw [Path.isExtension_iff, hdot]
  exact ⟨fun h => ⟨hrelative.mp h.1.relative, hup.mp h.1.noUp, h.2⟩,
    fun h => ⟨⟨hrelative.mpr h.relative, hup.mpr h.noUp⟩, h.noDot⟩⟩

theorem servedPath?_of_below {root uri : Uri} {rest : String} (h : root.below? uri = some rest) (base : String) :
    servedPath? root base uri = some (Text.Utf8.encode (Path.join base (decode rest))) := by
  rw [servedPath?, h]

/-- A slash that is written as an escape. -/
def EscapesSlash (rest : String) : Prop := ∃ d ∈ ['F', 'f'], ['%', '2', d] <:+: rest.toList

/-- Below a root that ends in a slash, a URI without escaped slashes leads down unless it goes on with a
    slash. -/
theorem leadsDown_iff {root uri : Uri} {base rest : String} (hroot : root.Plain) (hclosed : root.segments.getLast? = some "")
    (huri : uri.Plain) (hdrive : uri.scheme = "file" → uri.segments.head?.any Uri.isDrive = false)
    (hbase : base ≠ "") (hescaped : ¬EscapesSlash rest) (h : root.below? uri = some rest) :
    LeadsDown base rest ↔ Path.isAbsolute rest = false := by
  have hpieces : Text.pieces '/' rest = (pieces rest.toList).map String.ofList := by
    rw [Text.pieces, Text.Percent.pieces_eq_splitOn fun d hd hwithin => hescaped ⟨d, hd, hwithin⟩, List.splitOn_eq_splitOnP]
  have hrelative := isAbsolute_iff_of_pieces hpieces fun w => String.ofList_eq_empty_iff
  refine ⟨fun hdown => hrelative.mpr hdown.relative, fun hrest => ?_⟩
  refine ⟨hrelative.mp hrest, fun w hw => ?_, fun hempty => absurd hempty hbase⟩
  obtain ⟨ps, hps⟩ := Uri.exists_of_getLast?_segments hclosed
  have hnormal := huri.obtained.normal
  obtain ⟨parts, hparts, hmem⟩ := Uri.pieces_below hroot.obtained.normal hnormal hps hroot.query hroot.fragment
    huri.query huri.fragment (Uri.below?_eq_some h) hrest
  rw [hpieces] at hmem
  rcases hmem _ (List.mem_map_of_mem hw) with hsegment | hdot
  -- Two dots are a segment only after a drive letter.
  · refine Bool.eq_false_iff.mpr fun hdots => ?_
    have hsegments : uri.segments = parts := by rw [Uri.segments, hparts]
    obtain ⟨hkind, hhead⟩ := hnormal.segments.dots _ (hsegments ▸ hsegment) (Or.inl hdots)
    rw [hdrive (Uri.eq_file_of_schemeKind hkind)] at hhead
    cases hhead
  · rw [hdot]
    rfl

/-- For a URI below the root a directory reads the rest of it, decoded and joined to the directory. That
    path is the directory extended by names exactly if the rest leads down. A rest without escaped slashes
    does, unless it starts with a slash, where root and URI are plain, the root ends in a slash and the URI
    names no drive. -/
theorem served_path_extends_iff {root uri : Uri} (base : String) {rest : String} (h : root.below? uri = some rest) :
    (∀ files, (directory root base).load files uri =
      lookUpFile files uri (Text.Utf8.encode (Path.join base (decode rest)))) ∧
    (Path.IsExtension base (decode rest) ↔ LeadsDown base rest) ∧
    (root.Plain → root.segments.getLast? = some "" → uri.Plain →
      (uri.scheme = "file" → uri.segments.head?.any Uri.isDrive = false) → base ≠ "" → ¬EscapesSlash rest →
      (Path.IsExtension base (decode rest) ↔ Path.isAbsolute rest = false)) := by
  have hextends := isExtension_decode_iff base rest
  refine ⟨fun files => ?_, hextends, fun hroot hclosed huri hdrive hbase hescaped => ?_⟩
  · simp only [directory, servedPath?_of_below h]
  · rw [hextends]
    exact leadsDown_iff hroot hclosed huri hdrive hbase hescaped h

/-- The root `http://example.com/`. -/
def site : Uri where
  scheme := "http"
  username := ""
  password := none
  host := some (.domain "example.com")
  port := none
  path := .segments [""]
  query := none
  fragment := none

def sitePage (segments : List String) : Uri := { site with path := .segments segments }

theorem served_path_extends_page :
    site.below? (sitePage ["a.json"]) = some "a.json" ∧ Path.IsExtension "base" (decode "a.json") := by
  have hparse : Uri.parse "http://example.com/" = .ok site := rfl
  have hjoin : site.join "a.json" = .ok (sitePage ["a.json"]) := rfl
  have hbelow : site.below? (sitePage ["a.json"]) = some "a.json" := rfl
  have hsite : site.Plain := ⟨.parse hparse, rfl, rfl⟩
  have hpage : (sitePage ["a.json"]).Plain := ⟨.join hsite.obtained hjoin, rfl, rfl⟩
  refine ⟨hbelow, ((served_path_extends_iff "base" hbelow).2.2 hsite rfl hpage ?_ ?_ ?_).mpr rfl⟩
  · decide
  · decide
  · rintro ⟨d, -, hwithin⟩
    exact absurd (hwithin.subset List.mem_cons_self) (by decide)

/-- An escaped slash leads out of the directory, and a second slash replaces it. -/
theorem escaped_slash_leaves_directory :
    Location.join ⟨sitePage ["a.json"], ""⟩ "..%2Fsecret.json" = .ok ⟨sitePage ["..%2Fsecret.json"], ""⟩ ∧
      servedPath? site "base" (sitePage ["..%2Fsecret.json"]) = some (Text.Utf8.encode "base/../secret.json") ∧
      ¬Path.IsExtension "base" (decode "..%2Fsecret.json") ∧
      ((directory site "base").load ⟨"/", [(["base"], .directory), (["secret.json"], .file (Text.Utf8.encode "true"))]⟩
        (sitePage ["..%2Fsecret.json"])).result = .ok (some (.bool true)) ∧
      Location.join ⟨sitePage ["a.json"], ""⟩ "/.//etc/hosts" = .ok ⟨sitePage ["", "etc", "hosts"], ""⟩ ∧
      servedPath? site "base" (sitePage ["", "etc", "hosts"]) = some (Text.Utf8.encode "/etc/hosts") := by
  refine ⟨rfl, rfl, fun h => ?_, rfl, rfl, rfl⟩
  have hup := ((isExtension_decode_iff _ _).mp h).noUp ['.', '.'] (by decide)
  cases hup

end Catalog

end SchemaBeans
