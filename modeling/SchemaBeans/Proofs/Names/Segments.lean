import SchemaBeans.Proofs.Json.Children
import SchemaBeans.TypeName

/-! The name of a type, from the keys on the way to its location.

A name is made from a pointer as it is written: colons count as slashes, and what stands between slashes is
unescaped last. The token for a key has no slash, and its colons are those of the key, so the pieces that are found
in a pointer are the pieces of its keys between colons, and nothing in a key is taken for a slash. -/

namespace SchemaBeans

/-! ### Pieces of tokens -/

namespace Pointer

/-- How a character of a key is written in a token. -/
def escapeChar (c : Char) : List Char :=
  if c = '~' then ['~', '0'] else if c = '/' then ['~', '1'] else [c]

theorem toList_escape (key : String) : (escape key).toList = key.toList.flatMap escapeChar := by
  rw [escape, String.toList_ofList]
  induction key.toList with
  | nil => rfl
  | cons c cs ih => rw [escapeSlash_escapeTilde_cons, ih, List.flatMap_cons, escapeChar]

/-- A character is written without colons, unless it is one. -/
theorem colon_not_mem_escapeChar {c : Char} (hc : c ≠ ':') : ':' ∉ escapeChar c := by
  unfold escapeChar
  split
  · simp
  · split
    · simp
    · simpa using Ne.symm hc

end Pointer

/-- A pointer with slashes for its colons. -/
def slashed (pointer : String) : String :=
  String.ofList (pointer.toList.map fun c => if c = ':' then '/' else c)

theorem toList_slashed (s : String) : (slashed s).toList = s.toList.map fun c => if c = ':' then '/' else c :=
  String.toList_ofList

theorem slashed_of_not_mem {s : String} (h : ':' ∉ s.toList) : slashed s = s := by
  have hsame : s.toList.map (fun c => if c = ':' then '/' else c) = s.toList.map id :=
    List.map_congr_left fun c hc => if_neg fun heq : c = ':' => h (heq ▸ hc)
  rw [slashed, hsame, List.map_id, String.ofList_toList]

theorem pieces_slashed_escape (key : String) :
    Text.pieces '/' (slashed (Pointer.escape key)) = (Text.pieces ':' key).map Pointer.escape := by
  let written (c : Char) : List Char := (Pointer.escapeChar c).map fun c => if c = ':' then '/' else c
  have hwritten : ∀ s : String, (slashed (Pointer.escape s)).toList = s.toList.flatMap written := by
    intro s
    rw [toList_slashed, Pointer.toList_escape, List.map_flatMap]
  -- A piece has no colon, so its token stays as it is.
  have hpiece : ∀ piece ∈ Text.pieces ':' key, slashed (Pointer.escape piece) = Pointer.escape piece := by
    intro piece hmem
    refine slashed_of_not_mem ?_
    rw [Pointer.toList_escape, List.mem_flatMap]
    rintro ⟨c, hc, hcolon⟩
    exact Pointer.colon_not_mem_escapeChar (Text.of_mem_pieces hmem c hc).2 hcolon
  have htoken : (slashed (Pointer.escape key)).toList =
      List.intercalate ['/'] (((Text.pieces ':' key).map Pointer.escape).map String.toList) := by
    rw [hwritten, ← Text.intercalate_pieces ':' key, Text.flatMap_intercalate, List.map_map, List.map_map]
    refine congrArg _ (List.map_congr_left fun piece hmem => ?_)
    rw [Function.comp_apply, Function.comp_apply, ← hwritten, hpiece piece hmem]
  have hslash : ∀ token ∈ ((Text.pieces ':' key).map Pointer.escape).map String.toList, '/' ∉ token := by
    simpa using fun piece _ => Pointer.slash_not_mem_escape piece
  have hsplit := List.splitOn_intercalate '/' hslash (by simp [Text.pieces_ne_nil])
  rw [Text.pieces, ← List.splitOn_eq_splitOnP, htoken, hsplit, List.map_map]
  simp

/-! ### Pieces of pointers -/

theorem namingSegments_eq (pointer : String) : namingSegments pointer =
    ((Text.pieces '/' (slashed pointer)).map Pointer.unescape).filter (· ∉ structuralSegments) := rfl

theorem namingSegments_append (pointer key : String) : namingSegments (pointer ++ "/" ++ Pointer.escape key) =
    namingSegments pointer ++ (Text.pieces ':' key).filter (· ∉ structuralSegments) := by
  have hcut : Text.pieces '/' (slashed (pointer ++ "/" ++ Pointer.escape key)) =
      Text.pieces '/' (slashed pointer) ++ (Text.pieces ':' key).map Pointer.escape := by
    rw [← pieces_slashed_escape]
    refine Text.pieces_append_cons ?_
    simp [toList_slashed]
  have hread : ((Text.pieces ':' key).map Pointer.escape).map Pointer.unescape = Text.pieces ':' key := by
    rw [List.map_map]
    exact List.map_id'' Pointer.unescape_escape _
  rw [namingSegments_eq, hcut, List.map_append, hread, List.filter_append, ← namingSegments_eq]

/-- The location that keys lead to, from a document. -/
def Location.along (document : Uri) (keys : List String) : Location :=
  keys.foldl Location.child (.of document "")

theorem namingSegments_along (document : Uri) (keys : List String) :
    namingSegments (Location.along document keys).pointer =
      (keys.flatMap (Text.pieces ':')).filter (· ∉ structuralSegments) := by
  have hgo : ∀ (keys : List String) (l : Location), namingSegments (keys.foldl Location.child l).pointer =
      namingSegments l.pointer ++ (keys.flatMap (Text.pieces ':')).filter (· ∉ structuralSegments) := by
    intro keys
    induction keys with
    | nil => simp
    | cons key keys ih =>
      intro l
      rw [List.foldl_cons, ih, Location.child, namingSegments_append, List.flatMap_cons, List.filter_append,
        List.append_assoc]
  have hempty : namingSegments "" = [] := by decide
  rw [Location.along, hgo, Location.of, hempty, List.nil_append]

/-! ### Names -/

/-- Texts without those that only say how schemas are nested. -/
def meaningful (texts : List String) : List String :=
  texts.filter (· ∉ ["", "properties", "definitions", "$defs"])

/-- The name for keys: their meaningful pieces between colons run together with capitals; `Type` where there are
    none, and an underscore before an ASCII digit. -/
def nameFor (keys : List String) : String :=
  let name := String.join ((meaningful (keys.flatMap (Text.pieces ':'))).map Java.pascal)
  if name = "" then "Type" else if name.toList.head?.any Char.isDigit then "_" ++ name else name

theorem typeName_along (document : Uri) (keys : List String) : typeName (.along document keys) = nameFor keys := by
  have hjoin : ∀ kept : List String, (kept.map fun s => Java.pascalChars s.toList).flatten =
      (String.join (kept.map Java.pascal)).toList := by
    intro kept
    rw [String.toList_join, List.flatMap_map, List.flatMap_def]
    simp [Java.pascal]
  have hguard : ∀ name : String, String.ofList (Java.guardDigit name.toList) =
      if name.toList.head?.any Char.isDigit then "_" ++ name else name := by
    intro name
    have hdigit : Java.startsWithDigit name.toList = name.toList.head?.any Char.isDigit := by
      cases h : name.toList.head? <;> simp [Java.startsWithDigit, h]
    rw [Java.guardDigit, hdigit, ← String.toList_inj, String.toList_ofList]
    split <;> simp
  simp only [typeName, namingSegments_along, hjoin, hguard, List.isEmpty_iff, String.toList_eq_nil_iff]
  rfl

theorem meaningful_append (texts more : List String) : meaningful (texts ++ more) = meaningful texts ++ meaningful more :=
  List.filter_append _ _

/-- A key that is not meaningful has no colon, so its only piece is not meaningful either. -/
theorem meaningful_pieces (keys : List String) :
    meaningful ((meaningful keys).flatMap (Text.pieces ':')) = meaningful (keys.flatMap (Text.pieces ':')) := by
  induction keys with
  | nil => rfl
  | cons key keys ih =>
    rw [← List.singleton_append, meaningful_append, List.flatMap_append, List.flatMap_append, meaningful_append,
      meaningful_append, ih]
    refine congrArg (· ++ _) ?_
    by_cases hkey : key ∈ ["", "properties", "definitions", "$defs"]
    · have hcolon : ∀ s ∈ ["", "properties", "definitions", "$defs"], ':' ∉ s.toList := by decide
      have hnone : meaningful [key] = [] := List.filter_cons_of_neg (by simp only [hkey]; simp)
      rw [List.flatMap_singleton, Text.pieces_eq_singleton (hcolon key hkey), hnone]
      rfl
    · have hself : meaningful [key] = [key] := List.filter_cons_of_pos (decide_eq_true hkey)
      rw [hself]

/-- The name of the type for a location is the one for the keys that lead to it from its document, whatever text they
    are. Keys that differ in structural ones only, wherever these stand, have the same name. -/
theorem typeName_of_keys (document : Uri) (keys : List String) :
    typeName (.along document keys) = nameFor keys ∧
    ∀ more : List String, meaningful more = meaningful keys →
      typeName (.along document more) = typeName (.along document keys) := by
  refine ⟨typeName_along document keys, fun more h => ?_⟩
  rw [typeName_along, typeName_along, nameFor, nameFor, ← meaningful_pieces more, h, meaningful_pieces keys]

/-- Tildes and slashes next to colons are no marks of their own, and structural keys add nothing between others. -/
theorem typeName_of_keys_geo :
    typeName (.along Documents.labelled.1 ["geo:~1/properties:", "3-d"]) = "Geo1Properties3D" ∧
    typeName (.along Documents.labelled.1 ["definitions", "geo:~1/properties:", "", "$defs", "3-d", "properties"]) =
      "Geo1Properties3D" := by
  obtain ⟨hname, hmore⟩ := typeName_of_keys Documents.labelled.1 ["geo:~1/properties:", "3-d"]
  have hgeo : nameFor ["geo:~1/properties:", "3-d"] = "Geo1Properties3D" := by decide +kernel
  exact ⟨hname.trans hgeo, (hmore _ (by decide)).trans (hname.trans hgeo)⟩

end SchemaBeans
