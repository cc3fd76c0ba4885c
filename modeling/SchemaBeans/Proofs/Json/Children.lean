import SchemaBeans.Documents
import SchemaBeans.Proofs.Json.Tokens

/-! The parts of a node under its keys.

The token for a key has no slash in it and is read as the key again, so a pointer with that token at its end
names what the key selects in the node that the pointer names. A document that was found once is kept, so
what a key of an object selects is found at the child location then and at any later time. -/

namespace SchemaBeans

/-! ### Keys on the way -/

namespace Pointer

theorem segments_append (pointer key : String) :
    segments (pointer ++ "/" ++ escape key) = segments pointer ++ [key] := by
  have hpieces : Text.pieces '/' (pointer ++ "/" ++ escape key) = Text.pieces '/' pointer ++ [escape key] := by
    rw [Text.pieces_append_cons (t := pointer) (u := escape key) (by simp),
      Text.pieces_eq_singleton (slash_not_mem_escape key)]
  have hlength : 1 ≤ (Text.pieces '/' pointer).length := List.length_pos_iff.mpr (Text.pieces_ne_nil '/' pointer)
  rw [segments, hpieces, List.drop_append_of_le_length hlength, List.map_append, List.map_singleton, unescape_escape]
  rfl

end Pointer

/-! ### Parts of values -/

namespace Json

theorem descend?_append (value : Json) (keys more : List String) :
    value.descend? (keys ++ more) = (value.descend? keys).bind (·.descend? more) := by
  induction keys generalizing value with
  | nil => rfl
  | cons key keys ih => simp [descend?, ih, Option.bind_assoc]

theorem descend?_singleton (value : Json) (key : String) : value.descend? [key] = value.child? key := by
  simp [descend?]

/-- A pointer with one more token names what the token's key selects in the node that the pointer names. -/
theorem pointer?_append (document : Json) (pointer key : String) :
    document.pointer? (pointer ++ "/" ++ Pointer.escape key) = (document.pointer? pointer).bind (·.child? key) := by
  have hne : pointer ++ "/" ++ Pointer.escape key ≠ "" := by
    intro h
    have := congrArg String.toList h
    simp at this
  rw [pointer?, if_neg hne, Pointer.segments_append, descend?_append]
  simp only [descend?_singleton]
  by_cases hempty : pointer = ""
  · subst hempty
    simp [pointer?, Pointer.segments, Text.pieces, descend?]
  · obtain ⟨c, cs, hcs⟩ := List.exists_cons_of_ne_nil fun h => hempty (String.toList_eq_nil_iff.mp h)
    rw [pointer?, if_neg hempty]
    have hhead : (pointer ++ "/" ++ Pointer.escape key).toList.head? = pointer.toList.head? := by simp [hcs]
    rw [hhead]
    split <;> rfl

end Json

namespace Location

@[simp]
theorem root_child (l : Location) (key : String) : (l.child key).root = l.root := rfl

theorem segments_child (l : Location) (key : String) : (l.child key).segments = l.segments ++ [key] :=
  Pointer.segments_append l.pointer key

end Location

/-! ### Looking up -/

namespace Documents

variable {documents later : Documents} {catalog : Catalog} {files : Files}

theorem document_of_resolve {l : Location} {node : Json} {log : List LogEntry}
    (h : documents.resolve catalog files l = (.ok node, later, log)) :
    ∃ document, documents.document catalog files l = (.ok document, later, log) ∧
      document.pointer? l.pointer = some node := by
  unfold resolve at h
  split at h
  · cases h
  · rename_i document found log' hdocument
    split at h <;> cases h
    exact ⟨document, hdocument, by assumption⟩

theorem document_congr {l m : Location} (hroot : m.root = l.root) {document : Json} {log : List LogEntry}
    (h : documents.document catalog files l = (.ok document, later, log)) :
    documents.document catalog files m = (.ok document, later, log) := by
  unfold Documents.document at h ⊢
  rw [hroot]
  cases hfound : documents.found.get? l.root with
  | some found => simpa [hfound] using h
  | none =>
    rw [hfound] at h
    dsimp only at h ⊢
    split at h <;> cases h
    rfl

theorem found_of_document {l : Location} {document : Json} {log : List LogEntry}
    (h : documents.document catalog files l = (.ok document, later, log)) :
    later.found.get? l.root = some document := by
  unfold Documents.document at h
  split at h
  · cases h
    assumption
  · split at h <;> cases h
    exact Table.get?_put_self _ _ _

theorem resolve_of_found {l : Location} {document node : Json} (hfound : documents.found.get? l.root = some document)
    (hnode : document.pointer? l.pointer = some node) :
    documents.resolve catalog files l = (.ok node, documents, []) := by
  simp [resolve, Documents.document, hfound, hnode]

theorem get?_resolve {uri : Uri} {document : Json} (h : documents.found.get? uri = some document) (l : Location) :
    (documents.resolve catalog files l).2.1.found.get? uri = some document := by
  have hdocument : (documents.document catalog files l).2.1.found.get? uri = some document := by
    unfold Documents.document
    split
    · exact h
    · rename_i hnone
      have hne : uri ≠ l.root := fun heq => by simp [← heq, h] at hnone
      split
      · exact h
      · exact h
      · exact (Table.get?_put_of_ne _ _ hne).trans h
  unfold resolve
  split
  · rename_i heq
    rwa [heq] at hdocument
  · rename_i heq
    rw [heq] at hdocument
    split <;> exact hdocument

/-- The documents after lookups made one after the other, each with the files there are by then. -/
def afterLookups (catalog : Catalog) (documents : Documents) (lookups : List (Files × Location)) : Documents :=
  lookups.foldl (fun documents lookup => (documents.resolve catalog lookup.1 lookup.2).2.1) documents

theorem get?_afterLookups {uri : Uri} {document : Json} (h : documents.found.get? uri = some document)
    (lookups : List (Files × Location)) : (afterLookups catalog documents lookups).found.get? uri = some document := by
  induction lookups generalizing documents with
  | nil => exact h
  | cons lookup lookups ih => exact ih (get?_resolve h lookup.2)

/-- Child locations address the parts of a node: the keys on the way to a child are those on the way to the
    node and its own, and where an object was found, what it has under a key is found at the child location, at
    once and after any further lookups. -/
theorem resolve_child :
    (∀ (l : Location) (key : String), (l.child key).segments = l.segments ++ [key]) ∧
    ∀ {documents later : Documents} {catalog : Catalog} {files : Files} {l : Location} {fields : List (String × Json)}
      {log : List LogEntry}, documents.resolve catalog files l = (.ok (.object fields), later, log) →
      ∀ {key : String} {value : Json}, Table.get? fields key = some value →
        documents.resolve catalog files (l.child key) = (.ok value, later, log) ∧
        ∀ (lookups : List (Files × Location)) (files : Files),
          (afterLookups catalog later lookups).resolve catalog files (l.child key) =
            (.ok value, afterLookups catalog later lookups, []) := by
  refine ⟨Location.segments_child, ?_⟩
  intro documents later catalog files l fields log hobject key value hvalue
  obtain ⟨document, hdocument, hnode⟩ := document_of_resolve hobject
  have hchild : document.pointer? (l.child key).pointer = some value := by
    rw [Location.child, Json.pointer?_append, hnode]
    exact hvalue
  have hfound := found_of_document hdocument
  refine ⟨?_, fun lookups files => resolve_of_found (get?_afterLookups hfound lookups) hchild⟩
  simp [resolve, document_congr (Location.root_child l key) hdocument, hchild]

/-- Parts under keys that need escapes, that look like an index and that are empty. -/
def labels : List (String × Json) := [("a/b~1", .string "first"), ("0", .bool true), ("", .null)]

/-- A document with these parts. -/
def labelled : Uri × Json := (⟨"urn", "", none, none, none, .rootless "x", none, none⟩, .object [("labels", .object labels)])

theorem resolve_child_labelled :
    let found : Documents := ⟨[labelled], [labelled.1]⟩
    let l : Location := ⟨labelled.1, "/labels"⟩
    empty.resolve (.preloaded [labelled]) ⟨"/", []⟩ l = (.ok (.object labels), found, []) ∧
      (l.child "a/b~1").pointer = "/labels/a~1b~01" ∧
      empty.resolve (.preloaded [labelled]) ⟨"/", []⟩ (l.child "a/b~1") = (.ok (.string "first"), found, []) ∧
      found.resolve (.preloaded [labelled]) ⟨"/", []⟩ (l.child "") = (.ok .null, found, []) := by
  intro found l
  have hdocument : empty.document (.preloaded [labelled]) ⟨"/", []⟩ l = (.ok labelled.2, found, []) := rfl
  have hnode : labelled.2.pointer? "/labels" = some (.object labels) := by rfl
  have hobject : empty.resolve (.preloaded [labelled]) ⟨"/", []⟩ l = (.ok (.object labels), found, []) := by
    rw [resolve, hdocument]
    simp only [l, hnode]
  exact ⟨hobject, by decide +kernel, (resolve_child.2 hobject (by rfl)).1,
    (resolve_child.2 hobject (by rfl)).2 [] ⟨"/", []⟩⟩

end Documents

end SchemaBeans
