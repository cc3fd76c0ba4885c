import SchemaBeans.Catalog

/-! The documents of a run.

Every document that a catalog had is kept, so the catalog is not asked for it again. Locations are
resolved in the documents. -/

namespace SchemaBeans

/-- The documents found so far, and the URIs the catalog was asked for, the latest last. -/
structure Documents where
  found : Table Uri Json
  asked : List Uri
deriving Repr

namespace Documents

def empty : Documents := ⟨[], []⟩

def document (documents : Documents) (catalog : Catalog) (files : Files) (location : Location) :
    Except Error Json × Documents × List LogEntry :=
  match documents.found.get? location.root with
  | some document => (.ok document, documents, [])
  | none =>
    let asked := { documents with asked := documents.asked ++ [location.root] }
    match catalog.load files location.root with
    | ⟨.error e, log⟩ => (.error e, asked, log)
    -- A document that is missing is not kept, so it is asked for again.
    | ⟨.ok none, log⟩ => (.error (.missingSchema location), asked, log)
    | ⟨.ok (some document), log⟩ =>
      (.ok document, { asked with found := asked.found.put location.root document }, log)

def resolve (documents : Documents) (catalog : Catalog) (files : Files) (location : Location) :
    Except Error Json × Documents × List LogEntry :=
  match documents.document catalog files location with
  | (.error e, documents, log) => (.error e, documents, log)
  | (.ok document, documents, log) => match document.pointer? location.pointer with
    | some node => (.ok node, documents, log)
    | none => (.error (.missingSchema location), documents, log)

end Documents

end SchemaBeans
