import SchemaBeans.Plan

/-! Arrays become lists and have no source of their own. -/

namespace SchemaBeans.Generator

open Java (Source)

/-- A list of the type of the items. -/
def array : Generator := fun task =>
  let items := task.location.child "items"
  let refuse (reason : Unsupported) : Plan := .fail (.unsupported task.location reason)
  match task.schema.get? "items" with
  | none => refuse .arrayWithoutItems
  | some .null => refuse .arrayWithoutItems
  | some (.array _) => refuse .tupleItems
  | some (.object fields) => Plan.childType items (.object fields) fun
    | some t => .done (some t.listOf) .empty
    | none => .fail (.untyped items)
  | some _ =>
    .note ⟨.arrayGenerator, .warn, items.text ++ ": 'items' is not a schema object"⟩
      (refuse .itemsNotSchema)

end SchemaBeans.Generator
