import SchemaBeans.Java.Source
import SchemaBeans.Log
import SchemaBeans.Reference

/-! Plans: what a generator does for one location.

A generator looks at a schema and answers with a plan. A plan asks for the types of other locations one
after the other, each answer deciding how it goes on, and ends with the type of its own location and the
source written for it. Nothing else can be reached from a plan. -/

namespace SchemaBeans

open Java (Source)

/-- The type of a location, nothing for one that has no type, or why there is none. -/
abbrev Answer := Except Error (Option JavaType)

/-- A schema that a type is to be generated for. -/
structure Task where
  location : Location
  /-- The type the location is to have if it gets one of its own. -/
  requested : JavaType
  schema : Json
  features : Features

/-- What is done for a task. -/
inductive Plan where
  /-- Ends with a type; an empty source is not written. -/
  | done (type : Option JavaType) (source : Source)
  | fail (error : Error)
  /-- Notes a message and goes on. -/
  | note (entry : LogEntry) (next : Plan)
  /-- Asks for the type of a location and goes on with the answer. -/
  | request (location : Location) (next : Answer → Plan)

/-- A generator for one kind of schema. -/
abbrev Generator := Task → Plan

namespace Plan

/-- Goes on with the type of a location; one without a type cannot be used. -/
def require (location : Location) (next : JavaType → Plan) : Plan :=
  .request location fun
    | .ok (some t) => next t
    | .ok none => .fail (.untyped location)
    | .error e => .fail e

/-- Goes on with the type of a child schema, or with nothing if the node is no schema. -/
def childType (location : Location) (node : Json) (next : Option JavaType → Plan) : Plan :=
  match Reference.typeTarget? location node with
  | .error e => .fail e
  | .ok none => next none
  | .ok (some target) => require target fun t => next (some t)

end Plan

end SchemaBeans
