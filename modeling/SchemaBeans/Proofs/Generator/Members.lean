import SchemaBeans.Proofs.Generator.Emission
import SchemaBeans.Proofs.Java.Imports
import SchemaBeans.Proofs.Names.Free

/-! The members of the class for an object.

A schema has a slot for each property that has a schema of its own, and one for the properties that it does not
list. The class has one member for each slot, in order (`Generator.Fills`), and is laid out as one field, one getter
and one setter for each member. The accessors of a member are told apart from those of the members before it by its
stem, so all names in a class differ. -/

namespace SchemaBeans

open Java (Source Line Row accessorName)

/-! ### Stems of numbered names -/

theorem Text.uppercase_digit {c : Char} (hc : c.isDigit = true) : uppercase c = [c] := by
  simp only [Char.isDigit, Bool.and_eq_true, decide_eq_true_eq, ge_iff_le, UInt32.le_iff_toNat_le] at hc
  have hzero : ('0' : Char).val.toNat = 48 := rfl
  have hnine : ('9' : Char).val.toNat = 57 := rfl
  have hascii : c.toNat < 0x80 := by
    show c.val.toNat < 0x80
    omega
  have hletter : ¬(c.val ≥ 'a'.val ∧ c.val ≤ 'z'.val) := by
    rintro ⟨ha, -⟩
    simp only [ge_iff_le, UInt32.le_iff_toNat_le] at ha
    have : ('a' : Char).val.toNat = 97 := rfl
    omega
  have hupper : c.toUpper = c := dif_neg hletter
  rw [uppercase, if_pos hascii, hupper]

/-- What a numbered name adds to the name. -/
def Numbering.suffix (number : Nat) : List Char := (candidate "" "" number).toList

namespace Numbering

theorem toList_candidate (name : String) (k : Nat) : (candidate name "" k).toList = name.toList ++ suffix k := by
  unfold suffix candidate
  split <;> simp

theorem suffix_injective {i j : Nat} (h : suffix i = suffix j) : i = j :=
  candidate_injective (String.toList_inj.mp h)

theorem isDigit_of_mem_suffix {c : Char} {k : Nat} (h : c ∈ suffix k) : c.isDigit = true := by
  unfold suffix candidate at h
  split at h
  · simp at h
  · simp only [String.append_empty, String.empty_append, decimal, String.toList_ofList] at h
    exact Nat.isDigit_of_mem_toDigits (by decide) (by decide) h

end Numbering

namespace Member

theorem stem_candidate_injective {name : String} {i j : Nat}
    (h : stem (Numbering.candidate name "" i) = stem (Numbering.candidate name "" j)) : i = j := by
  simp only [stem, accessorName, String.empty_append, String.ofList_inj, Numbering.toList_candidate,
    List.dropWhile_append] at h
  split at h
  · -- The name is all underscores, so the stems are the numbers.
    have hstem : ∀ k, Text.capitalize ((Numbering.suffix k).dropWhile (· == '_')) = Numbering.suffix k := by
      intro k
      rcases hs : Numbering.suffix k with _ | ⟨c, rest⟩
      · rfl
      · have hc : c.isDigit = true := Numbering.isDigit_of_mem_suffix (hs ▸ List.mem_cons_self)
        have hne : (c == '_') = false := by
          refine beq_eq_false_iff_ne.mpr ?_
          rintro rfl
          exact absurd hc (by decide)
        rw [List.dropWhile_cons, hne, if_neg Bool.false_ne_true, Text.capitalize, Text.uppercase_digit hc]
        rfl
    rw [hstem, hstem] at h
    exact Numbering.suffix_injective h
  · rename_i hname
    rcases hd : name.toList.dropWhile (· == '_') with _ | ⟨c, rest⟩
    · exact absurd (by simp [hd]) hname
    · rw [hd, List.cons_append, List.cons_append, Text.capitalize, Text.capitalize, ← List.append_assoc,
        ← List.append_assoc] at h
      exact Numbering.suffix_injective (List.append_cancel_left h)

theorem stem_named_not_mem (before : List Member) (name : String) (t : JavaType) :
    stem (named before name t).field ∉ before.map (stem ·.field) := by
  have hfree := Numbering.pick_free_of_key (fun n => (before.map (stem ·.field)).contains (stem n)) name "" stem
    stem_candidate_injective (before.map (stem ·.field)) (Nat.le_of_eq (List.length_map _))
    fun n hn => by simpa using hn
  intro hmem
  exact Bool.false_ne_true (hfree.symm.trans (List.contains_iff_mem.mpr hmem))

theorem field_named_of_free {before : List Member} {name : String} (h : stem name ∉ before.map (stem ·.field))
    (t : JavaType) : (named before name t).field = name := by
  have hfree : (!(before.map (stem ·.field)).contains (stem (Numbering.candidate name "" 1))) = true := by
    simpa [Numbering.candidate] using h
  show Numbering.candidate name "" (Numbering.firstFree _ before.length 1) = name
  cases before.length with
  | zero => rfl
  | succ n =>
    rw [Numbering.firstFree, if_pos hfree]
    rfl

end Member

/-! ### Slots -/

namespace Generator

/-- What a class gets a member for: a property with its schema, or the schema of the properties that are not
    listed. -/
inductive Slot where
  | property (name : String) (schema : Json)
  | others (schema : Json)

namespace Slot

/-- The name that is meant for the field. -/
def field : Slot → String
  | .property name _ => Java.fieldName name
  | .others _ => additionalProperties

def schema : Slot → Json
  | .property _ schema => schema
  | .others schema => schema

/-- Where the schema stands, in an object at a location. -/
def location (l : Location) : Slot → Location
  | .property name _ => (l.child "properties").child name
  | .others _ => l.child additionalProperties

/-- The type of the field, given the type of the schema. -/
def type : Slot → JavaType → JavaType
  | .property _ _, t => t
  | .others _, t => t.mapOf

/-- The member has the type that the schema of the slot was answered with. -/
def Holds (D : Location → Option JavaType → Prop) (l : Location) (slot : Slot) (m : Member) : Prop :=
  ∃ target t, Reference.typeTarget? (slot.location l) slot.schema = .ok (some target) ∧ D target (some t) ∧
    m.type = slot.type t

end Slot

/-- The slots for listed properties: those whose values are schemas. -/
def listedSlots (fields : List (String × Json)) : List Slot :=
  (fields.filter (·.2.isContainer)).map fun field => .property field.1 field.2

/-- The slots of a schema, in the order of its members. -/
def slots (schema : Json) : List Slot :=
  listedSlots (properties schema) ++
    ((schema.get? additionalProperties).filter Json.isContainer).toList.map .others

/-- Members for slots, one after the other, where some members are there before. -/
inductive Fills (D : Location → Option JavaType → Prop) (l : Location) : List Member → List Slot → List Member → Prop
  | nil {before : List Member} : Fills D l before [] []
  | cons {before members : List Member} {slot : Slot} {rest : List Slot} {m : Member} : slot.Holds D l m →
      m = .named before slot.field m.type → Fills D l (before ++ [m]) rest members →
      Fills D l before (slot :: rest) (m :: members)

section Fills
variable {D : Location → Option JavaType → Prop} {l : Location} {before members more : List Member}
  {front rest : List Slot}

theorem Fills.append (h : Fills D l before front members) (h' : Fills D l (before ++ members) rest more) :
    Fills D l before (front ++ rest) (members ++ more) := by
  induction h with
  | nil => simpa using h'
  | cons hm hname _ ih => exact .cons hm hname (ih (by simpa using h'))

theorem Fills.holds (h : Fills D l before rest members) : List.Forall₂ (Slot.Holds D l) rest members := by
  induction h with
  | nil => exact .nil
  | cons hm _ _ ih => exact .cons hm ih

theorem Fills.stems (h : Fills D l before rest members) (hbefore : (before.map (Member.stem ·.field)).Nodup) :
    ((before ++ members).map (Member.stem ·.field)).Nodup := by
  induction h with
  | nil => simpa using hbefore
  | @cons before members slot rest m _ hname _ ih =>
    have hnew : Member.stem m.field ∉ before.map (Member.stem ·.field) := by
      rw [hname]
      exact Member.stem_named_not_mem before slot.field m.type
    have hnext : ((before ++ [m]).map (Member.stem ·.field)).Nodup := by
      rw [List.map_append]
      exact hbefore.append (List.nodup_singleton _) (List.disjoint_singleton.mpr hnew)
    simpa using ih hnext

/-- A member has the name that is meant for it with a number, and keeps that name if its accessors are not those of a
    member before it. -/
theorem Fills.kept (h : Fills D l before rest members) {i : Nat} {slot : Slot} {m : Member} (hslot : rest[i]? = some slot)
    (hm : members[i]? = some m) : (∃ k, m.field = Numbering.candidate slot.field "" k) ∧
      (Member.stem slot.field ∉ (before ++ members.take i).map (Member.stem ·.field) → m.field = slot.field) := by
  induction h generalizing i with
  | nil => simp at hslot
  | @cons before members first rest m' _ hname _ ih =>
    cases i with
    | zero =>
      simp only [List.getElem?_cons_zero, Option.some.injEq] at hslot hm
      subst hslot hm
      rw [hname]
      exact ⟨⟨_, rfl⟩, fun hfree => Member.field_named_of_free (by simpa using hfree) _⟩
    | succ i => simpa using ih hslot hm

end Fills

/-! ### Filling the slots -/

end Generator

theorem Reference.isContainer_of_typeTarget? {l : Location} {node : Json} {target : Option Location}
    (h : typeTarget? l node = .ok target) : node.isContainer = target.isSome := by
  unfold typeTarget? child? at h
  split at h
  · rename_i hnode
    split at h <;> cases h <;> exact hnode
  · rename_i hnode
    cases h
    exact Bool.eq_false_iff.mpr hnode

namespace Generator
variable {D : Location → Option JavaType → Prop} {l : Location} {a : Option JavaType} {source : Source}

theorem collect_fills {fields : List (String × Json)} {before : List Member} {next : List Member → Plan}
    (h : (collect (l.child "properties") fields before next).Yields D a source) :
    ∃ members, Fills D l before (listedSlots fields) members ∧ (next (before ++ members)).Yields D a source := by
  induction fields generalizing before with
  | nil => exact ⟨[], .nil, by simpa [collect] using h⟩
  | cons field rest ih =>
    obtain ⟨name, node⟩ := field
    unfold collect at h
    rcases Plan.Yields.of_childType h with ⟨htarget, h⟩ | ⟨target, t, htarget, hd, h⟩
    -- A value without parts has no slot.
    · have hnode : node.isContainer = false := Reference.isContainer_of_typeTarget? htarget
      cases h with
      | note h =>
        obtain ⟨members, hfills, hnext⟩ := ih h
        exact ⟨members, by simpa [listedSlots, hnode] using hfills, hnext⟩
    · have hnode : node.isContainer = true := Reference.isContainer_of_typeTarget? htarget
      obtain ⟨members, hfills, hnext⟩ := ih h
      refine ⟨.named before (Java.fieldName name) t :: members, ?_, by simpa using hnext⟩
      have hslots : listedSlots ((name, node) :: rest) = .property name node :: listedSlots rest := by
        simp [listedSlots, hnode]
      rw [hslots]
      exact .cons ⟨target, t, htarget, hd, rfl⟩ rfl hfills

theorem collectAdditional_fills {task : Task} {before : List Member} {next : List Member → Plan}
    (h : (collectAdditional task before next).Yields D a source) :
    ∃ members, Fills D task.location before
      (((task.schema.get? additionalProperties).filter Json.isContainer).toList.map .others) members ∧
      (next (before ++ members)).Yields D a source := by
  unfold collectAdditional at h
  cases hn : task.schema.get? additionalProperties with
  | none =>
    rw [hn] at h
    exact ⟨[], .nil, by simpa using h⟩
  | some node =>
    rw [hn] at h
    rcases Plan.Yields.of_childType h with ⟨htarget, h⟩ | ⟨target, t, htarget, hd, h⟩
    · have hnode : node.isContainer = false := Reference.isContainer_of_typeTarget? htarget
      refine ⟨[], ?_, by simpa using h⟩
      simpa [Option.filter, hnode] using Fills.nil
    · have hnode : node.isContainer = true := Reference.isContainer_of_typeTarget? htarget
      refine ⟨[.named before additionalProperties t.mapOf], ?_, h⟩
      simp only [Option.filter, hnode, if_true, Option.toList_some, List.map_cons, List.map_nil]
      exact .cons ⟨target, t, htarget, hd, rfl⟩ rfl .nil

theorem object_fills {task : Task} (h : (object task).Yields D a source) :
    a = some task.requested ∧ ∃ members, Fills D task.location [] (slots task.schema) members ∧
      source = classSource task.requested members := by
  obtain ⟨listed, hlisted, h⟩ := collect_fills h
  obtain ⟨others, hothers, h⟩ := collectAdditional_fills h
  cases h
  exact ⟨rfl, listed ++ others, hlisted.append hothers, rfl⟩

/-! ### Layout -/

/-- What precedes the declaration in a source: its package and its imports. -/
structure Precedes (t : JavaType) (s : Source) : Prop where
  opened : s.opened = []
  depth : s.depth = 0
  declared : t.name ∈ s.declared
  lines : ∀ line ∈ s.lines.toList, (∃ package, line = .package package) ∨ ∃ qualified, line = .imports qualified

theorem Precedes.importOne {t : JavaType} {s : Source} (h : Precedes t s) (x : JavaType) : Precedes t (s.importOne x) := by
  unfold Source.importOne
  split
  · exact ⟨h.opened, h.depth, h.declared, h.lines⟩
  · split
    · exact h
    · split
      · exact h
      · split
        · exact h
        · refine ⟨h.opened, h.depth, h.declared, fun line hline => ?_⟩
          simp only [Source.write, Array.toList_push, List.mem_append, List.mem_singleton] at hline
          rcases hline with hline | rfl
          · exact h.lines line hline
          · exact Or.inr ⟨_, rfl⟩

theorem precedes_declarePackage (t : JavaType) : Precedes t (Source.empty.declarePackage t) := by
  have hdeclared : t.name ∈ Source.empty.declared.insert t.name := List.mem_insert_self
  unfold Source.declarePackage
  dsimp only
  split
  · exact ⟨rfl, rfl, hdeclared, by simp [Source.empty]⟩
  · refine ⟨rfl, rfl, hdeclared, fun line hline => Or.inl ⟨t.package, ?_⟩⟩
    simpa [Source.write, Source.empty] using hline

theorem precedes_head (t : JavaType) (members : List Member) : Precedes t (Member.head t members) := by
  have himport : ∀ {s : Source} (x : JavaType), Precedes t s → Precedes t (s.importType x) := by
    intro s x h
    rw [Source.importType_eq_foldl]
    induction x.components generalizing s with
    | nil => exact h
    | cons y rest ih => exact ih (h.importOne y)
  have hfold : ∀ {s : Source}, Precedes t s → Precedes t (members.foldl (fun s m => s.importType m.type) s) := by
    induction members with
    | nil => exact id
    | cons m rest ih => exact fun h => ih (himport m.type h)
  exact hfold (precedes_declarePackage t)

/-- The rows of a class: the fields of its members, then a getter and a setter for each. -/
def classRows (t : JavaType) (members : List Member) : List Row :=
  let s := Member.head t members
  frameRows .classType t (members.map (Member.fieldRow s) ++ members.flatMap (Member.accessorRows s))

theorem lines_class (t : JavaType) (members : List Member) : ∃ preamble : List Line,
    (classSource t members).lines.toList = preamble ++ (classRows t members).map Row.line ∧
    ∀ line ∈ preamble, line = .blank ∨ (∃ package, line = .package package) ∨ ∃ qualified, line = .imports qualified := by
  have hhead := precedes_head t members
  have hlines : (classSource t members).lines.toList = _ :=
    Source.lines_frame hhead.opened hhead.depth hhead.declared fun h => Member.wrote_all h members
  rw [List.map_append, ← List.append_assoc] at hlines
  refine ⟨_, hlines, fun line hline => ?_⟩
  rcases List.mem_append.mp hline with hline | hline
  · exact Or.inr (hhead.lines line hline)
  · split at hline
    · cases hline
    · exact Or.inl (List.mem_singleton.mp hline)

end Generator

/-! ### The class for an object -/

namespace Session
variable {ask : Location → Session → Outcome (Option JavaType)} {task : Task} {s t : Session} {a : Option JavaType}

theorem run_object_yields {source : Source} (h : (Generator.object task).run ask s = some (.ok (a, source), t)) :
    (Generator.object task).Yields (fun target b => ∃ u v, ask target u = some (.ok b, v)) a source := by
  have hfits := @Generator.object_fits (fun _ => True) task (fun _ _ _ _ => trivial) fun _ _ _ _ => trivial
  exact hfits.run_yields h

/-- A generation with the generator for objects ends with the source of a class, and writes it. -/
theorem perform_object (h : perform ask Generator.object task s = some (.ok a, t)) :
    a = some task.requested ∧ ∃ members,
      Generator.Fills (fun target b => ∃ u v, ask target u = some (.ok b, v)) task.location []
        (Generator.slots task.schema) members ∧
      t.written.getLast? =
        some ⟨task.location, task.requested, (Generator.classSource task.requested members).text⟩ := by
  unfold perform at h
  split at h
  · cases h
  · cases h
  · rename_i a' source u hrun
    obtain ⟨rfl, members, hfills, rfl⟩ := Generator.object_fills (run_object_yields hrun)
    rw [if_neg (by simp [Generator.classSource, Generator.isEmpty_withType]),
      Source.finish_of_closed (Generator.classSource_closed _ _)] at h
    dsimp only at h
    split at h
    · cases h
    · rename_i hwrite
      cases h
      obtain ⟨_, _, _, rfl⟩ := write_ok hwrite
      exact ⟨rfl, members, hfills, by simp⟩

open Generator in
/-- When a generation with the generator for objects succeeds, the last source that was written is that of the class
    that was asked for. It has a member for each slot of the schema, in order, each of the type that the schema in the
    slot was answered with, and consists of a field, a getter and a setter for each member. All fields have different
    names, and so have all getters and all setters; a field keeps the name that is meant for it unless its accessors
    are those of a field before it. -/
theorem class_has_members (h : perform ask Generator.object task s = some (.ok a, t)) :
    a = some task.requested ∧ ∃ (members : List Member) (preamble : List Line),
      t.written.getLast? = some ⟨task.location, task.requested,
        String.join ((preamble ++ (classRows task.requested members).map Row.line).map Line.text)⟩ ∧
      (∀ line ∈ preamble, line = .blank ∨ (∃ package, line = .package package) ∨ ∃ qualified, line = .imports qualified) ∧
      List.Forall₂ (Slot.Holds (fun target b => ∃ u v, ask target u = some (.ok b, v)) task.location)
        (slots task.schema) members ∧
      (members.map (·.field)).Nodup ∧ (members.map (accessorName "get" ·.field)).Nodup ∧
      (members.map (accessorName "set" ·.field)).Nodup ∧
      ∀ (i : Nat) slot m, (slots task.schema)[i]? = some slot → members[i]? = some m →
        (∃ k, m.field = Numbering.candidate slot.field "" k) ∧
        (Member.stem slot.field ∉ (members.take i).map (Member.stem ·.field) → m.field = slot.field) := by
  obtain ⟨ha, members, hfills, hwritten⟩ := perform_object h
  obtain ⟨preamble, hlines, hpreamble⟩ := lines_class task.requested members
  rw [Source.text, hlines] at hwritten
  have hstems : (members.map (Member.stem ·.field)).Nodup := hfills.stems List.nodup_nil
  -- Names that are the same would have the same stems.
  have hnames : ∀ {f : Member → String}, (∀ m n : Member, f m = f n → Member.stem m.field = Member.stem n.field) →
      (members.map f).Nodup := by
    intro f hf
    rw [List.Nodup, List.pairwise_map] at hstems ⊢
    exact hstems.imp fun hne heq => hne (hf _ _ heq)
  have haccessors : ∀ word, (members.map (accessorName word ·.field)).Nodup := by
    refine fun word => hnames fun m n heq => ?_
    simpa [accessorName, Member.stem] using heq
  refine ⟨ha, members, preamble, hwritten, hpreamble, hfills.holds, hnames fun m n heq => by rw [heq],
    haccessors "get", haccessors "set", fun i slot m hslot hm => ?_⟩
  simpa using hfills.kept hslot hm

end Session

/-! ### A grid -/

/-- A document with one schema: a cell whose coordinates differ only by case, with a label that has no schema, and
    numbers besides. -/
def gridDocument : Uri × Json :=
  (⟨"urn", "", none, none, none, .rootless "grid", none, none⟩,
    .object [("properties", .object [("x", .object [("type", .string "integer")]), ("label", .bool true),
        ("X", .object [("type", .string "string")])]),
      ("additionalProperties", .object [("type", .string "number")])])

def gridTask : Task := ⟨⟨gridDocument.1, ""⟩, .plain "grid" "Cell", gridDocument.2, .empty⟩

def gridSession : Session := .new (.preloaded [gridDocument]) (.memory .empty []) ⟨"/", []⟩

namespace Session

/-- A cell has three members, the first of which is called as its property. -/
theorem class_has_members_grid : ∃ a t, ∃ members : List Member, perform (generateWithin 3) Generator.object gridTask gridSession =
      some (.ok a, t) ∧ a = some (.plain "grid" "Cell") ∧ members.length = 3 ∧ (members.map Member.field).Nodup ∧
    ∃ m, members[0]? = some m ∧ m.field = "x" := by
  have hrun : (perform (generateWithin 3) Generator.object gridTask gridSession).map (fun r => r.1.toBool) =
      some true := by decide +kernel
  obtain ⟨⟨answer, t⟩, hperform, hanswer⟩ := Option.map_eq_some_iff.mp hrun
  cases answer with
  | error e => cases hanswer
  | ok a =>
    obtain ⟨ha, members, preamble, -, -, hslots, hfields, -, -, hkept⟩ := class_has_members hperform
    have hlength : members.length = 3 := hslots.length_eq.symm.trans (by decide +kernel)
    obtain ⟨m, hm⟩ : ∃ m, members[0]? = some m := ⟨members[0], List.getElem?_eq_getElem (by omega)⟩
    have hslot : (Generator.slots gridTask.schema)[0]? = some (.property "x" (.object [("type", .string "integer")])) := rfl
    have hname := (hkept 0 _ m hslot hm).2 (by simp)
    exact ⟨a, t, members, hperform, ha, hlength, hfields, m, hm, hname.trans (by decide +kernel)⟩

end Session

end SchemaBeans
