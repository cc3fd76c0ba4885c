import SchemaBeans.Proofs.Generation.Once
import SchemaBeans.Proofs.Generator.Emission
import SchemaBeans.Proofs.Java.Scoping

/-! What the simple names in the sources of a run denote.

Every source of a run with the built-in generators is that of a class or of listed values, and in each of them the
names are those of a compilation unit. A source is written when it is not known yet which other types get one, so
a name in it can come to denote one of those. The main theorem says for which names this happens. -/

namespace SchemaBeans

open Java (Source CompilationUnit)

/-! ### Sources and units -/

/-- The unit of a source that a built-in generator writes for a type. -/
inductive Java.CompilationUnit.Declares : CompilationUnit → JavaType → Prop
  | members (t : JavaType) (members : List Member) : Declares (.ofMembers t members) t
  | values (style : EnumStyle) (t : JavaType) (values : List EnumValue) : Declares (.ofValues style t values) t

namespace Written
variable {e : Written} {u : CompilationUnit}

/-- The source is the text of a unit. -/
structure Shows (e : Written) (u : CompilationUnit) : Prop where
  unit : u.Declares e.type
  text : e.text = u.text

theorem exists_shows (h : e.Declares fun _ => True) (hpackage : e.type.package ≠ "") : ∃ u, e.Shows u := by
  rcases h with ⟨members, htext, -⟩ | ⟨style, values, htext⟩
  · refine ⟨_, .members e.type members, ?_⟩
    rw [htext, Source.text, lines_classSource hpackage]
    rfl
  · refine ⟨_, .values style e.type values, ?_⟩
    rw [htext, Source.text, lines_enumSource hpackage]
    rfl

theorem Shows.told (h : e.Shows u) (hpackage : e.type.package ≠ "") : u.type = e.type ∧ ∃ s, CompilationUnit.Told s u := by
  obtain ⟨hunit, -⟩ := h
  cases hunit with
  | members _ members => exact ⟨rfl, _, CompilationUnit.told_ofMembers hpackage members⟩
  | values style _ values => exact ⟨rfl, _, CompilationUnit.told_ofValues hpackage style values⟩

end Written

/-! ### Runs -/

namespace Session
variable {s t : Session} {l : Location}

/-- The sessions that runs with the built-in generators lead to. -/
inductive BuiltIn : Session → Prop
  | new (catalog : Catalog) (output : Output) (files : Files) : BuiltIn (Session.new catalog output files)
  | step {s t : Session} : BuiltIn s → Step s t → t.generators = .standard → BuiltIn t

/-- The packages and names of the types for which there is a source. -/
def emitted (s : Session) : List (String × String) := s.written.map (·.type.identity)

/-- The generators are the built-in ones, and so are the sources. -/
structure Typical (s : Session) : Prop where
  builtin : s.generators = .standard
  written : ∀ e ∈ s.written, e.Declares fun _ => True

theorem Typical.congr (h : Typical s) (hg : t.generators = s.generators) (hw : t.written = s.written) : Typical t :=
  ⟨hg.trans h.builtin, hw ▸ h.written⟩

theorem Typical.calm : Calm fun s t => Typical s → Typical t := .invariant fun hq h => h.congr hq.generators hq.written

theorem Typical.produces {ask : Location → Session → Outcome (Option JavaType)}
    (hask : ∀ {m u b v}, ask m u = some (b, v) → Typical u → Typical v) {requested : JavaType} {a : Answer}
    (h : Produces ask l requested s a t) (hs : Typical s) : Typical t := by
  have hopen : ∀ node, Typical (s.opened l node) := fun node => calm.quiet (opened_quiet s l node) hs
  cases h with
  | given _ => exact hs
  | refused _ _ hq => exact calm.quiet hq hs
  | reference _ _ _ ha => exact hask ha (calm.quiet (redirected_quiet _ _ _) hs)
  | null _ _ _ => exact hopen _
  | failed _ _ hrun => exact calm.run hask hrun (hopen _)
  | silent _ _ hrun _ => exact calm.run hask hrun (hopen _)
  | unwritten _ _ hrun _ _ hw =>
    have hu := calm.run hask hrun (hopen _)
    obtain ⟨_, _, _, rfl⟩ := write_error hw
    exact hu.congr rfl rfl
  | @written node generator a source text u _ _ hd hrun hfull hfin hw =>
    have hu := calm.run hask hrun (hopen _)
    obtain ⟨rfl, hsource⟩ := (hd.standard_ends hs.builtin hrun).written hfull
    have htext : text = source.text := by
      unfold Source.finish at hfin
      split at hfin <;> cases hfin
      rfl
    have hdeclares : (⟨l, requested, text⟩ : Written).Declares fun _ => True := by
      rcases hsource with ⟨members, rfl, -⟩ | ⟨style, values, rfl⟩
      · exact Or.inl ⟨members, htext, fun _ _ => trivial⟩
      · exact Or.inr ⟨style, values, htext⟩
    obtain ⟨_, _, _, rfl⟩ := write_ok hw
    refine ⟨hu.builtin, fun e he => ?_⟩
    rcases List.mem_append.mp he with he | he
    · exact hu.written e he
    · obtain rfl := List.mem_singleton.mp he
      exact hdeclares

theorem BuiltIn.typical (h : BuiltIn s) : Typical s := by
  induction h with
  | new catalog output files => exact ⟨rfl, by simp [Session.new]⟩
  | step _ hstep hg ih =>
    rcases hstep.cases with ⟨-, -, hw⟩ | ⟨fuel, l, a, ha⟩
    · exact ⟨hg, hw ▸ ih.written⟩
    · exact Typical.calm.generates (fun _ _ hw hg h => h.congr hg hw) (fun hask hp => Typical.produces hask hp) ha ih

/-- In every run with the built-in generators in which all types with a source have a package, every source is
    that of a unit, and a simple name in it denotes the type that it was written for exactly if this is primitive, or
    is not called like a primitive type, has a package, has a source where it is of the package of the unit, and is
    not of the name of a source there where it is of `java.lang`. -/
theorem simple_name_denotes_iff (h : BuiltIn s) (hpackages : ∀ e ∈ s.written, e.type.package ≠ "") :
    ∀ e ∈ s.written, (∃ u, e.Shows u) ∧ ∀ u, e.Shows u → u.Dotless → ∀ written y, (written, y) ∈ u.names →
      '.' ∉ written.toList → ((u.scope s.emitted).resolve written = y.identity ↔
        y.isPrimitive ∨ ¬Java.Scope.isWord y.name ∧ y.package ≠ "" ∧
          (y.package = e.type.package → y.package = JavaType.langPackage ∨ y.identity ∈ s.emitted) ∧
          (y.package = JavaType.langPackage → y.package ≠ e.type.package → (e.type.package, y.name) ∉ s.emitted)) := by
  intro e he
  have hpackage := hpackages e he
  refine ⟨Written.exists_shows (h.typical.written e he) hpackage, fun u hu hdots written y hn hsimple => ?_⟩
  obtain ⟨htype, source, htold⟩ := hu.told hpackage
  have hown : u.type.identity ∈ s.emitted := htype ▸ List.mem_map_of_mem he
  rw [← htype] at hpackage ⊢
  exact htold.resolve_iff hdots hpackage hown hn hsimple

end Session

/-! ### Labels -/

/-- A document with two schemas: an object called string, and a holder with a label and another holder. -/
def labelsDocument : Uri × Json :=
  (⟨"urn", "", none, none, none, .rootless "labels", none, none⟩,
    .object [("definitions", .object [("string", .object [("type", .string "object")]),
      ("holder", .object [("type", .string "object"), ("properties", .object
        [("label", .object [("type", .string "string")]), ("next", .object [("$ref", .string "#/definitions/holder")])])])])])

def labelsIn (name : String) : Location := ⟨labelsDocument.1, "/definitions/" ++ name⟩

def holderType : JavaType := .plain "anonymous" "Holder"

/-- The unit of a holder. Its label is written as `String`. -/
def holderUnit : CompilationUnit := .ofMembers holderType [⟨"label", .string⟩, ⟨"next", holderType⟩]

namespace Session

theorem labels_run : ∃ s, BuiltIn s ∧ s.written =
    [⟨labelsIn "string", .plain "anonymous" "String", (CompilationUnit.ofMembers (.plain "anonymous" "String") []).text⟩,
      ⟨labelsIn "holder", holderType, holderUnit.text⟩] := by
  have hrun : ((generateWithin 4 (labelsIn "string")
      (Session.new (.preloaded [labelsDocument]) (.memory .empty []) ⟨"/", []⟩)).bind fun r =>
        generateWithin 4 (labelsIn "holder") r.2).map (fun r => r.2.written) =
      some [⟨labelsIn "string", .plain "anonymous" "String",
          (CompilationUnit.ofMembers (.plain "anonymous" "String") []).text⟩,
        ⟨labelsIn "holder", holderType, holderUnit.text⟩] := by decide +kernel
  obtain ⟨⟨_, s⟩, hbind, hs⟩ := Option.map_eq_some_iff.mp hrun
  obtain ⟨⟨_, u⟩, hstring, hholder⟩ := Option.bind_eq_some_iff.mp hbind
  have hu : u.generators = .standard := (generateWithin_keeps hstring).generators
  have hs' : s.generators = .standard := (generateWithin_keeps hholder).generators.trans hu
  exact ⟨s, ((BuiltIn.new _ _ _).step (.request hstring) hu).step (.request hholder) hs', hs⟩

theorem holderUnit_dotless : holderUnit.Dotless := by
  have hnames : ∀ n ∈ holderUnit.names, '.' ∉ n.2.name.toList := by decide +kernel
  exact hnames

/-- In the source of a holder the name of a holder denotes it. -/
theorem simple_name_denotes_iff_holder : ∃ s, ∃ e ∈ s.written, BuiltIn s ∧ (∀ e ∈ s.written, e.type.package ≠ "") ∧
    e.Shows holderUnit ∧ holderUnit.Dotless ∧ ("Holder", holderType) ∈ holderUnit.names ∧
    (holderUnit.scope s.emitted).resolve "Holder" = holderType.identity := by
  obtain ⟨s, hs, hwritten⟩ := labels_run
  have he : ⟨labelsIn "holder", holderType, holderUnit.text⟩ ∈ s.written := by simp [hwritten]
  have hpackages : ∀ e ∈ s.written, e.type.package ≠ "" := by
    rw [hwritten]
    decide +kernel
  have hshows : (⟨labelsIn "holder", holderType, holderUnit.text⟩ : Written).Shows holderUnit := ⟨.members _ _, rfl⟩
  have hname : ("Holder", holderType) ∈ holderUnit.names := by decide +kernel
  have hdenotes := (simple_name_denotes_iff hs hpackages _ he).2 holderUnit hshows holderUnit_dotless "Holder" holderType
    hname (by decide)
  refine ⟨s, _, he, hs, hpackages, hshows, holderUnit_dotless, hname,
    hdenotes.mpr (Or.inr ⟨by decide, by decide, fun _ => Or.inr ?_, ?_⟩)⟩
  · exact List.mem_map_of_mem he
  · intro hlang
    exact absurd hlang (by decide)

/-- In the source of a holder the label is written as `String` for `java.lang.String`, and the name denotes the
    object called string. -/
theorem lang_name_captured : ∃ s, ∃ e ∈ s.written, BuiltIn s ∧ (∀ e ∈ s.written, e.type.package ≠ "") ∧
    e.Shows holderUnit ∧ holderUnit.Dotless ∧ ("String", JavaType.string) ∈ holderUnit.names ∧
    (holderUnit.scope s.emitted).resolve "String" = ("anonymous", "String") ∧
    JavaType.string.identity ≠ ("anonymous", "String") := by
  obtain ⟨s, hs, hwritten⟩ := labels_run
  refine ⟨s, ⟨labelsIn "holder", holderType, holderUnit.text⟩, by simp [hwritten], hs, ?_, ⟨.members _ _, rfl⟩,
    holderUnit_dotless, by decide +kernel, ?_, by decide⟩
  · rw [hwritten]
    decide +kernel
  · rw [emitted, hwritten]
    decide +kernel

end Session

end SchemaBeans
