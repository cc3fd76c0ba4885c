import SchemaBeans.Proofs.Generation.Keeps
import SchemaBeans.Proofs.Generator.Plans

/-! What the built-in generators end with.

A run of a plan that comes to its end is one in which every request was answered. With that, a built-in
generator ends in one of four ways (`Generator.Ends`): with a basic type or a list and nothing to write, or
with the type it was asked for and the source of a class or of listed values. Such a source is written by a
well-nested script, and complete. -/

namespace SchemaBeans

open Java (Source)
open Text (openBrace closeBrace)

/-! ### Runs of plans -/

/-- In a run that comes to its end every request was answered, between the first session and the last. -/
theorem Session.Calm.run_yields {R : Session → Session → Prop} (hR : Calm R)
    {ask : Location → Session → Outcome (Option JavaType)} {P : Location → Prop} {Q : Option JavaType → Source → Prop}
    (hask : ∀ {l s b t}, P l → ask l s = some (.ok b, t) → R s t) {plan : Plan} (hfits : plan.Fits P Q) {s t : Session}
    {a : Option JavaType} {source : Source} (hrun : plan.run ask s = some (.ok (a, source), t)) :
    R s t ∧ plan.Yields (fun l b => P l ∧ ∃ u v, R s u ∧ ask l u = some (.ok b, v) ∧ R v t) a source := by
  induction plan generalizing s with
  | done type source =>
    cases hrun
    exact ⟨hR.quiet (Quiet.refl _), .done⟩
  | fail e => cases hrun
  | note entry next ih =>
    have hq := hR.quiet (Quiet.note s entry)
    obtain ⟨hst, hy⟩ := ih hfits hrun
    refine ⟨hR.trans hq hst, .note (hy.mono ?_)⟩
    rintro l b ⟨hl, u, v, hsu, ha, hvt⟩
    exact ⟨hl, u, v, hR.trans hq hsu, ha, hvt⟩
  | request l next ih =>
    obtain ⟨hl, hfail, hnext⟩ := hfits
    unfold Plan.run at hrun
    split at hrun
    · cases hrun
    · rename_i answer u ha
      cases answer with
      | error e =>
        -- The plan passes an error on, and would not have come to its end.
        rw [hfail e] at hrun
        cases hrun
      | ok b =>
        have hsu := hask hl ha
        obtain ⟨hut, hy⟩ := ih (.ok b) (hnext b) hrun
        refine ⟨hR.trans hsu hut, .request ⟨hl, s, u, hR.quiet (Quiet.refl s), ha, hut⟩ (hy.mono ?_)⟩
        rintro m c ⟨hm, v, v', huv, hc, hvt⟩
        exact ⟨hm, v, v', hR.trans hsu huv, hc, hvt⟩

theorem Plan.Fits.run_yields {P : Location → Prop} {Q : Option JavaType → Source → Prop} {plan : Plan} (h : plan.Fits P Q)
    {ask : Location → Session → Outcome (Option JavaType)} {s t : Session} {a : Option JavaType} {source : Source}
    (hrun : plan.run ask s = some (.ok (a, source), t)) :
    plan.Yields (fun l b => ∃ u v, ask l u = some (.ok b, v)) a source := by
  have hcalm : Session.Calm fun _ _ => True := ⟨fun _ _ => trivial, fun _ => trivial⟩
  refine (hcalm.run_yields (fun _ _ => trivial) h hrun).2.mono ?_
  rintro l b ⟨-, u, v, -, ha, -⟩
  exact ⟨u, v, ha⟩

/-! ### Ends -/

namespace Generator

/-- How a built-in generator ends if requests are answered as `D` says. -/
inductive Ends (D : Location → Option JavaType → Prop) (task : Task) : Option JavaType → Source → Prop
  | basic {t : JavaType} : Kind.of task.location task.schema ≠ .ok (some "object") →
      (t = .string ∨ t = .long ∨ t = .double ∨ t = .boolean) → Ends D task (some t) .empty
  | list {target : Location} {t : JavaType} : Kind.of task.location task.schema = .ok (some "array") →
      D target (some t) → Ends D task (some t.listOf) .empty
  | members {members : List Member} : Kind.of task.location task.schema = .ok (some "object") →
      (∀ m ∈ members, ∃ target t, D target (some t) ∧ (m.type = t ∨ m.type = t.mapOf)) →
      Ends D task (some task.requested) (classSource task.requested members)
  | values {style : EnumStyle} {values : List EnumValue} : Kind.of task.location task.schema = .ok (some "string") →
      Ends D task (some task.requested) (enumSource style task.requested values)

theorem isEmpty_withType {α : Type} (s : Source) (t : JavaType) (kind : Java.DeclarationKind) (v : Java.Visibility)
    (body : Source → α × Source) : (s.withType t kind v body).2.isEmpty = false := by
  simp [Source.withType, Source.closeType, Source.line, Source.write, Source.isEmpty]

theorem isEmpty_enumSource (style : EnumStyle) (t : JavaType) (values : List EnumValue) :
    (enumSource style t values).isEmpty = false := by
  cases style <;> exact isEmpty_withType _ _ _ _ _

variable {D : Location → Option JavaType → Prop} {task : Task} {a : Option JavaType} {source : Source}

theorem Ends.silent (h : Ends D task a source) (hs : source.isEmpty = true) :
    Kind.of task.location task.schema ≠ .ok (some "object") ∧
      ∃ t, a = some t ∧ ((t = .string ∨ t = .long ∨ t = .double ∨ t = .boolean) ∨
        ∃ target x, D target (some x) ∧ t = x.listOf) := by
  cases h with
  | basic hk ht => exact ⟨hk, _, rfl, Or.inl ht⟩
  | list hk hd => exact ⟨by simp [hk], _, rfl, Or.inr ⟨_, _, hd, rfl⟩⟩
  | members _ _ => exact absurd hs (by simp [classSource, isEmpty_withType])
  | values _ => exact absurd hs (by simp [isEmpty_enumSource])

theorem Ends.written (h : Ends D task a source) (hs : source.isEmpty = false) :
    a = some task.requested ∧
      ((∃ members, source = classSource task.requested members ∧
        ∀ m ∈ members, ∃ target t, D target (some t) ∧ (m.type = t ∨ m.type = t.mapOf)) ∨
      ∃ style values, source = enumSource style task.requested values) := by
  cases h with
  | basic _ _ => cases hs
  | list _ _ => cases hs
  | members _ hmembers => exact ⟨rfl, Or.inl ⟨_, rfl, hmembers⟩⟩
  | values _ => exact ⟨rfl, Or.inr ⟨_, _, rfl⟩⟩

theorem object_ends (hk : Kind.of task.location task.schema = .ok (some "object"))
    (h : (object task).Yields D a source) : Ends D task a source := by
  obtain ⟨-, listed, hlisted, hmore⟩ := collect_yields h
  have hlisted' : ∀ m ∈ listed, ∃ target t, D target (some t) ∧ (m.type = t ∨ m.type = t.mapOf) := by
    intro m hm
    obtain ⟨target, hd⟩ := (hlisted m hm).resolve_left List.not_mem_nil
    exact ⟨target, m.type, hd, Or.inl rfl⟩
  unfold collectAdditional at hmore
  rcases hn : task.schema.get? additionalProperties with _ | node <;> rw [hn] at hmore
  · cases hmore
    exact .members hk hlisted'
  · rcases Plan.Yields.of_childType hmore with ⟨-, h⟩ | ⟨target, t, -, hd, h⟩
    · cases h
      exact .members hk hlisted'
    · cases h
      refine .members hk fun m hm => ?_
      rcases List.mem_append.mp hm with hm | hm
      · exact hlisted' m hm
      · obtain rfl := List.mem_singleton.mp hm
        exact ⟨target, t, hd, Or.inr rfl⟩

theorem string_ends (hk : Kind.of task.location task.schema = .ok (some "string"))
    (h : (string task).Yields D a source) : Ends D task a source := by
  have hne : Kind.of task.location task.schema ≠ .ok (some "object") := by simp [hk]
  unfold string at h
  split at h
  · cases h
    exact .basic hne (Or.inl rfl)
  · split at h
    · cases h
      exact .basic hne (Or.inl rfl)
    · split at h
      · cases h
        exact .values hk
      · cases h

theorem standard_ends {kind : String} {generator : Generator}
    (hg : Generators.standard.get? kind = some generator)
    (hk : Kind.of task.location task.schema = .ok (some kind)) (h : (generator task).Yields D a source) :
    Ends D task a source := by
  rcases Generators.standard_cases hg with ⟨rfl, rfl⟩ | ⟨rfl, rfl⟩ | ⟨rfl, rfl⟩ | ⟨t, rfl, ht⟩
  · exact object_ends hk h
  · obtain ⟨_, target, t, -, -, hd, rfl, rfl⟩ := array_yields h
    exact .list hk hd
  · exact string_ends hk h
  · cases h
    refine .basic ?_ ?_
    · rw [hk]
      rcases ht with ⟨rfl, -⟩ | ⟨rfl, -⟩ | ⟨rfl, -⟩ <;> simp
    · rcases ht with ⟨-, rfl⟩ | ⟨-, rfl⟩ | ⟨-, rfl⟩ <;> simp

end Generator

theorem Session.Dispatches.standard_yields {R : Session → Session → Prop} (hR : Calm R)
    {ask : Location → Session → Outcome (Option JavaType)} (hask : ∀ {m u b v}, ask m u = some (.ok b, v) → R u v)
    {s t : Session} {l : Location} {node : Json} {generator : Generator} {bound : JavaType} {a : Option JavaType}
    {source : Source} (hd : s.Dispatches l node generator) (hg : s.generators = .standard)
    (hrun : (generator (s.task l bound node)).run ask (s.opened l node) = some (.ok (a, source), t)) :
    ∃ kind, Kind.of l node = .ok (some kind) ∧ Generators.standard.get? kind = some generator ∧ R s t ∧
      (generator (s.task l bound node)).Yields (fun m b => ∃ u v, R s u ∧ ask m u = some (.ok b, v) ∧ R v t) a source := by
  obtain ⟨-, kind, hk, hgen⟩ := hd
  rw [hg] at hgen
  have hq := hR.quiet (opened_quiet s l node)
  have hfits := @Generators.standard_fits kind generator (s.task l bound node) hgen hk
  obtain ⟨hst, hy⟩ := hR.run_yields (fun _ ha => hask ha) hfits hrun
  refine ⟨kind, hk, hgen, hR.trans hq hst, hy.mono ?_⟩
  rintro m b ⟨-, u, v, hsu, ha, hvt⟩
  exact ⟨u, v, hR.trans hq hsu, ha, hvt⟩

theorem Session.Dispatches.standard_ends {ask : Location → Session → Outcome (Option JavaType)} {s t : Session}
    {l : Location} {node : Json} {generator : Generator} {bound : JavaType} {a : Option JavaType} {source : Source}
    (hd : s.Dispatches l node generator) (hg : s.generators = .standard)
    (hrun : (generator (s.task l bound node)).run ask (s.opened l node) = some (.ok (a, source), t)) :
    Generator.Ends (fun m b => ∃ u v, ask m u = some (.ok b, v)) (s.task l bound node) a source := by
  obtain ⟨-, kind, hk, hgen⟩ := hd
  rw [hg] at hgen
  have hfits := @Generators.standard_fits kind generator (s.task l bound node) hgen hk
  exact Generator.standard_ends hgen hk (hfits.run_yields hrun)

/-! ### Sources as scripts -/

/-- A well-nested script leaves a source as deep as it was, with the same declarations open and the same current type.
    Meanwhile the depth has grown by the number of declarations and methods that the script has open, the current type
    is the innermost of these, and what closes one of them stands as deep as what opened it. The sources that the
    built-in generators end with, whatever the schema is and however requests are answered, are written by such scripts,
    and therefore complete. -/
theorem writing_framed :
    (∀ script : Java.Script, script.WellNested [] → ∀ s : Source, s.Framed script) ∧
    ∀ {kind : String} {generator : Generator}, Generators.standard.get? kind = some generator →
      ∀ {task : Task} {ask : Location → Session → Outcome (Option JavaType)} {s t : Session} {a : Option JavaType}
        {source : Source}, (generator task).run ask s = some (.ok (a, source), t) →
        source.Scripted ∧ source.finish = .ok source.text := by
  refine ⟨fun script hnested s => hnested.framed s, ?_⟩
  intro kind generator hg task ask s t a source hrun
  have hfits := Generators.standard_scripted hg task
  have hscripted : source.Scripted := hfits.yields (hfits.run_yields hrun)
  exact ⟨hscripted, Source.finish_of_closed hscripted.closed⟩

/-- A class with an enum in it, whose body fails after its constructor. -/
def Java.Script.interrupted : Java.Script :=
  .act (.openType (.plain "pkg" "Widget") .classType .everywhere) <|
  .withType (.plain "pkg" "Inner") .enumType .everywhere
    (.act (.openMethod .inside none "Inner" []) <| .act .closeMethod <| .done (.error .json))
    fun result => .act .closeType (.done result)

def Task.widget : Task :=
  ⟨⟨⟨"urn", "", none, none, none, .rootless "x", none, none⟩, ""⟩, .plain "pkg" "Widget",
    .object [("properties", .object [("name", .object [])])], .empty⟩

theorem writing_framed_interrupted :
    let script := Java.Script.interrupted
    let ask : Location → Session → Outcome (Option JavaType) := fun _ s => some (.ok (some .string), s)
    let s := Session.new (.preloaded []) (.memory .empty []) ⟨"/", []⟩
    let source := Generator.classSource (.plain "pkg" "Widget") [⟨"name", .string⟩]
    script.WellNested [] ∧ (script.run .empty).1 = .error .json ∧ (script.run .empty).2.depth = 0 ∧
      (script.run .empty).2.text =
        String.join (List.map (· ++ "\n") [
          "public class Widget " ++ openBrace,
          "\tpublic enum Inner " ++ openBrace,
          "\t\tprivate Inner() " ++ openBrace,
          "\t\t" ++ closeBrace,
          "\t" ++ closeBrace,
          closeBrace]) ∧
      (Generator.object Task.widget).run ask s = some (.ok (some (.plain "pkg" "Widget"), source), s) ∧
      source.finish = .ok source.text := by
  intro script ask s source
  have hnested : script.WellNested [] := ⟨_, rfl, ⟨_, rfl, _, rfl, rfl⟩, _, rfl, rfl⟩
  have hrun : (Generator.object Task.widget).run ask s = some (.ok (some (.plain "pkg" "Widget"), source), s) := rfl
  have hframed := writing_framed.1 script hnested .empty
  have hobject : Generators.standard.get? "object" = some Generator.object := rfl
  exact ⟨hnested, rfl, hframed.depth, by decide +kernel, hrun, (writing_framed.2 hobject hrun).2⟩

/-! ### Sources that were written -/

/-- A source declares a class with fields of types in `T`, or listed values. -/
def Written.Declares (T : JavaType → Prop) (e : Written) : Prop :=
  (∃ members, e.text = (Generator.classSource e.type members).text ∧ ∀ m ∈ members, T m.type) ∨
    ∃ style values, e.text = (Generator.enumSource style e.type values).text

theorem Written.Declares.mono {T T' : JavaType → Prop} {e : Written} (h : e.Declares T) (hT : ∀ t, T t → T' t) :
    e.Declares T' := by
  rcases h with ⟨members, htext, hmembers⟩ | h
  · exact Or.inl ⟨members, htext, fun m hm => hT _ (hmembers m hm)⟩
  · exact Or.inr h

end SchemaBeans
