import SchemaBeans.Proofs.Generation.Faithful
import SchemaBeans.Proofs.Generation.Waiting

/-! Generation answers with the meaning of locations.

Where hops do not go in a circle, whoever asks for a pending location is led to one that has a type of its
own. With this every answer of a run, nested or not, is what the location means. -/

namespace SchemaBeans

open Java (Source)

/-- What a location means tells what locations mean whose hops lead there. -/
theorem Setup.Leads.denotes {w : Setup} {store : Mappings} {l target : Location} {n : Nat} {x : JavaType}
    (h : w.Leads l n target) (hx : w.Denotes store target (some x)) : w.Denotes store l (some (Session.nested n x)) := by
  induction h with
  | here l => exact hx
  | reference hr _ ih => exact .reference hr (ih hx)
  | items hl _ ih =>
    rw [Session.nested_succ]
    exact .list hl (ih hx)

namespace Session
variable {w : Setup} {R : Location → Prop} {s t u : Session} {l m : Location}

/-! ### Locations that are asked for -/

theorem Ready.stands {ask : Location → Session → Outcome (Option JavaType)}
    (hground : ∀ {c}, R c → ¬Relation.TransGen w.Hop c c) {r : Answer} (hready : Ready w R (Faithful w R) s l)
    (hl : s.record? l = some .pending) (h : Stands ask l s r t) :
    ∃ a, r = .ok a ∧ t.Faithful w R ∧ t.Accounts w l a := by
  have hs := hready.holds
  obtain ⟨hq, ⟨-, p, hp, -, hcycle⟩ | ⟨target, n, x, -, hobj, hlead, hx, rfl⟩⟩ := h.waiting hs.documents hready.waits hl
  · exact absurd hcycle (hground (hready.pending hp))
  · refine ⟨_, rfl, hs.quiet hq, hlead.denotes (.own hobj.emits ?_), ?_⟩
    · rw [hq.mappings, hx]
    · rw [hq.record?, hl]
      rfl

section Faithfully
variable {bound : JavaType} {isNew : Bool} {a : Option JavaType} {source : Source}
  {ask : Location → Session → Outcome (Option JavaType)}
  (hkeep : ∀ {m u r v}, ask m u = some (r, v) → Keeps u v)
  (hask : ∀ {m u b v}, ask m u = some (.ok b, v) → Ready w R (Faithful w R) u m → v.Faithful w R ∧ v.Accounts w m b)
include hkeep hask

theorem run_faithful {P : Location → Prop} {Q : Option JavaType → Source → Prop} {plan : Plan} (hfits : plan.Fits P Q)
    (hready : ∀ m, P m → ∀ v, Keeps s v → v.Faithful w R → Ready w R (Faithful w R) v m) (hs : s.Faithful w R)
    (hrun : plan.run ask s = some (.ok (a, source), t)) : t.Faithful w R ∧ plan.Yields (t.Accounts w) a source :=
  Ready.run (fun hq hu => hu.quiet hq) hkeep hask (fun hu hv hk ha => ha.grow (hu.grows hv hk)) hfits hready hs hrun

theorem Dispatches.explains (hR : ∀ {m m'}, R m → w.Needs m m' → R m') (hready : Ready w R (Faithful w R) s l)
    (hnew : s.record? l = none) (hb : Binds s l bound isNew t) {node : Json} {generator : Generator}
    (hg : (t.setRecord l .pending).isGiven bound = false) (hd : (t.setRecord l .pending).Dispatches l node generator)
    (hrun : (generator ((t.setRecord l .pending).task l bound node)).run ask ((t.setRecord l .pending).opened l node) =
      some (.ok (a, source), u)) :
    u.Faithful w R ∧ w.Explains u.mappings (u.Accounts w) l a source := by
  have hs := hready.holds.mark hb hready.reached hnew
  have hq := opened_quiet (t.setRecord l .pending) l node
  obtain ⟨kind, hschema, hk, hgen⟩ := hs.dispatches hb.type?_self hg hd
  rw [task, hs.features] at hrun
  obtain ⟨hu, hy⟩ := run_faithful hkeep hask (Generators.standard_fits hgen hk)
    (fun m hm v hv => hready.dispatch hR hnew hb hschema hm hv) (hs.quiet hq) hrun
  have hkeeps := (Keeps.of_quiet hq).trans (Keeps.steady.run hkeep hrun)
  exact ⟨hu, .generated hschema hk hgen (fun _ => (hkeeps.type record?_setRecord_self).trans hb.type?_self) hy⟩

theorem Produces.explains (hR : ∀ {m m'}, R m → w.Needs m m' → R m') (hready : Ready w R (Faithful w R) s l)
    (hnew : s.record? l = none) (hb : Binds s l bound isNew t)
    (h : Produces ask l bound (t.setRecord l .pending) (.ok a) u) :
    ∃ v source, v.Faithful w R ∧ Keeps (t.setRecord l .pending) v ∧
      w.Explains v.mappings (v.Accounts w) l a source ∧ Wrote v u (entries l bound source) := by
  have hs := hready.holds.mark hb hready.reached hnew
  cases h with
  | given hg => exact ⟨_, .empty, hs, Keeps.refl _, .pinned ((hs.isGiven_iff hb.type?_self).mp hg), .nothing _⟩
  | @reference node target _ _ hg hn ht ha =>
    have hrefers : w.Refers l target := hs.refers hb.type?_self hg hn ht
    have hq := redirected_quiet (t.setRecord l .pending) l target
    obtain ⟨hu, ha'⟩ := hask ha (hready.redirect hR hnew hb hrefers (hs.quiet hq))
    exact ⟨_, .empty, hu, (Keeps.of_quiet hq).trans (hkeep ha), .reference hrefers ha', .nothing _⟩
  | @null node hg hr hk =>
    have hq := opened_quiet (t.setRecord l .pending) l node
    exact ⟨_, .empty, hs.quiet hq, .of_quiet hq, .null (hs.schema hb.type?_self hg hr) hk, .nothing _⟩
  | @silent _ _ _ source _ hg hd hrun hempty =>
    obtain ⟨hu, hexp⟩ := Dispatches.explains hkeep hask hR hready hnew hb hg hd hrun
    refine ⟨_, source, hu, (Keeps.of_quiet (opened_quiet _ _ _)).trans (Keeps.steady.run hkeep hrun), hexp, ?_⟩
    rw [entries, if_pos hempty]
    exact .nothing _
  | @written _ _ _ source _ v _ hg hd hrun hempty hfin hw =>
    obtain ⟨hv, hexp⟩ := Dispatches.explains hkeep hask hR hready hnew hb hg hd hrun
    have hk := (Keeps.of_quiet (opened_quiet _ _ _)).trans (Keeps.steady.run hkeep hrun)
    refine ⟨v, source, hv, hk, hexp, ?_⟩
    -- A source is written only for a location with a type of its own, which is the one bound to it.
    obtain ⟨x, hx, rfl⟩ := hexp.type (hexp.emits hempty)
    cases ((hk.type record?_setRecord_self).trans hb.type?_self).symm.trans hx
    cases hexp.closed.symm.trans hfin
    rw [entries, hempty]
    exact .of_write hw

/-- A request that is answered with a type, by rules whose own requests are answered faithfully, is answered
    faithfully. -/
theorem Responds.faithful (hR : ∀ {m m'}, R m → w.Needs m m' → R m')
    (hground : ∀ {c}, R c → ¬Relation.TransGen w.Hop c c) (hready : Ready w R (Faithful w R) s l)
    (h : Responds ask l s (.ok a) t) : t.Faithful w R ∧ t.Accounts w l a := by
  have hs := hready.holds
  cases h with
  | resolved hr hq =>
    have ht := hs.quiet hq
    exact ⟨ht, ht.accounts ((hq.record? _).trans hr)⟩
  | failed hr => exact absurd hr hs.unfailed
  | pending hr hq hst =>
    obtain ⟨b, hb, ht, ha⟩ := (hready.keep (.of_quiet hq) (hs.quiet hq)).stands hground ((hq.record? _).trans hr) hst
    cases hb
    exact ⟨ht, ha⟩
  | settled hnew hb hp =>
    obtain ⟨v, source, hv, hk, hexp, hw⟩ := Produces.explains hkeep hask hR hready hnew hb hp
    have ht := Settles.faithful ⟨hk.record record?_setRecord_self,
      (hk.type record?_setRecord_self).trans hb.type?_self, hb.unmapped hs.toStandard, hexp, hw⟩ hv
    exact ⟨ht, ht.accounts record?_settle_self⟩
  | assumed hnew hb hp hf _ =>
    -- Missing types are ignored only if a feature says so, and none is set.
    have hk := Keeps.steady.produces hkeep hp
    rw [hk.features, (hs.mark hb hready.reached hnew).features] at hf
    cases hf

end Faithfully

/-- Every request that is answered with a type is answered with the one it means. -/
theorem generateWithin_faithful (hR : ∀ {m m'}, R m → w.Needs m m' → R m')
    (hground : ∀ {c}, R c → ¬Relation.TransGen w.Hop c c) {n : Nat} {a : Option JavaType} (hready : Ready w R (Faithful w R) s l)
    (h : generateWithin n l s = some (.ok a, t)) : t.Faithful w R ∧ t.Accounts w l a := by
  induction n generalizing l s a t with
  | zero => cases h
  | succ n ih =>
    obtain ⟨_, u, hn, hr, rfl⟩ := generateWithin_responds h
    cases hn
    obtain ⟨hu, ha⟩ := Responds.faithful (fun h => generateWithin_keeps h) (fun h hready => ih hready h) hR hground
      hready hr
    exact ⟨hu.reply ha, ha⟩

/-! ### Runs -/

theorem generateAll_faithful (hR : ∀ {m m'}, R m → w.Needs m m' → R m')
    (hground : ∀ {c}, R c → ¬Relation.TransGen w.Hop c c) {requests : List Location}
    {types : List (Option JavaType)} (hrequests : ∀ l ∈ requests, R l) (hs : s.Faithful w R)
    (hidle : ∀ p, s.record? p ≠ some .pending) (h : s.generateAll requests = some (.ok types, t)) :
    t.Faithful w R ∧ List.Forall₂ (t.Accounts w) requests types :=
  Ready.generatesAll (fun ha hready => generateWithin_faithful hR hground hready ha)
    (fun hu hv hk hd => hd.grow (hu.grows hv hk)) hrequests hs hidle h

/-- In a run that answers every request with a type, every answer is the one type that its location means:
    the answers to the requests, the answers to what they ask for in turn, and among these the answers for
    locations that are still pending. -/
theorem answers_denote {output : Output} {files : Files} {requests : List Location} {types : List (Option JavaType)}
    (hrun : (w.session output files).generateAll requests = some (.ok types, s)) (hground : w.Grounded requests) :
    (∀ l r, .answered l r ∈ s.journal → ∃ a, r = .ok a ∧ ∀ b, w.Denotes s.mappings l b ↔ b = a) ∧
    List.Forall₂ (w.Denotes s.mappings) requests types := by
  obtain ⟨hs, hall⟩ := generateAll_faithful (fun h hm => h.needs hm) (fun h => hground _ h)
    (fun l hl => ⟨l, hl, .refl⟩) (.start w output files)
    (setup_idle w output files) hrun
  refine ⟨fun l r hm => ?_, hall.imp fun _ _ h => h.1⟩
  obtain ⟨a, hr, ha⟩ := hs.answered hm
  refine ⟨a, hr, fun b => ⟨fun hb => hb.unique ha.1, ?_⟩⟩
  rintro rfl
  exact ha.1

end Session

/-! ### Trees -/

/-- The children of a node: a list of nodes. -/
def treeItems : Json := .object [("type", .string "array"), ("items", .object [("$ref", .string "#")])]

/-- The document of a tree: a node has children. -/
def treeDocument : Uri × Json :=
  (⟨"urn", "", none, none, none, .rootless "tree", none, none⟩,
    .object [("type", .string "object"), ("properties", .object [("children", treeItems)])])

def treeNode : Location := ⟨treeDocument.1, ""⟩

def treeChildren : Location := ⟨treeDocument.1, "/properties/children"⟩

namespace Setup

/-- A tree whose nodes are given a type. -/
def tree : Setup := ⟨[treeDocument], [⟨treeNode, some (.plain "forest" "Tree")⟩]⟩

theorem tree_node {node : Json} (h : treeNode.node? tree.documents = some node) : node = treeDocument.2 := by
  have hn : treeNode.node? tree.documents = some treeDocument.2 := rfl
  cases hn.symm.trans h
  rfl

theorem tree_children {node : Json} (h : treeChildren.node? tree.documents = some node) : node = treeItems := by
  have hn : treeChildren.node? tree.documents = some treeItems := rfl
  cases hn.symm.trans h
  rfl

theorem tree_needs {l m : Location} (hl : l = treeNode ∨ l = treeChildren) (h : tree.Needs l m) :
    (l = treeNode ∧ m = treeChildren) ∨ (l = treeChildren ∧ m = treeNode) := by
  rcases hl with rfl | rfl
  · refine Or.inl ⟨rfl, ?_⟩
    rcases h with ⟨-, node, hn, ht⟩ | ⟨node, hs, ha⟩
    · rw [tree_node hn] at ht
      cases ht
    · rw [tree_node hs.found] at ha
      cases ha with
      | items hk => exact absurd hk (by decide)
      | property _ hf ht =>
        obtain ⟨rfl, rfl⟩ := Prod.mk.inj (List.mem_singleton.mp hf)
        have htarget : Reference.typeTarget? ((treeNode.child "properties").child "children") treeItems =
          .ok (some treeChildren) := rfl
        cases htarget.symm.trans ht
        rfl
      | additional _ hn => cases hn
  · refine Or.inr ⟨rfl, ?_⟩
    rcases h with ⟨-, node, hn, ht⟩ | ⟨node, hs, ha⟩
    · rw [tree_children hn] at ht
      cases ht
    · rw [tree_children hs.found] at ha
      cases ha with
      | items _ hi ht =>
        cases hi
        have htarget : Reference.typeTarget? (treeChildren.child "items") (.object [("$ref", .string "#")]) =
          .ok (some treeNode) := rfl
        cases htarget.symm.trans ht
        rfl
      | property hk => exact absurd hk (by decide)
      | additional hk => exact absurd hk (by decide)

theorem tree_reached {l : Location} (h : tree.Reached [treeNode, treeChildren] l) :
    l = treeNode ∨ l = treeChildren := by
  obtain ⟨r, hr, hl⟩ := h
  induction hl with
  | refl => simpa using hr
  | tail _ hm ih => exact (tree_needs ih hm).symm.imp (·.2) (·.2)

theorem tree_lists : tree.Lists treeChildren treeNode := by
  refine ⟨treeItems, [("$ref", .string "#")], ⟨fun t ht => ?_, rfl, rfl, rfl⟩, rfl, rfl, rfl⟩
  have hnone : tree.configured.type? treeChildren = none := rfl
  cases hnone.symm.trans ht.1

theorem tree_grounded : tree.Grounded [treeNode, treeChildren] := by
  have hemits : tree.Emits treeNode := by
    refine ⟨treeDocument.2, ⟨fun t ht => ?_, rfl, rfl, rfl⟩, Or.inl rfl⟩
    have hconfigured : tree.configured.type? treeNode = some (.plain "forest" "Tree") := rfl
    cases hconfigured.symm.trans ht.1
    exact absurd ht.2 (by decide)
  have hhop : ∀ {l m}, l = treeNode ∨ l = treeChildren → tree.Hop l m → l = treeChildren ∧ m = treeNode := by
    intro l m hl hm
    refine (tree_needs hl hm.needs).resolve_left ?_
    rintro ⟨rfl, -⟩
    exact hemits.not_hop hm
  intro l hl hcycle
  obtain ⟨m, hlm, hml⟩ := Relation.TransGen.head'_iff.mp hcycle
  obtain ⟨rfl, rfl⟩ := hhop (tree_reached hl) hlm
  rcases hml.cases_head with heq | ⟨m, hm, -⟩
  · exact absurd heq (by decide)
  · exact hemits.not_hop hm

end Setup

namespace Session

/-- A request for a tree, whose children ask for the tree while it is pending, and one for the children. -/
theorem answers_denote_tree : ∃ types s,
    (Setup.tree.session (.memory .empty []) ⟨"/", []⟩).generateAll [treeNode, treeChildren] = some (.ok types, s) ∧
    Setup.tree.Grounded [treeNode, treeChildren] ∧
    (∀ l r, .answered l r ∈ s.journal → ∃ a, r = .ok a ∧ ∀ b, Setup.tree.Denotes s.mappings l b ↔ b = a) ∧
    List.Forall₂ (Setup.tree.Denotes s.mappings) [treeNode, treeChildren] types := by
  have hrun : ((Setup.tree.session (.memory .empty []) ⟨"/", []⟩).generateAll [treeNode, treeChildren]).map
      (fun r => r.1.toOption) = some (some [some (.plain "forest" "Tree"),
        some (JavaType.plain "forest" "Tree").listOf]) := by decide +kernel
  obtain ⟨⟨r, s⟩, hs, hr⟩ := Option.map_eq_some_iff.mp hrun
  cases r with
  | error e => cases hr
  | ok types => exact ⟨types, s, hs, Setup.tree_grounded, answers_denote hs Setup.tree_grounded⟩

end Session

end SchemaBeans
