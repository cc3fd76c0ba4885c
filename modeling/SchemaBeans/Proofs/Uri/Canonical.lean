import Mathlib.Data.List.DropRight
import SchemaBeans.Location
import SchemaBeans.Proofs.Uri.Fragments
import SchemaBeans.Proofs.Uri.References

/-! The canonical URIs of locations.

The fragment of a canonical URI is the pointer with every character escaped that a fragment cannot have, and
the percent sign too. Such a fragment is in plain ASCII and is taken as it stands wherever a fragment is read,
and decoding it gives the pointer again. So a canonical URI names its location and no other, and a reference
that is only its fragment leads there from anywhere in the document (`Location.uri_identifies`). -/

namespace SchemaBeans

/-! ### Texts that are taken as they stand -/

namespace Text.Percent

variable {set : Char → Bool} {cs : List Char}

theorem toNat_lt_of_mem_encodeChars {c : Char} (h : c ∈ encodeChars set cs) : c.toNat < 0x80 := by
  obtain ⟨d, -, h⟩ := List.mem_flatMap.mp h
  obtain ⟨b, -, h⟩ := List.mem_flatMap.mp h
  have hdigit : ∀ n < 16, (hexDigit n).toNat < 0x80 := by decide
  have hb := b.toNat_lt
  rw [encodeOctet] at h
  split at h
  · rename_i hplain
    rw [List.mem_singleton.mp h]
    have hlt : b.toNat < 0x80 := by simpa using (Bool.and_eq_true_iff.mp hplain).1
    rw [Utf8.toNat_char, if_pos (Or.inl (by omega))]
    exact hlt
  · simp only [Percent.escape, List.mem_cons, List.not_mem_nil, or_false] at h
    rcases h with rfl | rfl | rfl
    · decide
    · exact hdigit _ (by omega)
    · exact hdigit _ (by omega)

theorem not_escaped_of_mem_encodeChars {smaller : Char → Bool} (hsmaller : KeepsEscapes smaller)
    (hset : ∀ c, smaller c = true → set c = true) {c : Char} (h : c ∈ encodeChars set cs) : smaller c = false := by
  by_cases hpercent : c = '%'
  · rw [hpercent]
    exact hsmaller.percent
  · cases hdigit : hexValue? c with
    | some x => exact hsmaller.digit c x hdigit
    | none =>
      have hkept := (of_mem_encodeChars hpercent hdigit h).2
      exact Bool.eq_false_iff.mpr fun hmem => by simp [hset c hmem] at hkept

theorem encodeChars_eq_self (h : ∀ c ∈ cs, c.toNat < 0x80 ∧ set c = false) : encodeChars set cs = cs := by
  induction cs with
  | nil => rfl
  | cons c cs ih =>
    obtain ⟨hascii, hkept⟩ := h c List.mem_cons_self
    rw [encodeChars_plain hascii hkept, ih fun d hd => h d (List.mem_cons_of_mem c hd)]

end Text.Percent

namespace Uri

/-! ### Fragments -/

theorem dropTrailingSpaces_idem (s : String) : dropTrailingSpaces (dropTrailingSpaces s) = dropTrailingSpaces s := by
  rw [dropTrailingSpaces, dropTrailingSpaces, String.toList_ofList]
  exact congrArg String.ofList (List.rdropWhile_idempotent (· == ' ') s.toList)

@[simp]
theorem withoutFragment_fragment (u : Uri) : u.withoutFragment.fragment = none := by
  unfold withoutFragment
  split <;> rfl

theorem withoutFragment_idem (u : Uri) : u.withoutFragment.withoutFragment = u.withoutFragment := by
  obtain ⟨scheme, username, password, host, port, path, query, fragment⟩ := u
  cases path <;> cases query <;> simp [withoutFragment, dropTrailingSpaces_idem]

/-- A fragment that is taken as it stands wherever one is read. -/
structure PlainFragment (fragment : String) : Prop where
  ascii : ∀ c ∈ fragment.toList, c.toNat < 0x80
  kept : ∀ c ∈ fragment.toList, fragmentSet c = false

variable {fragment : String}

theorem PlainFragment.not_dropped (h : PlainFragment fragment) : ∀ c ∈ fragment.toList, isDropped c = false := by
  intro c hc
  refine Bool.eq_false_iff.mpr fun hdropped => ?_
  have hescaped : fragmentSet c = true := by
    have : c = '\t' ∨ c = '\n' ∨ c = '\r' := by simpa [isDropped, or_assoc] using hdropped
    rcases this with rfl | rfl | rfl <;> rfl
  rw [h.kept c hc] at hescaped
  cases hescaped

theorem PlainFragment.not_padding (h : PlainFragment fragment) : ∀ c ∈ fragment.toList, isPadding c = false := by
  intro c hc
  have hkept := h.kept c hc
  simp only [fragmentSet, Text.Percent.isControl, Bool.or_eq_false_iff, decide_eq_false_iff_not, beq_eq_false_iff_ne] at hkept
  have hspace : c.toNat ≠ ' '.toNat := fun heq => hkept.1.1.1.1.2 (Char.toNat_inj.mp heq)
  have hcode : ' '.toNat = 0x20 := rfl
  simp only [isPadding, decide_eq_false_iff_not]
  omega

theorem PlainFragment.encode (h : PlainFragment fragment) :
    String.ofList (Text.Percent.encodeChars fragmentSet fragment.toList) = fragment := by
  rw [Text.Percent.encodeChars_eq_self fun c hc => ⟨h.ascii c hc, h.kept c hc⟩, String.ofList_toList]

theorem PlainFragment.withFragment (h : PlainFragment fragment) (u : Uri) :
    u.withFragment fragment = { u with fragment := some fragment } := by
  have hfilter : fragment.toList.filter (!isDropped ·) = fragment.toList := significant_eq_self h.not_dropped
  rw [Uri.withFragment, hfilter, h.encode]

theorem PlainFragment.join (h : PlainFragment fragment) (u : Uri) :
    u.join ("#" ++ fragment) = .ok { u with fragment := some fragment } := by
  have htext : ("#" ++ fragment).toList = '#' :: fragment.toList := by simp
  have hends : ∀ c, ('#' :: fragment.toList).head? = some c ∨ ('#' :: fragment.toList).getLast? = some c →
      isPadding c = false := by
    intro c hc
    have hmem : c ∈ '#' :: fragment.toList := hc.elim List.mem_of_head? List.mem_of_getLast?
    rcases List.mem_cons.mp hmem with rfl | hmem
    · decide
    · exact h.not_padding c hmem
  have hkept : ∀ c ∈ '#' :: fragment.toList, isDropped c = false := by
    intro c hc
    rcases List.mem_cons.mp hc with rfl | hc
    · decide
    · exact h.not_dropped c hc
  -- A hash starts no scheme, so the reference is relative.
  have hscheme : splitScheme? ('#' :: fragment.toList) = none := by
    have hhash : (isSchemeChar '#' || isDropped '#') = false := by decide
    simp [splitScheme?, hhash, significant]
  unfold Uri.join resolve
  simp only [htext, trimEnds_eq_self hends, hscheme, significant_eq_self hkept]
  simp [finish, significant_eq_self hkept, h.encode]

end Uri

/-! ### Canonical URIs -/

namespace Location

variable {l m : Location}

/-- The locations that can be built: from the parts, from a URI or its text, and from other locations. -/
inductive Built : Location → Prop
  | of {u : Uri} (hu : u.Obtained) (pointer : String) : Built (Location.of u pointer)
  | ofUri {u : Uri} (hu : u.Obtained) : Built (Location.ofUri u)
  | parse {s : String} {l : Location} (h : Location.parse s = .ok l) : Built l
  | child {l : Location} (hl : Built l) (key : String) : Built (l.child key)
  | join {l m : Location} {reference : String} (hl : Built l) (h : l.join reference = .ok m) : Built m

/-- A location's document is named by a URI without a fragment, such as one can come to. -/
structure Rooted (l : Location) : Prop where
  obtained : l.root.Obtained
  root : l.root.withoutFragment = l.root

theorem Rooted.of {u : Uri} (hu : u.Obtained) (pointer : String) : (Location.of u pointer).Rooted :=
  ⟨hu.withoutFragment, u.withoutFragment_idem⟩

theorem Rooted.ofResult {result : Except UriError Uri} (hresult : ∀ u, result = .ok u → u.Obtained)
    (h : result.map Location.ofUri = .ok l) : l.Rooted := by
  cases result with
  | error e => cases h
  | ok u =>
    cases h
    exact .of (hresult u rfl) _

theorem Built.rooted (h : l.Built) : l.Rooted := by
  induction h with
  | of hu pointer => exact .of hu pointer
  | ofUri hu => exact .of hu _
  | parse h => exact .ofResult (fun u hu => .parse hu) h
  | child _ key ih => exact ⟨ih.obtained, ih.root⟩
  | join _ h ih => exact .ofResult (fun u hu => .join (.withFragment ih.obtained _) hu) h

theorem plainFragment_pointer (pointer : String) : Uri.PlainFragment (Text.Percent.encode pointerSet pointer) := by
  have hkeeps : Text.Percent.KeepsEscapes Uri.fragmentSet := Text.Percent.keepsEscapes_of_ascii rfl (by decide)
  refine ⟨fun c hc => ?_, fun c hc => ?_⟩ <;> rw [Text.Percent.encode, String.toList_ofList] at hc
  · exact Text.Percent.toNat_lt_of_mem_encodeChars hc
  · refine Text.Percent.not_escaped_of_mem_encodeChars hkeeps (fun d hd => ?_) hc
    rw [pointerSet, hd, Bool.true_or]

theorem uri_eq (l : Location) :
    l.uri = { l.root with fragment := some (Text.Percent.encode pointerSet l.pointer) } :=
  (plainFragment_pointer l.pointer).withFragment l.root

theorem ofUri_escaped (u : Uri) (pointer : String) :
    ofUri { u with fragment := some (Text.Percent.encode pointerSet pointer) } = of u pointer := by
  rw [ofUri, Option.map_some, Option.getD_some, Text.Percent.decode_encode rfl]
  rfl

theorem Rooted.ofUri_uri (h : l.Rooted) : ofUri l.uri = l := by
  rw [uri_eq, ofUri_escaped, Location.of, h.root]

theorem Rooted.join_fragment (h : m.Rooted) (hroot : l.root = m.root) :
    l.join ("#" ++ Text.Percent.encode pointerSet m.pointer) = .ok m := by
  rw [Location.join, (plainFragment_pointer m.pointer).join, uri_eq, hroot]
  exact congrArg Except.ok ((ofUri_escaped m.root m.pointer).trans (by rw [Location.of, h.root]))

/-- Canonical URIs are written the same only for the same pointer in documents whose URIs are. -/
theorem Rooted.text_eq_iff (hl : l.Rooted) (hm : m.Rooted) :
    l.text = m.text ↔ l.root.text = m.root.text ∧ l.pointer = m.pointer := by
  have hfree {l : Location} (hl : l.Rooted) : l.uri.HashFree := by
    rw [uri_eq]
    exact hl.obtained.hashFree.withFragmentOf _
  have hbare {l : Location} (hl : l.Rooted) : { l.uri with fragment := none } = l.root := by
    have hnone : l.root.fragment = none := hl.root ▸ l.root.withoutFragment_fragment
    rw [uri_eq, ← hnone]
  have hfragment (l : Location) : l.uri.fragment = some (Text.Percent.encode pointerSet l.pointer) := by rw [uri_eq]
  rw [text, text, Uri.text_eq_iff (hfree hl) (hfree hm) (hfragment l) (hfragment m), hbare hl, hbare hm]
  refine and_congr_right fun _ => ⟨fun h => ?_, congrArg _⟩
  have hread (pointer : String) : Text.Percent.decode (Text.Percent.encode pointerSet pointer) = pointer :=
    Text.Percent.decode_encode rfl pointer
  rw [← hread l.pointer, h, hread]

/-- Canonical URIs identify locations: the location is read off its URI again, two locations have the same URI
    exactly when they are the same, in parts and as text, and from any location of a document the fragment of a
    canonical URI leads to the location that it is the URI of. -/
theorem uri_identifies (hl : l.Built) (hm : m.Built) :
    ofUri l.uri = l ∧ (l.uri = m.uri ↔ l = m) ∧
      (l.text = m.text ↔ l.root.text = m.root.text ∧ l.pointer = m.pointer) ∧
      ∃ fragment, m.uri.fragment = some fragment ∧ (l.root = m.root → l.join ("#" ++ fragment) = .ok m) := by
  refine ⟨hl.rooted.ofUri_uri, ⟨fun h => ?_, congrArg _⟩, hl.rooted.text_eq_iff hm.rooted, _, ?_,
    hm.rooted.join_fragment⟩
  · rw [← hl.rooted.ofUri_uri, h, hm.rooted.ofUri_uri]
  · rw [uri_eq]

/-- A pointer with a blank, a percent sign and a line break, seen from the location beside it. -/
theorem uri_identifies_books :
    let books : Uri := ⟨"urn", "", none, none, none, .rootless "books", none, none⟩
    let l : Location := ⟨books, "/title"⟩
    let m : Location := (⟨books, ""⟩ : Location).child "50 %\n"
    l.Built ∧ m.Built ∧ m.text = "urn:books#/50%20%25%0A" ∧ ofUri l.uri = l ∧ l.uri ≠ m.uri ∧ l.text ≠ m.text ∧
      l.join "#/50%20%25%0A" = .ok m := by
  intro books l m
  have hl : l.Built := .parse (s := "urn:books#/title") (by decide +kernel)
  have hm : m.Built := .child (.parse (s := "urn:books") (by decide +kernel)) "50 %\n"
  have hfragment : m.uri.fragment = some "/50%20%25%0A" := by decide +kernel
  have hpointer : l.pointer ≠ m.pointer := by decide +kernel
  obtain ⟨hread, huri, htext, fragment, hfragment', hjoin⟩ := uri_identifies hl hm
  cases hfragment'.symm.trans hfragment
  exact ⟨hl, hm, by decide +kernel, hread, fun h => hpointer (congrArg pointer (huri.mp h)),
    fun h => hpointer (htext.mp h).2, hjoin rfl⟩

end Location

end SchemaBeans
