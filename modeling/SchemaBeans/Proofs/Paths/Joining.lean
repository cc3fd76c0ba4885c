import Mathlib.Data.List.Basic
import SchemaBeans.Path
import SchemaBeans.Proofs.Text.Split

/-! What joining does to the parts of a path.

A relative path adds its pieces to the parts of the directory it is joined to, an absolute one replaces
them. So a joined path is the directory extended by names exactly when the path is relative and no piece
of it goes up (`Path.isExtension_iff`). -/

namespace SchemaBeans

/-! ### Joining -/

namespace Path

/-- The parts that a path adds to a directory. -/
def steps (path : String) : List PathPart := (Text.pieces '/' path).filterMap PathPart.ofPiece?

/-- Whether the first piece of a path is a dot. -/
def startsHere (path : String) : Bool := (Text.pieces '/' path).head? = some "."

theorem startsHere_of_pieces {path front : String} {rest : List String}
    (h : Text.pieces '/' path = Text.pieces '/' front ++ rest) : startsHere path = startsHere front := by
  obtain ⟨piece, pieces, hpieces⟩ := List.exists_cons_of_ne_nil (Text.pieces_ne_nil '/' front)
  rw [startsHere, startsHere, h, hpieces, List.cons_append, List.head?_cons, List.head?_cons]

theorem parts_of_relative {path : String} (h : isAbsolute path = false) :
    parts path = (if startsHere path then [.here] else []) ++ steps path := by
  rw [parts, startsHere, steps]
  by_cases hhere : (Text.pieces '/' path).head? = some "." <;> simp [h, hhere]

theorem parts_of_absolute {path : String} (h : isAbsolute path = true) : parts path = .root :: steps path := by
  simp [parts, steps, h]

theorem isAbsolute_append {base : String} (hbase : base ≠ "") (path : String) :
    isAbsolute (base ++ path) = isAbsolute base := by
  obtain ⟨c, cs, hcs⟩ := List.exists_cons_of_ne_nil (fun h => hbase (String.toList_eq_nil_iff.mp h))
  simp [isAbsolute, hcs]

theorem isAbsolute_join (base path : String) : isAbsolute (join base path) = (isAbsolute path || isAbsolute base) := by
  by_cases hbase : base = ""
  · subst hbase
    simp [join, isAbsolute]
  · rw [join]
    cases hpath : isAbsolute path
    · simp only [Bool.false_or, decide_eq_true_eq, hbase, if_false]
      split
      · rw [isAbsolute_append hbase]
      · rw [String.append_assoc, isAbsolute_append hbase]
    · simp [hpath]

theorem pieces_join {base path : String} (hbase : base ≠ "") (hpath : isAbsolute path = false) :
    (Text.pieces '/' (join base path) = Text.pieces '/' base ++ Text.pieces '/' path) ∨
      ∃ front, Text.pieces '/' base = Text.pieces '/' front ++ [""] ∧
        Text.pieces '/' (join base path) = Text.pieces '/' front ++ Text.pieces '/' path := by
  rw [join]
  simp only [hpath, Bool.false_or, decide_eq_true_eq, hbase, if_false]
  split
  · rename_i hslash
    rw [Text.endsWithChar, beq_iff_eq, List.getLast?_eq_some_iff] at hslash
    obtain ⟨front, hfront⟩ := hslash
    refine Or.inr ⟨String.ofList front, ?_, ?_⟩
    · exact Text.pieces_append_cons (u := "") (by simpa using hfront)
    · exact Text.pieces_append_cons (by simp [hfront])
  · exact Or.inl (Text.pieces_append_cons (by simp))

theorem steps_join {base path : String} (hbase : base ≠ "") (hpath : isAbsolute path = false) :
    steps (join base path) = steps base ++ steps path := by
  rcases pieces_join hbase hpath with h | ⟨front, hfront, h⟩
  · simp [steps, h]
  · simp [steps, h, hfront, PathPart.ofPiece?]

theorem parts_join {base path : String} (hbase : base ≠ "") (hpath : isAbsolute path = false) :
    parts (join base path) = parts base ++ steps path := by
  have hsteps := steps_join hbase hpath
  have habs : isAbsolute (join base path) = isAbsolute base := by rw [isAbsolute_join, hpath, Bool.false_or]
  cases hb : isAbsolute base
  · have hhere : startsHere (join base path) = startsHere base := by
      rcases pieces_join hbase hpath with h | ⟨front, hfront, h⟩
      · exact startsHere_of_pieces h
      · rw [startsHere_of_pieces h, startsHere_of_pieces hfront]
    rw [parts_of_relative (habs.trans hb), parts_of_relative hb, hhere, hsteps, List.append_assoc]
  · rw [parts_of_absolute (habs.trans hb), parts_of_absolute hb, hsteps, List.cons_append]

theorem join_ne_empty {base : String} (hbase : base ≠ "") (path : String) : join base path ≠ "" := by
  rw [join]
  split
  · rename_i h
    rintro rfl
    simp [isAbsolute, hbase] at h
  · split <;> simp [hbase]

theorem isAbsolute_foldl_join (paths : List String) (start : String) :
    isAbsolute (paths.foldl join start) = (paths.any isAbsolute || isAbsolute start) := by
  induction paths generalizing start with
  | nil => simp
  | cons path paths ih =>
    rw [List.foldl_cons, ih, isAbsolute_join, List.any_cons]
    cases isAbsolute path <;> simp

theorem parts_foldl_join {start : String} (hstart : start ≠ "") {paths : List String}
    (hrel : ∀ path ∈ paths, isAbsolute path = false) :
    parts (paths.foldl join start) = parts start ++ paths.flatMap steps := by
  induction paths generalizing start with
  | nil => simp
  | cons path paths ih =>
    have hpath := hrel path List.mem_cons_self
    have hpaths := fun p hp => hrel p (List.mem_cons_of_mem path hp)
    rw [List.foldl_cons, ih (join_ne_empty hstart path) hpaths, parts_join hstart hpath, List.flatMap_cons,
      List.append_assoc]

/-! ### Names -/

/-- The names in a path: the pieces that are neither empty nor dots. -/
def names (path : String) : List String := (Text.pieces '/' path).filter fun piece => piece ≠ "" && piece ≠ "."

theorem filterMap_ofPiece?_eq {pieces : List String} (h : ".." ∉ pieces) :
    pieces.filterMap PathPart.ofPiece? = (pieces.filter fun piece => piece ≠ "" && piece ≠ ".").map .name := by
  induction pieces with
  | nil => rfl
  | cons piece rest ih =>
    have hup : piece ≠ ".." := fun heq => h (heq ▸ List.mem_cons_self)
    have ih := ih fun hmem => h (List.mem_cons_of_mem _ hmem)
    by_cases hidle : piece = "" ∨ piece = "."
    · rcases hidle with rfl | rfl <;> simpa [PathPart.ofPiece?] using ih
    · obtain ⟨hempty, hdot⟩ := not_or.mp hidle
      simpa [PathPart.ofPiece?, hempty, hdot, hup] using ih

theorem steps_eq_names {path : String} (h : ".." ∉ Text.pieces '/' path) : steps path = (names path).map .name :=
  filterMap_ofPiece?_eq h

theorem up_mem_steps {path : String} (h : ".." ∈ Text.pieces '/' path) : PathPart.up ∈ steps path :=
  List.mem_filterMap.mpr ⟨"..", h, rfl⟩

theorem steps_names_iff {path : String} :
    (∃ below : List String, steps path = below.map .name) ↔ ".." ∉ Text.pieces '/' path := by
  constructor
  · rintro ⟨below, hbelow⟩ hup
    have hmem := up_mem_steps hup
    rw [hbelow] at hmem
    simp at hmem
  · exact fun h => ⟨_, steps_eq_names h⟩

theorem names_eq_singleton {path : String} (hslash : '/' ∉ path.toList) (hempty : path ≠ "") (hdot : path ≠ ".") :
    names path = [path] := by
  simp [names, Text.pieces_eq_singleton hslash, hempty, hdot]

theorem isAbsolute_eq_false {path : String} (hslash : '/' ∉ path.toList) : isAbsolute path = false := by
  rw [isAbsolute, beq_eq_false_iff_ne]
  exact fun hhead => hslash (List.mem_of_head? hhead)

theorem isAbsolute_iff {path : String} : isAbsolute path = true ↔ ∃ piece rest, Text.pieces '/' path = "" :: piece :: rest := by
  rw [isAbsolute, beq_iff_eq]
  constructor
  · intro hhead
    obtain ⟨cs, hcs⟩ := List.head?_eq_some_iff.mp hhead
    have hpieces : Text.pieces '/' path = [""] ++ Text.pieces '/' (String.ofList cs) :=
      Text.pieces_append_cons (t := "") (by simpa using hcs)
    obtain ⟨piece, rest, hrest⟩ := List.exists_cons_of_ne_nil (Text.pieces_ne_nil '/' (String.ofList cs))
    exact ⟨piece, rest, by rw [hpieces, hrest]; rfl⟩
  · rintro ⟨piece, rest, hpieces⟩
    rw [← Text.intercalate_pieces '/' path, hpieces]
    rfl

/-- A path that leads down from any directory: it is relative, and no piece of it goes up. -/
structure Descends (path : String) : Prop where
  relative : isAbsolute path = false
  noUp : ".." ∉ Text.pieces '/' path

/-- A path joined to a directory is the directory extended by names only. -/
def IsExtension (base path : String) : Prop :=
  isAbsolute path = false ∧ ∃ below : List String, parts (join base path) = parts base ++ below.map .name

/-- A path extends a directory by names exactly if it leads down. Seen from the empty path it must not
    start with a dot either, which would stay as a part of its own. -/
theorem isExtension_iff (base path : String) :
    IsExtension base path ↔ Descends path ∧ (base = "" → startsHere path = false) := by
  have hdescends : Descends path ↔ isAbsolute path = false ∧ ∃ below : List String, steps path = below.map .name := by
    rw [steps_names_iff]
    exact ⟨fun ⟨h, h'⟩ => ⟨h, h'⟩, fun ⟨h, h'⟩ => ⟨h, h'⟩⟩
  rw [hdescends, IsExtension, and_assoc]
  refine and_congr_right fun hrel => ?_
  by_cases hbase : base = ""
  · subst hbase
    have hempty : parts "" = [] := rfl
    have hjoin : join "" path = path := by simp [join]
    simp only [hjoin, hempty, List.nil_append, parts_of_relative hrel, forall_const]
    cases startsHere path
    · simp
    · simp [eq_comm, List.map_eq_cons_iff]
  · simp [parts_join hbase hrel, hbase]

/-! ### Paths from the root -/

theorem ofPiece?_eq_some {piece : String} {part : PathPart} (h : PathPart.ofPiece? piece = some part) :
    part.text = piece ∧ part ≠ .root ∧ part ≠ .here := by
  rw [PathPart.ofPiece?] at h
  split at h
  · cases h
  · split at h <;> cases h
    · rename_i hup
      exact ⟨hup.symm, by decide, by decide⟩
    · exact ⟨rfl, by simp, by simp⟩

theorem of_mem_steps {path : String} {part : PathPart} (h : part ∈ steps path) :
    isAbsolute part.text = false ∧ steps part.text = [part] ∧ part ≠ .root ∧ part ≠ .here := by
  obtain ⟨piece, hpiece, hof⟩ := List.mem_filterMap.mp h
  obtain ⟨rfl, hroot, hhere⟩ := ofPiece?_eq_some hof
  have hslash : '/' ∉ part.text.toList := fun hmem => (Text.of_mem_pieces hpiece '/' hmem).2 rfl
  exact ⟨isAbsolute_eq_false hslash, by simp [steps, Text.pieces_eq_singleton hslash, hof], hroot, hhere⟩

theorem filter_parts (path : String) : ((parts path).filter (· ≠ .here)).filter (· ≠ .root) = steps path := by
  have hrest : ((steps path).filter (· ≠ .here)).filter (· ≠ .root) = steps path := by
    rw [List.filter_filter, List.filter_eq_self]
    intro part hpart
    simpa using (of_mem_steps hpart).2.2
  cases habsolute : isAbsolute path
  · rw [parts_of_relative habsolute]
    split <;> exact hrest
  · rw [parts_of_absolute habsolute]
    exact hrest

theorem foldl_join_ne_empty {start : String} (hstart : start ≠ "") (paths : List String) : paths.foldl join start ≠ "" := by
  induction paths generalizing start with
  | nil => exact hstart
  | cons path paths ih => exact ih (join_ne_empty hstart path)

theorem parts_absolute {workingDirectory : String} (h : workingDirectory ≠ "") (path : String) :
    parts (absolute workingDirectory path) = (if isAbsolute path then [.root] else parts workingDirectory) ++ steps path := by
  have hrelative : ∀ text ∈ (steps path).map PathPart.text, isAbsolute text = false := by
    intro text htext
    obtain ⟨part, hpart, rfl⟩ := List.mem_map.mp htext
    exact (of_mem_steps hpart).1
  have hsteps : ((steps path).map PathPart.text).flatMap steps = steps path := by
    rw [List.flatMap_map, List.flatMap_congr fun part hpart => (of_mem_steps hpart).2.1, List.flatMap_singleton']
  have htext {start : String} (hstart : start ≠ "") :
      parts (if Text.endsWithChar '/' path then join (((steps path).map PathPart.text).foldl join start) ""
        else ((steps path).map PathPart.text).foldl join start) = parts start ++ steps path := by
    have hparts := parts_foldl_join hstart hrelative
    rw [hsteps] at hparts
    split
    · rw [parts_join (foldl_join_ne_empty hstart _) rfl, hparts]
      exact List.append_nil _
    · exact hparts
  -- Two slashes at the start are kept, and lead to the root as well as one.
  have hroot (doubled : Bool) : (if doubled then "//" else "/") ≠ "" ∧ parts (if doubled then "//" else "/") = [.root] := by
    cases doubled <;> exact ⟨by decide, rfl⟩
  rw [absolute, filter_parts]
  cases isAbsolute path
  · simp only [Bool.not_false, if_true, Bool.false_eq_true, if_false]
    exact htext h
  · simp only [Bool.not_true, Bool.false_eq_true, if_false, if_true]
    rw [htext (hroot _).1, (hroot _).2]

end Path

end SchemaBeans
