import SchemaBeans.Text.Split

/-! Text cut at separators.

The pieces have no separators and, with separators between them, are the text again. -/

namespace SchemaBeans.Text

theorem of_mem_splitOnP {α : Type} {p : α → Bool} {xs w : List α} (h : w ∈ xs.splitOnP p) :
    ∀ x ∈ w, x ∈ xs ∧ p x = false := by
  induction xs generalizing w with
  | nil =>
    obtain rfl := List.mem_singleton.mp h
    simp
  | cons x xs ih =>
    have hrest : ∀ {v}, v ∈ xs.splitOnP p → ∀ y ∈ v, y ∈ x :: xs ∧ p y = false :=
      fun hv y hy => ⟨List.mem_cons_of_mem x (ih hv y hy).1, (ih hv y hy).2⟩
    rw [List.splitOnP_cons_eq_if_modifyHead] at h
    split at h
    · rcases List.mem_cons.mp h with rfl | h
      · simp
      · exact hrest h
    · rename_i hx
      obtain ⟨v, vs, hvs⟩ := List.exists_cons_of_ne_nil (List.splitOnP_ne_nil p xs)
      rw [hvs] at hrest h
      rcases List.mem_cons.mp h with rfl | h
      · intro y hy
        rcases List.mem_cons.mp hy with rfl | hy
        · exact ⟨List.mem_cons_self, by simpa using hx⟩
        · exact hrest List.mem_cons_self y hy
      · exact hrest (List.mem_cons_of_mem _ h)

theorem flatten_splitOnP {α : Type} (p : α → Bool) (xs : List α) : (xs.splitOnP p).flatten = xs.filter (!p ·) := by
  induction xs with
  | nil => rfl
  | cons x xs ih =>
    rw [List.splitOnP_cons_eq_if_modifyHead]
    obtain ⟨w, ws, hws⟩ := List.exists_cons_of_ne_nil (List.splitOnP_ne_nil p xs)
    cases hx : p x
    · simpa [hx, hws] using ih
    · simpa [hx] using ih

theorem splitOnP_map {α β : Type} (p : β → Bool) (f : α → β) (xs : List α) :
    (xs.map f).splitOnP p = (xs.splitOnP fun x => p (f x)).map (List.map f) := by
  induction xs with
  | nil => rfl
  | cons x xs ih =>
    rw [List.map_cons, List.splitOnP_cons_eq_if_modifyHead, List.splitOnP_cons_eq_if_modifyHead, ih]
    obtain ⟨w, ws, hws⟩ := List.exists_cons_of_ne_nil (List.splitOnP_ne_nil (fun x => p (f x)) xs)
    cases hx : p (f x) <;> simp [hws]

variable {sep : Char}

theorem pieces_append_cons {s t u : String} (h : s.toList = t.toList ++ sep :: u.toList) :
    pieces sep s = pieces sep t ++ pieces sep u := by
  have hsplit : _ = List.splitOn sep t.toList ++ List.splitOn sep u.toList :=
    List.splitOn_append_cons_self t.toList u.toList
  simp only [List.splitOn_eq_splitOnP] at hsplit
  rw [pieces, pieces, pieces, h, hsplit, List.map_append]

theorem pieces_eq_singleton {s : String} (h : sep ∉ s.toList) : pieces sep s = [s] := by
  have hsep : ∀ c ∈ s.toList, (c == sep) = false := fun c hc => beq_eq_false_iff_ne.mpr fun heq => h (heq ▸ hc)
  rw [pieces, List.splitOnP_eq_singleton hsep, List.map_singleton, String.ofList_toList]

theorem pieces_ne_nil (sep : Char) (s : String) : pieces sep s ≠ [] := by
  simp [pieces]

theorem of_mem_pieces {s piece : String} (h : piece ∈ pieces sep s) : ∀ c ∈ piece.toList, c ∈ s.toList ∧ c ≠ sep := by
  obtain ⟨cs, hcs, rfl⟩ := List.mem_map.mp h
  rw [String.toList_ofList]
  exact fun c hc => ⟨(of_mem_splitOnP hcs c hc).1, by simpa using (of_mem_splitOnP hcs c hc).2⟩

/-- The pieces with separators between them are the text again. -/
theorem intercalate_pieces (sep : Char) (s : String) :
    List.intercalate [sep] ((pieces sep s).map String.toList) = s.toList := by
  have hpieces : (pieces sep s).map String.toList = s.toList.splitOn sep := by
    simp [pieces, List.splitOn_eq_splitOnP, Function.comp_def]
  rw [hpieces, List.intercalate_splitOn]

theorem eq_of_pieces_eq {s t : String} (h : pieces sep s = pieces sep t) : s = t := by
  rw [← String.toList_inj, ← intercalate_pieces sep s, h, intercalate_pieces]

/-- Texts that are cut into equally many pieces before a mark are the same after it. -/
theorem eq_of_append_eq {s t u v : String} (hlength : (pieces sep s).length = (pieces sep t).length)
    (hu : u.toList.head? = some sep) (hv : v.toList.head? = some sep) (h : s ++ u = t ++ v) : u = v := by
  obtain ⟨us, hus⟩ := List.head?_eq_some_iff.mp hu
  obtain ⟨vs, hvs⟩ := List.head?_eq_some_iff.mp hv
  have hleft : pieces sep (s ++ u) = pieces sep s ++ pieces sep (String.ofList us) := pieces_append_cons (by simp [hus])
  have hright : pieces sep (t ++ v) = pieces sep t ++ pieces sep (String.ofList vs) := pieces_append_cons (by simp [hvs])
  rw [h, hright] at hleft
  have heq := String.ofList_injective (eq_of_pieces_eq (List.append_inj hleft hlength.symm).2)
  rw [← String.toList_inj, hus, hvs, heq]

theorem eq_of_append_cons_eq {s t x y : String} (hs : sep ∉ s.toList) (ht : sep ∉ t.toList)
    (h : s.toList ++ sep :: x.toList = t.toList ++ sep :: y.toList) : s = t ∧ x = y := by
  have hpieces {s : String} (hs : sep ∉ s.toList) (x : String) :
      pieces sep (String.ofList (s.toList ++ sep :: x.toList)) = s :: pieces sep x := by
    rw [pieces_append_cons String.toList_ofList, pieces_eq_singleton hs]
    rfl
  have heq := congrArg (fun cs => pieces sep (String.ofList cs)) h
  rw [hpieces hs, hpieces ht, List.cons.injEq] at heq
  exact ⟨heq.1, eq_of_pieces_eq heq.2⟩

theorem not_mem_intercalate {α : Type} {x : α} {sep : List α} (hsep : x ∉ sep) {ws : List (List α)}
    (h : ∀ w ∈ ws, x ∉ w) : x ∉ List.intercalate sep ws := by
  induction ws with
  | nil => simp
  | cons w ws ih =>
    have hw := h w List.mem_cons_self
    have hws := ih fun v hv => h v (List.mem_cons_of_mem w hv)
    cases ws with
    | nil => simpa using hw
    | cons v ws => simp [List.intercalate_cons_cons, hw, hsep, hws]

theorem infix_intercalate {α : Type} (sep : List α) {w : List α} {ws : List (List α)} (h : w ∈ ws) :
    w <:+: List.intercalate sep ws := by
  induction ws with
  | nil => cases h
  | cons v ws ih =>
    cases ws with
    | nil => simp [List.mem_singleton.mp h]
    | cons u ws =>
      rw [List.intercalate_cons_cons]
      rcases List.mem_cons.mp h with rfl | h
      · exact List.infix_append_of_infix_left List.infix_append_left
      · exact List.infix_append_of_infix_right (ih h)

/-- What stands before the first separator, if there is one. -/
theorem head_splitOn {α : Type} [BEq α] [LawfulBEq α] {a : α} {xs w : List α} (h : (xs.splitOn a).head? = some w) :
    xs = w ∨ ∃ rest, xs = w ++ a :: rest := by
  obtain ⟨ws, hws⟩ := List.head?_eq_some_iff.mp h
  have hxs : List.intercalate [a] (xs.splitOn a) = xs := List.intercalate_splitOn a
  rw [hws] at hxs
  cases ws with
  | nil => exact Or.inl (by simpa using hxs.symm)
  | cons v ws => exact Or.inr ⟨List.intercalate [a] (v :: ws), by simpa [List.intercalate_cons_cons] using hxs.symm⟩

theorem splitOn_append_of_not_mem {α : Type} [BEq α] [LawfulBEq α] {a : α} {xs : List α} (h : a ∉ xs) (ys : List α) :
    (xs ++ ys).splitOn a = (ys.splitOn a).modifyHead (xs ++ ·) := by
  induction xs with
  | nil => cases h' : ys.splitOn a <;> simp [h']
  | cons x xs ih =>
    have hxs : a ∉ xs := fun hmem => h (List.mem_cons_of_mem x hmem)
    have hne : ¬(x == a) = true := fun heq => h (beq_iff_eq.mp heq ▸ List.mem_cons_self)
    rw [List.cons_append, List.splitOn_cons_eq_if_modifyHead, if_neg hne, ih hxs, List.modifyHead_modifyHead]
    rfl

theorem flatMap_intercalate {α β : Type} (f : α → List β) (sep : α) (ws : List (List α)) :
    (List.intercalate [sep] ws).flatMap f = List.intercalate (f sep) (ws.map (·.flatMap f)) := by
  induction ws with
  | nil => rfl
  | cons w ws ih =>
    cases ws with
    | nil => simp
    | cons v ws => simpa [List.intercalate_cons_cons] using ih

end SchemaBeans.Text
