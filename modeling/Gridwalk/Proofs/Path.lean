import Gridwalk.Path
import Mathlib

/-!
# The laws of paths

A text is cut at each of its slashes, so two texts with a slash between them have the pieces of
both (`splitSlashes_append_slash`), and no piece holds a slash itself.

**Joining (`components_join`).** A path that begins with neither a slash nor the segment `.` adds
its components to those of any directory that it is put behind. It does not matter whether the
directory is empty, ends in slashes or ends in segments that do not matter.

**Stems.** The stem of a path is a piece of it (`notMem_of_stem?`), so it holds no slash, and a text
that begins with it and is long enough is a file name (`isName_append`).
-/

namespace Gridwalk.Path

variable {segment cs : List Char}

/-! ## Segments -/

theorem splitSlashes_ne_nil (cs : List Char) : splitSlashes cs ≠ [] := by
  cases cs with
  | nil => simp [splitSlashes]
  | cons c cs =>
    unfold splitSlashes
    by_cases hc : c = '/'
    · simp [hc]
    · rw [if_neg hc]
      split <;> simp

/-- A character that is no slash goes to the first piece. -/
theorem exists_splitSlashes_cons {c : Char} (hc : c ≠ '/') (cs : List Char) :
    ∃ s ss, splitSlashes cs = s :: ss ∧ splitSlashes (c :: cs) = (c :: s) :: ss := by
  obtain ⟨s, ss, hcs⟩ := List.exists_cons_of_ne_nil (splitSlashes_ne_nil cs)
  exact ⟨s, ss, hcs, by rw [splitSlashes, if_neg hc, hcs]⟩

theorem splitSlashes_append_slash (cs ds : List Char) :
    splitSlashes (cs ++ '/' :: ds) = splitSlashes cs ++ splitSlashes ds := by
  induction cs with
  | nil => simp [splitSlashes]
  | cons c cs ih =>
    by_cases hc : c = '/'
    · simp [splitSlashes, hc, ih]
    · obtain ⟨s, ss, hcs, hcons⟩ := exists_splitSlashes_cons hc cs
      rw [List.cons_append, splitSlashes, if_neg hc, ih, hcs, hcons]
      rfl

theorem splitSlashes_of_notMem (h : '/' ∉ cs) : splitSlashes cs = [cs] := by
  induction cs with
  | nil => rfl
  | cons c cs ih =>
    obtain ⟨hc, hcs⟩ := List.ne_and_not_mem_of_not_mem_cons h
    rw [splitSlashes, if_neg (Ne.symm hc), ih hcs]

/-- No piece holds a slash. -/
theorem notMem_of_mem_splitSlashes (h : segment ∈ splitSlashes cs) : '/' ∉ segment := by
  induction cs generalizing segment with
  | nil => simp_all [splitSlashes]
  | cons c cs ih =>
    by_cases hc : c = '/'
    · rw [splitSlashes, if_pos hc, List.mem_cons] at h
      rcases h with h | h
      · simp [h]
      · exact ih h
    · obtain ⟨s, ss, hcs, hcons⟩ := exists_splitSlashes_cons hc cs
      rw [hcons, List.mem_cons] at h
      rw [hcs] at ih
      rcases h with h | h
      · rw [h, List.mem_cons, not_or]
        exact ⟨Ne.symm hc, ih List.mem_cons_self⟩
      · exact ih (List.mem_cons_of_mem _ h)

/-! ## Components -/

/-- The segment is the name of something in a directory. -/
structure IsName (segment : List Char) : Prop where
  notMem : '/' ∉ segment
  component : component? segment = some (.name segment)

theorem component?_of_two_lt (h : 2 < segment.length) :
    component? segment = some (.name segment) := by
  unfold component?
  split
  case h_4 => rfl
  all_goals simp at h

theorem eq_of_component?_eq_name {s : List Char} (h : component? s = some (.name segment)) :
    s = segment := by
  unfold component? at h
  split at h <;> simp_all

/-- A name with something in front of it and something behind it is a name. -/
theorem isName_append {stem ending : List Char} (hstem : '/' ∉ stem) (hending : '/' ∉ ending)
    (hlong : 2 < ending.length) : IsName (stem ++ ending) where
  notMem := by simp [hstem, hending]
  component := component?_of_two_lt (by rw [List.length_append]; omega)

theorem IsName.anchor (h : IsName segment) : anchor ⟨String.ofList segment⟩ = [] := by
  have hdot : segment ≠ ['.'] := by
    intro hsegment
    have hcomponent := h.component
    rw [hsegment] at hcomponent
    cases hcomponent
  have hslash : segment.head? ≠ some '/' := fun hhead => h.notMem (List.mem_of_head? hhead)
  simp [Path.anchor, isAbsolute, splitSlashes_of_notMem h.notMem, hdot, hslash]

/-- A name on its own is a path of one component. -/
theorem IsName.components (h : IsName segment) :
    components ⟨String.ofList segment⟩ = [.name segment] := by
  rw [Path.components, h.anchor, String.toList_ofList, splitSlashes_of_notMem h.notMem]
  simp [h.component]

/-- The last component of a path has no slash in it. -/
theorem notMem_of_fileName? {p : Path} (h : p.fileName? = some segment) : '/' ∉ segment := by
  have hlast : p.components.getLast? = some (.name segment) := by
    unfold fileName? at h
    split at h <;> simp_all
  have hmem : Component.name segment ∈ p.components := List.mem_of_getLast? hlast
  rw [Path.components, List.mem_append, List.mem_filterMap] at hmem
  rcases hmem with hanchor | ⟨s, hs, hcomponent⟩
  · unfold Path.anchor at hanchor
    split_ifs at hanchor <;> simp at hanchor
  · rw [eq_of_component?_eq_name hcomponent] at hs
    exact notMem_of_mem_splitSlashes hs

/-! ## Joining -/

/-- What a path begins with depends on its first character and on its first segment only. -/
theorem anchor_congr {cs ds : List Char} (hhead : cs.head? = ds.head?)
    (hfirst : (splitSlashes cs).head? = (splitSlashes ds).head?) :
    anchor ⟨String.ofList cs⟩ = anchor ⟨String.ofList ds⟩ := by
  simp only [anchor, isAbsolute, String.toList_ofList, hhead, hfirst]

theorem head?_splitSlashes_append_slash (cs ds : List Char) :
    (splitSlashes (cs ++ '/' :: ds)).head? = (splitSlashes cs).head? := by
  rw [splitSlashes_append_slash, List.head?_append_of_ne_nil _ (splitSlashes_ne_nil cs)]

theorem components_ofList (cs : List Char) :
    components ⟨String.ofList cs⟩ =
      anchor ⟨String.ofList cs⟩ ++ (splitSlashes cs).filterMap component? := by
  rw [components, String.toList_ofList]

/-- What stands behind a slash adds its segments. -/
theorem components_append_slash (cs ds : List Char) :
    components ⟨String.ofList (cs ++ '/' :: ds)⟩ =
      components ⟨String.ofList (cs ++ ['/'])⟩ ++ (splitSlashes ds).filterMap component? := by
  have hanchor : anchor ⟨String.ofList (cs ++ '/' :: ds)⟩ =
      anchor ⟨String.ofList (cs ++ ['/'])⟩ := by
    apply anchor_congr
    · simp
    · rw [head?_splitSlashes_append_slash, head?_splitSlashes_append_slash]
  rw [components_ofList, components_ofList, hanchor, splitSlashes_append_slash,
    splitSlashes_append_slash]
  simp [splitSlashes, component?]

/-- A slash at the end adds nothing, except to an empty text. -/
theorem components_append_singleton_slash (h : cs ≠ []) :
    components ⟨String.ofList (cs ++ ['/'])⟩ = components ⟨String.ofList cs⟩ := by
  have hanchor : anchor ⟨String.ofList (cs ++ ['/'])⟩ = anchor ⟨String.ofList cs⟩ := by
    apply anchor_congr
    · rw [List.head?_append_of_ne_nil _ h]
    · exact head?_splitSlashes_append_slash cs []
  rw [components_ofList, components_ofList, hanchor, splitSlashes_append_slash]
  simp [splitSlashes, component?]

theorem components_of_anchor_eq_nil {p : Path} (h : p.anchor = []) :
    p.components = (splitSlashes p.text.toList).filterMap component? := by
  rw [components, h, List.nil_append]

/-- **Joining.** A path that begins with neither a slash nor the segment `.` adds its components to
those of a directory. -/
theorem components_join {p : Path} (h : p.anchor = []) (dir : Path) :
    (dir.join p).components = dir.components ++ p.components := by
  have habsolute : p.isAbsolute = false := by
    by_contra habsolute
    rw [Bool.not_eq_false] at habsolute
    simp [anchor, habsolute] at h
  rw [components_of_anchor_eq_nil h]
  by_cases hempty : dir.text = ""
  · have hjoin : dir.join p = p := by simp [join, habsolute, hempty]
    have hdir : dir.components = [] := by
      simp [components, anchor, isAbsolute, hempty, splitSlashes, component?]
    rw [hjoin, hdir, components_of_anchor_eq_nil h, List.nil_append]
  by_cases hslash : dir.text.toList.getLast? = some '/'
  · have hcs := List.dropLast_append_getLast? '/' hslash
    have hjoin : dir.join p =
        ⟨String.ofList (dir.text.toList.dropLast ++ '/' :: p.text.toList)⟩ := by
      rw [join, if_neg (by simp [habsolute]), if_pos (.inr hslash), List.append_cons, hcs]
      simp
    rw [hjoin, components_append_slash, hcs, String.ofList_toList]
  · have hjoin : dir.join p = ⟨String.ofList (dir.text.toList ++ '/' :: p.text.toList)⟩ := by
      rw [join, if_neg (by simp [habsolute]), if_neg (by simp [hempty, hslash])]
      simp [String.ofList_append, ← String.toList_inj]
    have hne : dir.text.toList ≠ [] := by simpa using hempty
    rw [hjoin, components_append_slash, components_append_singleton_slash hne,
      String.ofList_toList]

/-! ## Stems -/

theorem stemOf_prefix_self (name : List Char) : stemOf name <+: name := by
  unfold stemOf
  split
  · exact List.prefix_refl name
  · next hstem =>
    rw [← List.reverse_suffix, List.reverse_reverse]
    exact (List.tail_suffix _).trans (List.dropWhile_suffix _)

/-- A stem holds no slash. -/
theorem notMem_of_stem? {p : Path} {stem : List Char} (h : p.stem? = some stem) : '/' ∉ stem := by
  obtain ⟨name, hname, rfl⟩ := Option.map_eq_some_iff.1 h
  intro hmem
  exact notMem_of_fileName? hname ((stemOf_prefix_self name).subset hmem)

end Gridwalk.Path
