import RouteHighlight.Path

/-!
# The last component of a path

Slashes and single dots behind the last component do not count, and neither does anything before
the slash in front of it.  A path has a file name exactly if it ends in a component that is one.
-/

namespace RouteHighlight.Path

structure IsName (name : String) : Prop where
  ne_empty : name ≠ ""
  no_slash : '/' ∉ name.toList
  ne_dot : name ≠ "."
  ne_up : name ≠ ".."

/-- What may stand behind the last component of a path. -/
def IsTail (tail : String) : Prop :=
  ∃ pieces : List String, (∀ piece ∈ pieces, piece = "/" ∨ piece = "/.") ∧
    tail = String.join pieces

/-- A component is the last of a path. -/
def EndsIn (path part : String) : Prop :=
  ∃ tail, IsTail tail ∧
    (path = part ++ tail ∨ ∃ directory, path = directory ++ "/" ++ part ++ tail)

variable {path part name tail : String}

/-! ## Components of a longer path -/

theorem components_append_slash (front back : String) :
    components (front ++ "/" ++ back) = components front ++ components back := by
  have hsplit : split (front ++ "/" ++ back) = split front ++ split back := by
    unfold split
    rw [String.toList_append, String.toList_append, List.append_assoc]
    exact List.splitOn_append_cons_self _ _
  rw [components, hsplit, List.filter_append]
  rfl

theorem components_append_tail (front : String) (h : IsTail tail) :
    components (front ++ tail) = components front := by
  obtain ⟨pieces, hpieces, rfl⟩ := h
  induction pieces generalizing front with
  | nil => simp
  | cons piece pieces ih =>
      obtain ⟨hpiece, hpieces⟩ := List.forall_mem_cons.1 hpieces
      have hfront : components (front ++ piece) = components front := by
        rcases hpiece with rfl | rfl
        · calc
            components (front ++ "/") = components (front ++ "/" ++ "") := by
              rw [String.append_empty]
            _ = components front ++ components "" := components_append_slash front ""
            _ = components front := List.append_nil _
        · calc
            components (front ++ "/.") = components (front ++ "/" ++ ".") := by
              rw [String.append_assoc]
              rfl
            _ = components front ++ components "." := components_append_slash front "."
            _ = components front := List.append_nil _
      rw [String.join_cons, ← String.append_assoc, ih (front ++ piece) hpieces, hfront]

theorem components_of_no_slash (h : '/' ∉ part.toList) :
    components part = if part = "" ∨ part = "." then [] else [part.toList] := by
  have hsplit : split part = [part.toList] := List.splitOn_eq_singleton h
  split
  next hblank => rcases hblank with rfl | rfl <;> rfl
  next hpart =>
    obtain ⟨hempty, hdot⟩ := not_or.1 hpart
    have hempty : part.toList ≠ [] := mt String.toList_eq_nil_iff.1 hempty
    have hdot : part.toList ≠ ['.'] := fun heq => hdot (String.toList_injective heq)
    rw [components, hsplit]
    simp [hempty, hdot]

theorem IsName.components_eq (h : IsName name) : components name = [name.toList] := by
  rw [components_of_no_slash h.no_slash, if_neg (not_or.2 ⟨h.ne_empty, h.ne_dot⟩)]

theorem getLast?_components (h : EndsIn path part) (hpart : components part = [part.toList]) :
    (components path).getLast? = some part.toList := by
  obtain ⟨tail, htail, rfl | ⟨directory, rfl⟩⟩ := h
  · rw [components_append_tail _ htail, hpart]
    rfl
  · rw [components_append_tail _ htail, components_append_slash, hpart]
    exact List.getLast?_concat

/-! ## The name of the file -/

theorem fileName?_of_endsIn (hname : IsName name) (h : EndsIn path name) :
    fileName? path = some name := by
  have hup : name.toList ≠ ['.', '.'] := fun heq => hname.ne_up (String.toList_injective heq)
  rw [fileName?, getLast?_components h hname.components_eq]
  simp [hup]

theorem EndsIn.behind (h : EndsIn path part) {piece : String}
    (hpiece : piece = "/" ∨ piece = "/.") : EndsIn (path ++ piece) part := by
  obtain ⟨_, ⟨pieces, hpieces, rfl⟩, hpath⟩ := h
  refine ⟨String.join (pieces ++ [piece]), ⟨pieces ++ [piece], ?_, rfl⟩, ?_⟩
  · intro other hother
    rcases List.mem_append.1 hother with hother | hother
    · exact hpieces other hother
    · exact List.mem_singleton.1 hother ▸ hpiece
  · have hjoin : String.join (pieces ++ [piece]) = String.join pieces ++ piece := by simp
    rw [hjoin]
    rcases hpath with rfl | ⟨directory, rfl⟩
    · exact .inl (String.append_assoc ..)
    · exact .inr ⟨directory, String.append_assoc ..⟩

theorem isTail_empty : IsTail "" := ⟨[], nofun, rfl⟩

private theorem exists_last_slash (h : '/' ∈ path.toList) :
    ∃ front back, path = front ++ "/" ++ back ∧ '/' ∉ back.toList := by
  obtain ⟨back, front, hpath, hback⟩ := List.eq_append_cons_of_mem (List.mem_reverse.2 h)
  refine ⟨String.ofList front.reverse, String.ofList back.reverse, ?_, by simpa using hback⟩
  apply String.toList_injective
  rw [← List.reverse_reverse path.toList, hpath]
  simp

theorem endsIn_of_getLast? (h : (components path).getLast? = some part.toList) :
    '/' ∉ part.toList ∧ part ≠ "" ∧ part ≠ "." ∧ EndsIn path part := by
  induction hlength : path.length using Nat.strongRecOn generalizing path with
  | ind n ih =>
      by_cases hslash : '/' ∈ path.toList
      · -- what stands behind the last slash is the component, or it is of no account
        obtain ⟨front, back, rfl, hback⟩ := exists_last_slash hslash
        rw [components_append_slash, components_of_no_slash hback] at h
        split at h
        next hblank =>
          rw [List.append_nil] at h
          have hshorter : front.length < n := by
            rw [← hlength, String.length_append, String.length_append]
            have : "/".length = 1 := rfl
            omega
          obtain ⟨hpart, hempty, hdot, hends⟩ := ih front.length hshorter h rfl
          refine ⟨hpart, hempty, hdot, ?_⟩
          rw [String.append_assoc]
          apply hends.behind
          rcases hblank with rfl | rfl
          · exact .inl rfl
          · exact .inr rfl
        next hcounts =>
          obtain ⟨hempty, hdot⟩ := not_or.1 hcounts
          rw [List.getLast?_concat] at h
          obtain rfl : back = part := String.toList_injective (Option.some.inj h)
          exact ⟨hback, hempty, hdot, "", isTail_empty, .inr ⟨front, String.append_empty.symm⟩⟩
      · rw [components_of_no_slash hslash] at h
        split at h
        next => cases h
        next hcounts =>
          obtain ⟨hempty, hdot⟩ := not_or.1 hcounts
          obtain rfl : path = part := String.toList_injective (Option.some.inj h)
          exact ⟨hslash, hempty, hdot, "", isTail_empty, .inl String.append_empty.symm⟩

/-- A path has a file name exactly if that is a name and the path ends in it. -/
theorem fileName?_eq_some_iff : fileName? path = some name ↔ IsName name ∧ EndsIn path name := by
  constructor
  · intro h
    unfold fileName? at h
    split at h
    next => cases h
    next part hlast =>
      split at h
      next => cases h
      next hup =>
        cases h
        have hlast : (components path).getLast? = some (String.ofList part).toList := by
          rw [hlast, String.toList_ofList]
        obtain ⟨hslash, hempty, hdot, hends⟩ := endsIn_of_getLast? hlast
        refine ⟨⟨hempty, hslash, hdot, ?_⟩, hends⟩
        intro heq
        apply hup
        simpa using congrArg String.toList heq
  · rintro ⟨hname, hends⟩
    exact fileName?_of_endsIn hname hends

/-- A path that ends in two dots has no file name. -/
theorem fileName?_of_endsIn_up (h : EndsIn path "..") : fileName? path = none := by
  rw [fileName?, getLast?_components h rfl]
  rfl

theorem fileName?_eq_none_iff :
    fileName? path = none ↔ ∀ name, IsName name → ¬ EndsIn path name := by
  rw [Option.eq_none_iff_forall_ne_some]
  refine forall_congr' fun name => ?_
  rw [ne_eq, fileName?_eq_some_iff, not_and]

end RouteHighlight.Path
