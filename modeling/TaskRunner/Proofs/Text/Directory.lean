import Mathlib.Data.List.DropRight
import TaskRunner.Path
import TaskRunner.Proofs.Text.Lines

/-! The directories of paths.  A file that is named without the way to it lies in the directory that
the name was joined to, and that directory is written the same way. -/

namespace TaskRunner

theorem joinWith_append {sep : Char} {parts more : List (List Char)} (h : parts ≠ [])
    (hmore : more ≠ []) :
    joinWith sep (parts ++ more) = joinWith sep parts ++ sep :: joinWith sep more := by
  induction parts with
  | nil => exact absurd rfl h
  | cons part rest ih =>
    obtain ⟨next, others, rfl⟩ := List.exists_cons_of_ne_nil hmore
    cases rest with
    | nil => rw [List.singleton_append, joinWith_cons_cons, joinWith_singleton]
    | cons second rest =>
      rw [List.cons_append, List.cons_append, joinWith_cons_cons, ← List.cons_append,
        ih (List.cons_ne_nil second rest), joinWith_cons_cons, List.append_assoc,
        List.cons_append]

namespace Path

/-- The text is one component of a path, and one that counts. -/
structure IsName (name : String) : Prop where
  noSlash : '/' ∉ name.toList
  counts : isTrivial name.toList = false

theorem dropTrivialEnd_eq_rdropWhile (components : List (List Char)) :
    dropTrivialEnd components = components.rdropWhile isTrivial := rfl

theorem dropTrivialEnd_isInitial (components : List (List Char)) :
    dropTrivialEnd components <+: components :=
  List.rdropWhile_prefix isTrivial components

theorem dropTrivialEnd_concat {name : List Char} (h : isTrivial name = false)
    (parts : List (List Char)) : dropTrivialEnd (parts ++ [name]) = parts ++ [name] := by
  rw [dropTrivialEnd_eq_rdropWhile, List.rdropWhile_concat_neg]
  simp [h]

theorem dropTrivialEnd_dropTrivialEnd (components : List (List Char)) :
    dropTrivialEnd (dropTrivialEnd components) = dropTrivialEnd components :=
  List.rdropWhile_idempotent isTrivial components

theorem root_isInitial (path : List Char) : root path <+: path := by
  unfold root
  split <;> simp

theorem root_cases (path : List Char) : root path = [] ∨ root path = ['/'] ∨ root path = ['.'] := by
  unfold root
  split <;> simp

/-- What a path begins with does not depend on what follows its first slash. -/
theorem root_append_slash (front rest other : List Char) :
    root (front ++ '/' :: rest) = root (front ++ '/' :: other) := by
  match front with
  | [] => rfl
  | [c] => by_cases hslash : c = '/' <;> by_cases hdot : c = '.' <;> simp [root, hslash, hdot]
  | c :: d :: front =>
    by_cases hslash : c = '/'
    · simp [root, hslash]
    by_cases hdot : c = '.' ∧ d = '/'
    · simp [root, hdot]
    · rw [root, root] <;> grind

/-- The directory of a path that is written as a root and some components, the last of them a
name. -/
theorem parentChars_of_parts {front : List Char} {parts : List (List Char)} {name : List Char}
    (hroot : root (front ++ joinWith '/' (parts ++ [name])) = front)
    (hparts : ∀ part ∈ parts, '/' ∉ part) (hslash : '/' ∉ name) (hname : isTrivial name = false) :
    parentChars (front ++ joinWith '/' (parts ++ [name])) =
      front ++ joinWith '/' (dropTrivialEnd parts) := by
  have hsplit : splitAt '/' (joinWith '/' (parts ++ [name])) = parts ++ [name] := by
    obtain ⟨first, rest, hcons⟩ := List.exists_cons_of_ne_nil (show parts ++ [name] ≠ [] by simp)
    rw [hcons]
    refine splitAt_joinWith fun part hpart => ?_
    rw [← hcons, List.mem_append, List.mem_singleton] at hpart
    rcases hpart with hpart | rfl
    · exact hparts part hpart
    · exact hslash
  have hcomponents : components (front ++ joinWith '/' (parts ++ [name])) = parts ++ [name] := by
    rw [components, hroot, List.drop_left, hsplit, dropTrivialEnd_concat hname]
  rw [parentChars, hcomponents, hroot, List.dropLast_concat]
  simp

/-- The last character of joined components is one of the last component. -/
theorem getLast?_joinWith {parts : List (List Char)} (h : parts ≠ [])
    (hparts : ∀ part ∈ parts, '/' ∉ part) (hend : dropTrivialEnd parts = parts)
    (front : List Char) :
    front ++ joinWith '/' parts ≠ [] ∧ (front ++ joinWith '/' parts).getLast? ≠ some '/' := by
  obtain ⟨before, last, rfl⟩ : ∃ before last, parts = before ++ [last] :=
    ⟨_, _, (List.dropLast_append_getLast h).symm⟩
  have hlast : last ≠ [] := by
    rintro rfl
    rw [dropTrivialEnd_eq_rdropWhile, List.rdropWhile_concat_pos _ _ _ (by rfl)] at hend
    have hle := (dropTrivialEnd_isInitial before).length_le
    rw [dropTrivialEnd_eq_rdropWhile, hend, List.length_append, List.length_singleton] at hle
    omega
  obtain ⟨head, hjoin, -⟩ := exists_joinWith_concat '/' before last
  rw [hjoin, ← List.append_assoc, List.getLast?_append_of_ne_nil _ hlast]
  refine ⟨by simp [hlast], fun hslash => ?_⟩
  exact hparts last (by simp) (List.mem_of_getLast? hslash)

theorem toList_join {name : String} (h : IsName name) (base : String) :
    (join base name).toList =
      if base.toList = [] ∨ base.toList.getLast? = some '/' then base.toList ++ name.toList
      else base.toList ++ '/' :: name.toList := by
  have hhead : name.toList.head? ≠ some '/' := fun hhead => h.noSlash (List.mem_of_head? hhead)
  rw [join, if_neg hhead]
  simp only [← String.toList_eq_nil_iff]
  split <;> simp

/-- The directory of a path: nothing, or the beginning of the path up to one of its slashes. -/
theorem parentChars_cases (path : List Char) :
    parentChars path = [] ∨ parentChars path = root path ∨
      ∃ parts, parts ≠ [] ∧ (∀ part ∈ parts, '/' ∉ part) ∧ dropTrivialEnd parts = parts ∧
        parentChars path = root path ++ joinWith '/' parts ∧
        ∃ rest, path = parentChars path ++ '/' :: rest := by
  unfold parentChars
  split
  · exact .inl rfl
  next hsome =>
    right
    set parts := dropTrivialEnd (components path).dropLast with hparts
    by_cases hnil : parts = []
    · rw [hnil]
      exact .inl (by simp)
    obtain ⟨more, hmore⟩ : parts <+: (components path).dropLast := dropTrivialEnd_isInitial _
    obtain ⟨others, hothers⟩ :=
      dropTrivialEnd_isInitial (splitAt '/' (path.drop (root path).length))
    have hne : components path ≠ [] := by simpa using hsome
    -- What is joined to the directory again begins with the last component of the path.
    have hsplit : splitAt '/' (path.drop (root path).length) =
        parts ++ (more ++ [(components path).getLast hne] ++ others) := by
      calc splitAt '/' (path.drop (root path).length)
          = components path ++ others := hothers.symm
        _ = (components path).dropLast ++ [(components path).getLast hne] ++ others := by
          rw [List.dropLast_append_getLast]
        _ = _ := by rw [← hmore]; simp
    refine .inr ⟨parts, hnil, fun part hpart => ?_, dropTrivialEnd_dropTrivialEnd _, rfl, ?_⟩
    · have hmem : part ∈ splitAt '/' (path.drop (root path).length) := by
        rw [hsplit]
        exact List.mem_append_left _ hpart
      exact not_mem_of_mem_splitAt hmem
    · have hdrop := joinWith_splitAt '/' (path.drop (root path).length)
      rw [hsplit, joinWith_append hnil (by simp)] at hdrop
      refine ⟨joinWith '/' (more ++ [(components path).getLast hne] ++ others), ?_⟩
      rw [List.append_assoc, hdrop, List.prefix_iff_eq_append.1 (root_isInitial path)]

/-- A name that is joined to the directory of a path lies in that directory. -/
theorem parent_join_parent {name : String} (h : IsName name) (path : String) :
    parent (join (parent path) name) = parent path := by
  have hof (front : List Char) (parts : List (List Char))
      (hroot : root (front ++ joinWith '/' (parts ++ [name.toList])) = front)
      (hparts : ∀ part ∈ parts, '/' ∉ part) := parentChars_of_parts hroot hparts h.noSlash h.counts
  have hjoin := toList_join h (parent path)
  rw [parent, String.toList_ofList] at hjoin
  refine congrArg String.ofList ?_
  rw [parent, hjoin]
  have hname : parentChars name.toList = [] := by
    have hroot : root name.toList = [] := by
      obtain ⟨hslash, hcounts⟩ := h
      unfold root
      split <;> simp_all [isTrivial]
    have hnone := hof [] [] (by simpa using hroot) (by simp)
    simpa [dropTrivialEnd] using hnone
  -- Behind nothing and behind a slash the name is joined as it is, otherwise behind another slash.
  rcases parentChars_cases path.toList with
    hnone | hroot | ⟨parts, hne, hslash, hend, heq, rest, hpath⟩
  · rw [hnone, if_pos (.inl rfl)]
    exact hname
  · rw [hroot]
    rcases root_cases path.toList with hfront | hfront | hfront
    · rw [hfront, if_pos (.inl rfl)]
      exact hname
    · rw [hfront, if_pos (.inr rfl)]
      have hslash := hof ['/'] [] rfl (by simp)
      simpa [dropTrivialEnd] using hslash
    · rw [hfront, if_neg (by simp)]
      have hdot := hof ['.'] [[]] rfl (by simp)
      simpa [joinWith_cons_cons, dropTrivialEnd, isTrivial] using hdot
  · obtain ⟨hsome, hlast⟩ := getLast?_joinWith hne hslash hend (root path.toList)
    rw [← heq] at hsome hlast
    rw [if_neg (by simp [hsome, hlast]), heq, List.append_assoc,
      ← joinWith_singleton '/' name.toList, ← joinWith_append hne (by simp)]
    have hroot : root (root path.toList ++ joinWith '/' (parts ++ [name.toList])) =
        root path.toList := by
      rw [joinWith_append hne (by simp), ← List.append_assoc, ← heq, root_append_slash _ _ rest,
        ← hpath]
    rw [hof _ _ hroot hslash, hend]

end Path

end TaskRunner
