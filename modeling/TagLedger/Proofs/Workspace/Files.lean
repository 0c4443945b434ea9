import TagLedger.Proofs.Table
import TagLedger.Workspace.Files

/-!
# Files beside each other

What stands at a place is changed by putting or removing something else in the same directory only if
its name is the same.
-/

namespace TagLedger

namespace Place

variable {directory : Place} {name other : String}

theorem path_concat (h : directory ≠ []) (name : String) :
    path (directory ++ [name]) = directory.path ++ "/" ++ name := by
  rw [path, String.intercalate_append_of_ne_nil h (List.cons_ne_nil _ _),
    String.intercalate_singleton]
  rfl

theorem path_concat_inj (h : directory ≠ []) :
    path (directory ++ [name]) = path (directory ++ [other]) ↔ name = other := by
  rw [path_concat h, path_concat h, String.append_right_inj]

/-- The path of a directory is shorter than that of anything in it, and so are the paths above. -/
theorem path_ne_of_prefix {above : Place} (hne : above ≠ []) (h : above <+: directory) :
    above.path ≠ path (directory ++ [name]) := by
  obtain ⟨below, rfl⟩ := h
  intro hpath
  have hlength := congrArg String.length hpath
  rw [path_concat (List.append_ne_nil_of_left_ne_nil hne below)] at hlength
  cases below with
  | nil =>
      rw [List.append_nil] at hlength
      simp only [String.length_append] at hlength
      have hslash : "/".length = 1 := rfl
      omega
  | cons first below =>
      have hsplit : path (above ++ first :: below) = above.path ++ "/" ++ path (first :: below) :=
        String.intercalate_append_of_ne_nil hne (List.cons_ne_nil _ _)
      rw [hsplit] at hlength
      simp only [String.length_append] at hlength
      have hslash : "/".length = 1 := rfl
      omega

end Place

namespace Files

variable {files : Files} {directory place : Place} {name other : String} {node : FileNode}

theorem find?_addDirectories {names : List String} {path : String}
    (h : ∀ above, above ≠ [] → above <+: names → Place.path (place ++ above) ≠ path) :
    (files.addDirectories place names).find? path = files.find? path := by
  induction names generalizing files place with
  | nil => rfl
  | cons first names ih =>
      have hfirst : Place.path (place ++ [first]) ≠ path :=
        h [first] (List.cons_ne_nil _ _) (by simp)
      rw [addDirectories, ih]
      · split
        · rfl
        · rw [Table.find?_insert_of_ne _ _ hfirst.symm]
      · intro above hne habove
        rw [List.append_assoc]
        exact h (first :: above) (List.cons_ne_nil _ _) (List.prefix_cons_inj first |>.mpr habove)

theorem node?_of_ne_nil (h : place ≠ []) : files.node? place = files.find? place.path :=
  if_neg h

theorem node?_put_self (h : place ≠ []) : (files.put place node).node? place = some node := by
  rw [node?_of_ne_nil h, put, Table.find?_insert_self]

theorem node?_put_beside (h : directory ≠ []) (hne : name ≠ other) :
    (files.put (directory ++ [name]) node).node? (directory ++ [other]) =
      files.node? (directory ++ [other]) := by
  have hplace : directory ++ [other] ≠ [] := by simp
  have hpath : Place.path (directory ++ [other]) ≠ Place.path (directory ++ [name]) :=
    fun heq => hne ((Place.path_concat_inj h).mp heq).symm
  rw [node?_of_ne_nil hplace, node?_of_ne_nil hplace, put, Table.find?_insert_of_ne _ _ hpath,
    List.dropLast_concat]
  exact find?_addDirectories fun above hnil habove => Place.path_ne_of_prefix hnil habove

theorem node?_remove_beside (h : directory ≠ []) (hne : name ≠ other)
    (hslash : '/' ∉ other.toList) :
    (files.remove (directory ++ [name])).node? (directory ++ [other]) =
      files.node? (directory ++ [other]) := by
  have hplace : directory ++ [other] ≠ [] := by simp
  have hpath : Place.path (directory ++ [other]) ≠ Place.path (directory ++ [name]) :=
    fun heq => hne ((Place.path_concat_inj h).mp heq).symm
  have hbelow : (Place.path (directory ++ [other])).startsWith
      (Place.path (directory ++ [name]) ++ "/") = false := by
    rw [String.startsWith_string_eq_false_iff, Place.path_concat h, Place.path_concat h]
    rintro ⟨rest, hrest⟩
    simp only [String.toList_append, List.append_assoc, List.append_cancel_left_eq] at hrest
    exact hslash (by simp [← hrest])
  rw [node?_of_ne_nil hplace, node?_of_ne_nil hplace]
  exact Table.lookup_filter fun _ => by simp [hpath, hbelow]

end Files

end TagLedger
