import LogSearch.Search.Dispatch

/-!
# Names with commas between them

Main statement: a list of names with commas between them is read as that list, if the names are
plain (`namesOfPattern_intercalate`).
-/

namespace LogSearch

/-- A name that can stand in a list: it is not empty, holds no comma, and no blank stands around
it. -/
structure PlainName (name : String) : Prop where
  nonempty : name ≠ ""
  no_comma : ',' ∉ name.toList
  trimmed : trim name.toList = name.toList

theorem splitAll_eq_splitOn (separator : Char) (cs : List Char) :
    splitAll separator cs = cs.splitOn separator := by
  induction cs with
  | nil => rfl
  | cons c cs ih =>
    rw [splitAll, List.splitOn_cons_eq_if_modifyHead, ih]
    by_cases h : c = separator
    · simp [h]
    · rw [if_neg h, if_neg (by simpa using h)]
      cases hsplit : cs.splitOn separator with
      | nil => exact absurd hsplit (List.splitOn_ne_nil _ _)
      | cons piece pieces => rfl

/-- **Plain names are read as they were written.** -/
theorem namesOfPattern_intercalate {names : List String} (h : ∀ name ∈ names, PlainName name) :
    namesOfPattern (",".intercalate names) = names := by
  have hcomma : ",".toList = [','] := rfl
  rw [namesOfPattern, String.toList_intercalate, hcomma, splitAll_eq_splitOn]
  by_cases hne : names = []
  · subst hne
    rfl
  have hsplit : ([','].intercalate (names.map String.toList)).splitOn ','
      = names.map String.toList := by
    refine List.splitOn_intercalate _ ?_ (by simpa using hne)
    intro piece hpiece
    obtain ⟨name, hname, rfl⟩ := List.mem_map.mp hpiece
    exact (h name hname).no_comma
  have htrim : (names.map String.toList).map trim = names.map String.toList := by
    rw [List.map_map]
    exact List.map_congr_left fun name hname => (h name hname).trimmed
  have hkeep : (names.map String.toList).filter (fun name => !name.isEmpty)
      = names.map String.toList := by
    refine List.filter_eq_self.mpr fun piece hpiece => ?_
    obtain ⟨name, hname, rfl⟩ := List.mem_map.mp hpiece
    have := (h name hname).nonempty
    simpa using this
  rw [hsplit, htrim, hkeep, List.map_map]
  exact (List.map_congr_left fun name _ => String.ofList_toList).trans (List.map_id names)

end LogSearch
