import ScriptLint.Named

/-!
# Entries under names

What is put under a name is found there, and putting keeps the other entries.
-/

namespace ScriptLint

variable {α β : Type} {name : String} {value : α} {entries : List (String × α)}

theorem mem_of_getNamed? (held : getNamed? entries name = some value) :
    (name, value) ∈ entries := by
  obtain ⟨⟨first, other⟩, found, rfl⟩ := Option.map_eq_some_iff.mp held
  obtain rfl : first = name := by simpa using List.find?_some found
  exact List.mem_of_find?_eq_some found

theorem getNamed?_of_mem (distinct : (entries.map (·.1)).Nodup)
    (member : (name, value) ∈ entries) : getNamed? entries name = some value := by
  induction entries with
  | nil => simp at member
  | cons first rest induction =>
      obtain ⟨other, held⟩ := first
      obtain ⟨apart, distinctRest⟩ := List.nodup_cons.mp distinct
      rcases List.mem_cons.mp member with same | later
      · obtain ⟨rfl, rfl⟩ := Prod.mk.inj same
        simp [getNamed?]
      · have differ : other ≠ name := by
          rintro rfl
          exact apart (List.mem_map.mpr ⟨_, later, rfl⟩)
        have onward := induction distinctRest later
        rw [getNamed?] at onward ⊢
        rw [List.find?_cons_of_neg (by simpa using differ), onward]

theorem of_mem_putNamed {entry : String × α} (member : entry ∈ putNamed name value entries) :
    entry = (name, value) ∨ entry ∈ entries := by
  induction entries with
  | nil => exact Or.inl (List.mem_singleton.mp member)
  | cons first rest induction =>
      obtain ⟨other, held⟩ := first
      rw [putNamed] at member
      split at member
      · rcases List.mem_cons.mp member with new | old
        · exact Or.inl new
        · exact Or.inr (List.mem_cons_of_mem _ old)
      · rcases List.mem_cons.mp member with rfl | later
        · exact Or.inr List.mem_cons_self
        · exact (induction later).imp id (List.mem_cons_of_mem _)

/-- Putting back what is held under a name changes nothing. -/
theorem putNamed_of_getNamed? (held : getNamed? entries name = some value) :
    putNamed name value entries = entries := by
  induction entries with
  | nil => simp [getNamed?] at held
  | cons entry rest induction =>
      obtain ⟨first, other⟩ := entry
      by_cases here : first = name
      · obtain rfl : other = value := by simpa [getNamed?, here] using held
        simp [putNamed, here]
      · have later : getNamed? rest name = some value := by
          simpa [getNamed?, here] using held
        simp [putNamed, here, induction later]

theorem putNamed_putNamed (first second : α) (entries : List (String × α)) :
    putNamed name second (putNamed name first entries) = putNamed name second entries := by
  induction entries with
  | nil => simp [putNamed]
  | cons entry rest induction =>
      obtain ⟨other, held⟩ := entry
      by_cases here : other = name
      · simp [putNamed, here]
      · simp [putNamed, here, induction]

theorem getNamed?_eq_none_iff :
    getNamed? entries name = none ↔ name ∉ entries.map (·.1) := by
  rw [getNamed?, Option.map_eq_none_iff, List.find?_eq_none, List.mem_map]
  simp only [decide_eq_true_eq, not_exists, not_and]

/-- Putting a value adds its name at the end unless it is there. -/
theorem names_putNamed (name : String) (value : α) (entries : List (String × α)) :
    (putNamed name value entries).map (·.1) =
      if name ∈ entries.map (·.1) then entries.map (·.1) else entries.map (·.1) ++ [name] := by
  induction entries with
  | nil => simp [putNamed]
  | cons entry rest induction =>
      obtain ⟨other, held⟩ := entry
      by_cases here : other = name
      · simp [putNamed, here]
      · rw [putNamed, if_neg here, List.map_cons, induction]
        by_cases later : name ∈ rest.map (·.1)
        · simp [later]
        · simp [later, Ne.symm here]

theorem putNamed_of_absent (value : α) (absent : getNamed? entries name = none) :
    putNamed name value entries = entries ++ [(name, value)] := by
  induction entries with
  | nil => rfl
  | cons entry rest induction =>
      obtain ⟨other, held⟩ := entry
      obtain ⟨differs, absentRest⟩ : name ≠ other ∧ name ∉ rest.map (·.1) := by
        simpa using getNamed?_eq_none_iff.mp absent
      simp [putNamed, Ne.symm differs, induction (getNamed?_eq_none_iff.mpr absentRest)]

/-- Erasing what was put under a new name gives the entries back. -/
theorem eraseNamed_putNamed (value : α) (absent : getNamed? entries name = none) :
    eraseNamed name (putNamed name value entries) = entries := by
  rw [putNamed_of_absent value absent, eraseNamed, List.filter_append]
  have kept : ∀ entry ∈ entries, decide (entry.1 ≠ name) = true := by
    intro entry member
    simp only [decide_eq_true_eq]
    rintro rfl
    exact getNamed?_eq_none_iff.mp absent (List.mem_map.mpr ⟨entry, member, rfl⟩)
  rw [List.filter_eq_self.mpr kept]
  simp

/-- A list made entry by entry stays the same if what is put under a name adds what was
added before. -/
theorem flatMap_putNamed (part : String × α → List β)
    (same : ∀ held, getNamed? entries name = some held → part (name, value) = part (name, held))
    (absent : getNamed? entries name = none → part (name, value) = []) :
    (putNamed name value entries).flatMap part = entries.flatMap part := by
  induction entries with
  | nil => simpa [putNamed] using absent rfl
  | cons entry rest induction =>
      obtain ⟨other, held⟩ := entry
      by_cases here : other = name
      · subst here
        simp [putNamed, same held (by simp [getNamed?])]
      · have later : getNamed? ((other, held) :: rest) name = getNamed? rest name := by
          simp [getNamed?, here]
        rw [later] at same absent
        simp [putNamed, here, induction same absent]

theorem getNamed?_map (convert : α → β) (entries : List (String × α)) (name : String) :
    getNamed? (entries.map fun entry => (entry.1, convert entry.2)) name =
      (getNamed? entries name).map convert := by
  simp only [getNamed?, List.find?_map, Option.map_map]
  rfl

theorem putNamed_map (convert : α → β) (name : String) (value : α)
    (entries : List (String × α)) :
    putNamed name (convert value) (entries.map fun entry => (entry.1, convert entry.2)) =
      (putNamed name value entries).map fun entry => (entry.1, convert entry.2) := by
  induction entries with
  | nil => rfl
  | cons entry rest induction =>
      obtain ⟨first, held⟩ := entry
      simp only [List.map_cons, putNamed]
      split
      · simp
      · simp [induction]

end ScriptLint
