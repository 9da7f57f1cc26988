import ReportDesk.Proofs.Table.Shape

/-! # Names for labels

    The columns of a result are named after labels, and labels may repeat. A label becomes a name
    as it is, unless a column before it has that name already; then it gets a number, the least one
    from 2 on that makes a new name. So names differ, and labels that differ are not touched.

    Names are chosen from left to right, and no label is looked at before its turn. A number may
    therefore make the very name that a later label asks for, and that label gets a number too,
    even if it is there only once. The labels that can meet with this are known: they are those of
    repeated columns with numbers behind them.
-/

namespace ReportDesk.Table

section

variable {taken : List String} {label : String}

/-! ### The search for a name -/

/-- The search for a name for a label, with no bound on its length: from the name that is tried and
    the number that comes next to the name that is found. -/
inductive Search (taken : List String) (label : String) : String → Nat → String → Prop where
  /-- The name that is tried is free. -/
  | found {name : String} {n : Nat} : name ∉ taken → Search taken label name n name
  /-- The name that is tried is taken, and the label with the next number is tried. -/
  | next {name result : String} {n : Nat} : name ∈ taken →
      Search taken label (numbered label n) (n + 1) result → Search taken label name n result

namespace Search

/-- A search ends with one name only. -/
theorem unique {name first second : String} {n : Nat} (h : Search taken label name n first)
    (h' : Search taken label name n second) : first = second := by
  induction h with
  | found hfree =>
    cases h' with
    | found _ => rfl
    | next htaken _ => exact absurd htaken hfree
  | next htaken _ ih =>
    cases h' with
    | found hfree => exact absurd htaken hfree
    | next _ hlater => exact ih hlater

/-- It does not matter to a search in which order names were taken. -/
theorem congr {others : List String} (hsame : ∀ name, name ∈ taken ↔ name ∈ others)
    {name result : String} {n : Nat} (h : Search taken label name n result) :
    Search others label name n result := by
  induction h with
  | found hfree => exact .found (mt (hsame _).mpr hfree)
  | next htaken _ ih => exact .next ((hsame _).mp htaken) ih

/-- A search ends with the name that is tried first, or with the least number that is free. -/
theorem eq_or_numbered {name result : String} {n : Nat} (h : Search taken label name n result) :
    (name ∉ taken ∧ result = name) ∨
      name ∈ taken ∧ ∃ m, n ≤ m ∧ result = numbered label m ∧ numbered label m ∉ taken ∧
        ∀ k, n ≤ k → k < m → numbered label k ∈ taken := by
  induction h with
  | found hfree => exact .inl ⟨hfree, rfl⟩
  | @next name result n htaken _ ih =>
    refine .inr ⟨htaken, ?_⟩
    rcases ih with ⟨hfree, hresult⟩ | ⟨hnumber, m, hle, hresult, hfree, hleast⟩
    · refine ⟨n, le_refl n, hresult, hfree, ?_⟩
      intro k hlow hhigh
      omega
    · refine ⟨m, by omega, hresult, hfree, ?_⟩
      intro k hlow hhigh
      -- the number that was tried here is the only one that the rest of the search leaves out
      rcases Nat.eq_or_lt_of_le hlow with rfl | hlater
      · exact hnumber
      · exact hleast k hlater hhigh

end Search

/-- From a name that is taken, a search goes through the numbers up to the first that is free. -/
theorem search_firstFree {name : String} (hname : name ∈ taken) {fuel n : Nat}
    (hfree : firstFree taken label fuel n ∉ taken) :
    Search taken label name n (firstFree taken label fuel n) := by
  induction fuel generalizing name n with
  | zero => exact .next hname (.found hfree)
  | succ fuel ih =>
    simp only [firstFree, List.contains_iff_mem] at hfree ⊢
    split at hfree
    · next htaken =>
      rw [if_pos htaken]
      exact .next hname (ih htaken hfree)
    · next htaken =>
      rw [if_neg htaken]
      exact .next hname (.found htaken)

/-- The search that begins with the label itself ends, with the name that the label gets. -/
theorem search_freshName (taken : List String) (label : String) :
    Search taken label label 2 (freshName taken label) := by
  by_cases htaken : label ∈ taken
  · have hname : freshName taken label = firstFree taken label taken.length 2 := by
      simp [freshName, htaken]
    rw [hname]
    exact search_firstFree htaken (firstFree_not_mem taken label 2)
  · have hname : freshName taken label = label := by simp [freshName, htaken]
    rw [hname]
    exact .found htaken

theorem search_iff {name : String} :
    Search taken label label 2 name ↔ name = freshName taken label := by
  constructor
  · intro h
    exact h.unique (search_freshName taken label)
  · rintro rfl
    exact search_freshName taken label

theorem freshName_congr {others : List String} (hsame : ∀ name, name ∈ taken ↔ name ∈ others) :
    freshName taken label = freshName others label :=
  search_iff.mp ((search_freshName taken label).congr hsame)

theorem freshName_of_not_mem (h : label ∉ taken) : freshName taken label = label := by
  simp [freshName, h]

theorem ne_numbered (label : String) (n : Nat) : label ≠ numbered label n := by
  intro h
  have hlength := congrArg (fun text => text.toList.length) h
  simp [numbered] at hlength

/-- As many numbers as are passed over belong to taken names, and so does the label. -/
theorem le_length_of_taken (hlabel : label ∈ taken) {n : Nat} (hlow : 2 ≤ n)
    (htaken : ∀ k, 2 ≤ k → k < n → numbered label k ∈ taken) : n ≤ taken.length + 1 := by
  have hnodup : (label :: (List.range (n - 2)).map fun k => numbered label (k + 2)).Nodup := by
    refine List.nodup_cons.mpr ⟨?_, List.Nodup.map ?_ List.nodup_range⟩
    · intro hmem
      obtain ⟨k, -, hk⟩ := List.mem_map.mp hmem
      exact ne_numbered label (k + 2) hk.symm
    · intro i j hij
      have hsum := numbered_inj hij
      omega
  have hsubset : (label :: (List.range (n - 2)).map fun k => numbered label (k + 2)) ⊆ taken := by
    refine List.cons_subset.mpr ⟨hlabel, ?_⟩
    intro name hname
    obtain ⟨k, hk, rfl⟩ := List.mem_map.mp hname
    exact htaken (k + 2) (by omega) (by have := List.mem_range.mp hk; omega)
  have hlength := (List.subperm_of_subset hnodup hsubset).length_le
  simp only [List.length_cons, List.length_map, List.length_range] at hlength
  omega

/-- A label that is taken gets the least number from 2 on that is free. There are at most as many
    numbers to try as there are taken names. -/
theorem exists_freshName_eq (h : label ∈ taken) :
    ∃ n, 2 ≤ n ∧ n ≤ taken.length + 1 ∧ freshName taken label = numbered label n ∧
      numbered label n ∉ taken ∧ ∀ k, 2 ≤ k → k < n → numbered label k ∈ taken := by
  rcases (search_freshName taken label).eq_or_numbered with
    ⟨hfree, -⟩ | ⟨-, n, hlow, hname, hfree, hleast⟩
  · exact absurd h hfree
  · exact ⟨n, hlow, le_length_of_taken h hlow hleast, hname, hfree, hleast⟩

end

/-! ### All names -/

theorem length_distinctNames (taken labels : List String) :
    (distinctNames taken labels).length = labels.length := by
  induction labels generalizing taken with
  | nil => rfl
  | cons label rest ih => simp [distinctNames, ih]

/-- Each label is named with regard to all names before it. -/
theorem getElem?_distinctNames (taken labels : List String) (i : Nat) :
    (distinctNames taken labels)[i]? =
      labels[i]?.map (freshName ((distinctNames taken labels).take i ++ taken)) := by
  induction labels generalizing taken i with
  | nil => simp [distinctNames]
  | cons label rest ih =>
    cases i with
    | zero => simp [distinctNames]
    | succ i =>
      -- the name that is chosen here stands before the others, and not behind them
      have hsame : ∀ other, freshName
          ((distinctNames (freshName taken label :: taken) rest).take i ++
            freshName taken label :: taken) other =
          freshName ((distinctNames taken (label :: rest)).take (i + 1) ++ taken) other := by
        intro other
        refine freshName_congr fun name => ?_
        simp only [distinctNames, List.take_succ_cons, List.mem_append, List.mem_cons]
        tauto
      simp only [distinctNames, List.getElem?_cons_succ, ih]
      congr 1
      funext other
      exact hsame other

/-- Labels that differ, from each other and from what is taken, are names. -/
theorem distinctNames_of_nodup {taken labels : List String} (h : labels.Nodup)
    (hfree : ∀ label ∈ labels, label ∉ taken) : distinctNames taken labels = labels := by
  induction labels generalizing taken with
  | nil => rfl
  | cons label rest ih =>
    obtain ⟨hlabel, hrest⟩ := List.nodup_cons.mp h
    have hname : freshName taken label = label := freshName_of_not_mem (hfree label (by simp))
    have hothers : ∀ other ∈ rest, other ∉ label :: taken := by
      intro other hother hmem
      rcases List.mem_cons.mp hmem with rfl | hmem
      · exact hlabel hother
      · exact hfree other (by simp [hother]) hmem
    rw [distinctNames, hname, ih hrest hothers]

theorem length_columns_ofLabels (labels : List String) :
    (ofLabels labels).columns.length = labels.length :=
  length_distinctNames [] labels

theorem getElem?_columns_ofLabels (labels : List String) (i : Nat) :
    (ofLabels labels).columns[i]? =
      labels[i]?.map (freshName ((ofLabels labels).columns.take i)) := by
  simpa [ofLabels] using getElem?_distinctNames [] labels i

theorem ofLabels_of_nodup {labels : List String} (h : labels.Nodup) :
    ofLabels labels = { columns := labels, nodup := h } :=
  Table.ext (distinctNames_of_nodup h (by simp)) rfl

/-- Every label gets a name, in its place, and no two names are equal. The search for it ends, with
    this name and no other: with the label itself when no name before it is the same, and else with
    the least number from 2 on that makes a new name, of which there is one among as many numbers as
    there are names before it. Labels that differ stay as they are, so naming the names again
    changes nothing. -/
theorem names_of_labels (labels : List String) :
    let names := (ofLabels labels).columns
    names.length = labels.length ∧ names.Nodup ∧
    (∀ i label, labels[i]? = some label → ∃ name, names[i]? = some name ∧
      (∀ result, Search (names.take i) label label 2 result ↔ result = name) ∧
      (label ∉ names.take i → name = label) ∧
      (label ∈ names.take i → ∃ n, 2 ≤ n ∧ n ≤ i + 1 ∧ name = numbered label n ∧
        numbered label n ∉ names.take i ∧
        ∀ k, 2 ≤ k → k < n → numbered label k ∈ names.take i)) ∧
    (labels.Nodup → names = labels) ∧
    ofLabels names = ofLabels labels := by
  intro names
  have hnodup : names.Nodup := (ofLabels labels).nodup
  refine ⟨length_columns_ofLabels labels, hnodup, ?_, ?_, ?_⟩
  · intro i label hlabel
    have hname : names[i]? = some (freshName (names.take i) label) := by
      rw [getElem?_columns_ofLabels, hlabel]
      rfl
    refine ⟨_, hname, fun result => search_iff, freshName_of_not_mem, ?_⟩
    intro htaken
    obtain ⟨n, hlow, hhigh, hnumber, hfree, hleast⟩ := exists_freshName_eq htaken
    have hbound : (names.take i).length ≤ i := List.length_take_le i names
    exact ⟨n, hlow, by omega, hnumber, hfree, hleast⟩
  · intro hlabels
    show (ofLabels labels).columns = labels
    rw [ofLabels_of_nodup hlabels]
  · rw [ofLabels_of_nodup hnodup]
    rfl

/-- The last label meets two names that numbers have made, and gets the number 3. -/
theorem names_of_labels_colliding :
    let labels := ["A", "A", "A_2", "A_2"]
    let names := ["A", "A_2", "A_2_2", "A_2_3"]
    (ofLabels labels).columns = names ∧ names.Nodup ∧
    Search (names.take 3) "A_2" "A_2" 2 "A_2_3" ∧
    (∃ n, n ≤ 4 ∧ "A_2_3" = numbered "A_2" n ∧ ∀ k, 2 ≤ k → k < n → numbered "A_2" k ∈ names) ∧
    (ofLabels names).columns = names := by
  intro labels names
  have hnames : (ofLabels labels).columns = names := by cbv
  obtain ⟨-, hnodup, hplaces, -, -⟩ := names_of_labels labels
  obtain ⟨name, hname, hsearch, -, htaken⟩ := hplaces 3 "A_2" rfl
  obtain ⟨-, -, -, hsame, -⟩ := names_of_labels names
  rw [hnames] at hnodup hname hsearch htaken
  cases hname
  refine ⟨hnames, hnodup, (hsearch _).mpr rfl, ?_, hsame hnodup⟩
  obtain ⟨n, -, hhigh, hnumber, -, hleast⟩ := htaken (by decide)
  exact ⟨n, hhigh, hnumber, fun k hlow hk => List.mem_of_mem_take (hleast k hlow hk)⟩

/-! ### Labels that keep their names -/

/-- A label with numbers behind it, at least one, and each of them from 2 on. -/
inductive IsNumbered (base : String) : String → Prop where
  /-- With one number. -/
  | once {n : Nat} : 2 ≤ n → IsNumbered base (numbered base n)
  /-- With one more. -/
  | again {label : String} {n : Nat} : IsNumbered base label → 2 ≤ n →
      IsNumbered base (numbered label n)

theorem mem_take_iff {texts : List String} {text : String} {i : Nat} :
    text ∈ texts.take i ↔ ∃ j, j < i ∧ texts[j]? = some text := by
  rw [List.mem_iff_getElem?]
  constructor
  · rintro ⟨j, hj⟩
    rw [List.getElem?_take] at hj
    split at hj
    · next hlt => exact ⟨j, hlt, hj⟩
    · cases hj
  · rintro ⟨j, hlt, hj⟩
    exact ⟨j, by rw [List.getElem?_take, if_pos hlt, hj]⟩

section

variable {labels : List String} {i : Nat} {label name : String}

/-- A name is its label, or its label with a number if a name before it is the same. -/
theorem kept_or_numbered (hlabel : labels[i]? = some label)
    (hname : (ofLabels labels).columns[i]? = some name) :
    (label ∉ (ofLabels labels).columns.take i ∧ name = label) ∨
      label ∈ (ofLabels labels).columns.take i ∧ ∃ n, 2 ≤ n ∧ name = numbered label n := by
  have hfresh : name = freshName ((ofLabels labels).columns.take i) label := by
    rw [getElem?_columns_ofLabels, hlabel] at hname
    exact (Option.some.inj hname).symm
  by_cases htaken : label ∈ (ofLabels labels).columns.take i
  · obtain ⟨n, hlow, -, hnumber, -, -⟩ := exists_freshName_eq htaken
    exact .inr ⟨htaken, n, hlow, hfresh.trans hnumber⟩
  · exact .inl ⟨htaken, hfresh.trans (freshName_of_not_mem htaken)⟩

theorem exists_name (hlabel : labels[i]? = some label) :
    ∃ name, (ofLabels labels).columns[i]? = some name := by
  rw [getElem?_columns_ofLabels, hlabel]
  exact ⟨_, rfl⟩

theorem exists_label (hname : (ofLabels labels).columns[i]? = some name) :
    ∃ label, labels[i]? = some label := by
  rw [getElem?_columns_ofLabels] at hname
  obtain ⟨label, hlabel, -⟩ := Option.map_eq_some_iff.mp hname
  exact ⟨label, hlabel⟩

/-- A label that was there before is the name of a column by now: of its first one, or of one that
    came before that. -/
theorem mem_names_of_mem_labels (h : label ∈ labels.take i) :
    label ∈ (ofLabels labels).columns.take i := by
  obtain ⟨j, hj, hlabel⟩ := mem_take_iff.mp h
  obtain ⟨name, hname⟩ := exists_name hlabel
  rcases kept_or_numbered hlabel hname with ⟨-, rfl⟩ | ⟨htaken, -⟩
  · exact mem_take_iff.mpr ⟨j, hj, hname⟩
  · obtain ⟨k, hk, hearlier⟩ := mem_take_iff.mp htaken
    exact mem_take_iff.mpr ⟨k, by omega, hearlier⟩

/-- Two places with one label are two occurrences of it. -/
theorem two_le_count {j : Nat} (hj : labels[j]? = some label) (hlt : j < i)
    (hi : labels[i]? = some label) : 2 ≤ (labels.take (i + 1)).count label := by
  have hmem : label ∈ labels.take i := mem_take_iff.mpr ⟨j, hlt, hj⟩
  have hpos : 0 < (labels.take i).count label := List.count_pos_iff.mpr hmem
  rw [List.take_add_one, hi, List.count_append]
  simp
  omega

/-- A name that is not its label is a label that is there twice, with numbers behind it. -/
theorem exists_isNumbered (hlabel : labels[i]? = some label)
    (hname : (ofLabels labels).columns[i]? = some name) (hne : name ≠ label) :
    ∃ base, 2 ≤ (labels.take (i + 1)).count base ∧ IsNumbered base name := by
  -- by induction on the place: the name that was in the way has come about in the same manner,
  -- unless it is a label itself, and then that label is there again
  induction i using Nat.strong_induction_on generalizing label name with
  | _ i ih =>
    rcases kept_or_numbered hlabel hname with ⟨-, hkept⟩ | ⟨htaken, n, hn, rfl⟩
    · exact absurd hkept hne
    · obtain ⟨j, hj, hearlier⟩ := mem_take_iff.mp htaken
      obtain ⟨other, hother⟩ := exists_label hearlier
      by_cases hsame : label = other
      · subst hsame
        exact ⟨label, two_le_count hother hj hlabel, .once hn⟩
      · obtain ⟨base, htwice, hbase⟩ := ih j hj hother hearlier hsame
        have hshorter : (labels.take (j + 1)).Sublist (labels.take (i + 1)) :=
          (List.take_prefix_take_left (by omega)).sublist
        exact ⟨base, htwice.trans (hshorter.count_le base), .again hbase hn⟩

/-- When the name that a new label asks for is taken, a number has made it. -/
theorem exists_anticipating (hfirst : label ∉ labels.take i)
    (htaken : label ∈ (ofLabels labels).columns.take i) :
    ∃ j earlier n, j < i ∧ labels[j]? = some earlier ∧ 2 ≤ n ∧
      (ofLabels labels).columns[j]? = some (numbered earlier n) ∧ numbered earlier n = label := by
  obtain ⟨j, hj, hname⟩ := mem_take_iff.mp htaken
  obtain ⟨earlier, hearlier⟩ := exists_label hname
  rcases kept_or_numbered hearlier hname with ⟨-, rfl⟩ | ⟨-, n, hn, rfl⟩
  · exact absurd (mem_take_iff.mpr ⟨j, hj, hearlier⟩) hfirst
  · exact ⟨j, earlier, n, hj, hearlier, hn, hname, rfl⟩

/-- A new label whose name is taken is a label that was there twice, with numbers behind it. -/
theorem exists_base (hfirst : label ∉ labels.take i)
    (htaken : label ∈ (ofLabels labels).columns.take i) :
    ∃ base, 2 ≤ (labels.take i).count base ∧ IsNumbered base label := by
  obtain ⟨j, earlier, n, hj, hearlier, -, hname, rfl⟩ := exists_anticipating hfirst htaken
  obtain ⟨base, htwice, hbase⟩ := exists_isNumbered hearlier hname (ne_numbered earlier n).symm
  have hshorter : (labels.take (j + 1)).Sublist (labels.take i) :=
    (List.take_prefix_take_left (by omega)).sublist
  exact ⟨base, htwice.trans (hshorter.count_le base), hbase⟩

end

/-- A label that was there before never stays as it is. One that was not is kept, unless a number
    that an earlier column got makes the same text: then it gets a number as well. This happens only
    to labels that are, but for numbers at their ends, labels that were there twice before. -/
theorem kept_unless_anticipated (labels : List String) (i : Nat) (label : String)
    (hlabel : labels[i]? = some label) :
    let names := (ofLabels labels).columns
    (label ∈ labels.take i → ∃ n, 2 ≤ n ∧ names[i]? = some (numbered label n)) ∧
    (label ∉ labels.take i →
      (names[i]? = some label ↔ ¬ ∃ j earlier n, j < i ∧ labels[j]? = some earlier ∧ 2 ≤ n ∧
        names[j]? = some (numbered earlier n) ∧ numbered earlier n = label) ∧
      (names[i]? ≠ some label → (∃ n, 2 ≤ n ∧ names[i]? = some (numbered label n)) ∧
        ∃ base, 2 ≤ (labels.take i).count base ∧ IsNumbered base label)) := by
  intro names
  obtain ⟨name, hname⟩ := exists_name hlabel
  have hcases := kept_or_numbered hlabel hname
  refine ⟨?_, ?_⟩
  · intro hrepeated
    rcases hcases with ⟨hfree, -⟩ | ⟨-, n, hn, rfl⟩
    · exact absurd (mem_names_of_mem_labels hrepeated) hfree
    · exact ⟨n, hn, hname⟩
  · intro hfirst
    rcases hcases with ⟨hfree, rfl⟩ | ⟨htaken, n, hn, rfl⟩
    -- no name before this one is the same
    · refine ⟨⟨fun _ => ?_, fun _ => hname⟩, fun hlost => absurd hname hlost⟩
      rintro ⟨j, earlier, m, hj, -, -, hother, rfl⟩
      exact hfree (mem_take_iff.mpr ⟨j, hj, hother⟩)
    -- a name before this one is the same
    · have hlost : names[i]? ≠ some label := by
        intro hsame
        have hnumber : numbered label n = label := Option.some.inj (hname.symm.trans hsame)
        exact ne_numbered label n hnumber.symm
      have hanticipating := exists_anticipating hfirst htaken
      refine ⟨⟨fun hkept => absurd hkept hlost, fun hnone => absurd hanticipating hnone⟩, ?_⟩
      intro _
      exact ⟨⟨n, hn, hname⟩, exists_base hfirst htaken⟩

/-- The last two of these labels are there once each. The first of the two meets a name that a
    number has made, and the other does not. -/
theorem kept_unless_anticipated_renumbered :
    let labels := ["A", "A", "A_2", "B"]
    (ofLabels labels).columns = ["A", "A_2", "A_2_2", "B"] ∧
    labels[2]? = some "A_2" ∧ "A_2" ∉ labels.take 2 ∧
    (∃ base, 2 ≤ (labels.take 2).count base ∧ IsNumbered base "A_2") ∧
    labels[3]? = some "B" ∧ "B" ∉ labels.take 3 ∧
    ¬ ∃ j earlier n, j < 3 ∧ labels[j]? = some earlier ∧ 2 ≤ n ∧
      (ofLabels labels).columns[j]? = some (numbered earlier n) ∧ numbered earlier n = "B" := by
  intro labels
  have hnames : (ofLabels labels).columns = ["A", "A_2", "A_2_2", "B"] := by cbv
  obtain ⟨-, hlost⟩ := kept_unless_anticipated labels 2 "A_2" rfl
  obtain ⟨-, hkept⟩ := kept_unless_anticipated labels 3 "B" rfl
  refine ⟨hnames, rfl, by decide, ?_, rfl, by decide, ?_⟩
  · exact ((hlost (by decide)).2 (by rw [hnames]; decide)).2
  · exact (hkept (by decide)).1.mp (by rw [hnames]; decide)

/-- A label may be there only once and not be kept. -/
theorem not_kept_when_single :
    ¬ ∀ (labels : List String) (i : Nat) (label : String), labels[i]? = some label →
      labels.count label = 1 → (ofLabels labels).columns[i]? = some label := by
  intro hclaim
  have hkept := hclaim ["A", "A", "A_2"] 2 "A_2" rfl (by decide)
  have hnames : (ofLabels ["A", "A", "A_2"]).columns = ["A", "A_2", "A_2_2"] := by cbv
  rw [hnames] at hkept
  exact absurd hkept (by decide)

end ReportDesk.Table
