import ReportDesk.Proofs.Decimal.Order
import ReportDesk.Proofs.Export.Pagination

/-! # How much stands on a page

    The pages of a plan follow one another without a gap, and each takes as many rows as it has
    place for: with the first row of the next page it would be too high. A row that is higher than
    a page still gets one, and stands there alone. All of this is said of heights as they are added
    up, row by row, in single precision; none of the sums is lost, so a page that is not too high
    has place for its rows.
-/

namespace ReportDesk.Export

open Decimal (IsNumber IsUnsigned isMeasure)

/-! ### Heights -/

/-- The height of the rows from number `start` up to before `stop`, added up in order. -/
def heightOf (rowLines : List Nat) (start stop : Nat) : Float32 :=
  ((rowLines.drop start).take (stop - start)).foldl (fun used lines => used + rowHeight lines) 0

/-- The height of the rows on a page. -/
def Layout.heightOf (layout : Layout) (range : Nat × Nat) : Float32 :=
  Export.heightOf layout.rowLines range.1 range.2

section

variable {rowLines : List Nat} {start stop : Nat}

theorem heightOf_self (rowLines : List Nat) (start : Nat) : heightOf rowLines start start = 0 := by
  simp [heightOf]

/-- A row adds its height to that of the rows before it. -/
theorem heightOf_succ (hstart : start ≤ stop) (hstop : stop < rowLines.length) :
    heightOf rowLines start (stop + 1) =
      heightOf rowLines start stop + rowHeight rowLines[stop] := by
  have hlast : (rowLines.drop start)[stop - start]? = some rowLines[stop] := by
    rw [List.getElem?_drop, Nat.add_sub_cancel' hstart, List.getElem?_eq_getElem hstop]
  have hnext : stop + 1 - start = stop - start + 1 := by omega
  rw [heightOf, hnext, List.take_add_one, hlast, List.foldl_append]
  rfl

theorem isUnsigned_rowHeight (lines : Nat) : IsUnsigned (rowHeight lines) := by
  have hline : isMeasure lineHeight = true := by decide +kernel
  have hpadding : IsUnsigned rowPadding := Decimal.isUnsigned_of_isMeasure (by decide +kernel)
  exact ((Decimal.isUnsigned_ofNat _).mul hline).add hpadding

theorem isUnsigned_heightOf (rowLines : List Nat) (start stop : Nat) :
    IsUnsigned (heightOf rowLines start stop) := by
  have hsum : ∀ (lines : List Nat) (used : Float32), IsUnsigned used →
      IsUnsigned (lines.foldl (fun used lines => used + rowHeight lines) used) := by
    intro lines
    induction lines with
    | nil => exact fun _ h => h
    | cons first rest ih => exact fun used h => ih _ (h.add (isUnsigned_rowHeight first))
  exact hsum _ _ (Decimal.isUnsigned_ofNat 0)

end

/-- A page has some height for its rows before the header is taken off, whatever its size. -/
theorem isNumber_bodyHeight (table : Table) (setup : PageSetup) :
    IsNumber (plan table setup).bodyHeight := by
  have hpage : isMeasure (setup.millimetres.2 - 2 * margin - titleBand - footerBand) = true := by
    obtain ⟨size, orientation⟩ := setup
    cases size <;> cases orientation <;> decide +kernel
  exact Decimal.isNumber_sub hpage (isUnsigned_rowHeight _)

/-! ### Plans -/

/-- What can be said of the pages that begin with row `start`, given the lines of all rows. -/
inductive IsPlan (body : Float32) (rowLines : List Nat) : Nat → List (Nat × Nat) → Prop where
  /-- The last page has all rows that are left. There is one even when there are no rows. -/
  | last {start : Nat} (hstart : start < rowLines.length ∨ start = 0 ∧ rowLines = [])
      (hfits : start + 1 < rowLines.length → ¬ body < heightOf rowLines start rowLines.length) :
      IsPlan body rowLines start [(start, rowLines.length)]
  /-- Any other page has at least one row and no place for the row behind its last one. -/
  | next {start stop : Nat} {pages : List (Nat × Nat)} (hstart : start < stop)
      (hstop : stop < rowLines.length)
      (hfits : start + 1 < stop → ¬ body < heightOf rowLines start stop)
      (hforced : body < heightOf rowLines start stop + rowHeight rowLines[stop])
      (hpages : IsPlan body rowLines stop pages) :
      IsPlan body rowLines start ((start, stop) :: pages)

/-- Rows are put on pages as a plan has them. Before row `i` is looked at, the page in progress
    begins with row `start` and has the rows up to before `i`. -/
theorem isPlan_paginate (body : Float32) {rowLines : List Nat} {start i : Nat} (hstart : start ≤ i)
    (hfirst : start < rowLines.length ∨ start = 0 ∧ rowLines = [])
    (hfits : start + 1 < i → ¬ body < heightOf rowLines start i) {rest : List Nat}
    (hi : i ≤ rowLines.length) (hrest : rowLines.drop i = rest) :
    IsPlan body rowLines start (paginate body start i (heightOf rowLines start i) rest) := by
  induction rest generalizing start i with
  | nil =>
    obtain rfl : i = rowLines.length := le_antisymm hi (List.drop_eq_nil_iff.mp hrest)
    exact .last hfirst hfits
  | cons lines rest ih =>
    have hlt : i < rowLines.length := by
      by_contra hge
      rw [List.drop_eq_nil_of_le (by omega)] at hrest
      cases hrest
    rw [List.drop_eq_getElem_cons hlt] at hrest
    obtain ⟨rfl, htail⟩ := List.cons.inj hrest
    unfold paginate
    split
    · next hbreak =>
      simp only [Bool.and_eq_true, decide_eq_true_eq] at hbreak
      have hone : 0 + rowHeight rowLines[i] = heightOf rowLines i (i + 1) := by
        rw [heightOf_succ le_rfl hlt, heightOf_self]
      rw [hone]
      exact .next hbreak.1 hlt hfits hbreak.2 (ih (Nat.le_succ i) (.inl hlt) (by omega) hlt htail)
    · next hbreak =>
      rw [← heightOf_succ hstart hlt]
      refine ih (by omega) hfirst ?_ hlt htail
      -- a page that has a row already gets this one only if it is not too high with it
      intro hmany hhigh
      rw [heightOf_succ hstart hlt] at hhigh
      have hbefore : start < i := by omega
      exact hbreak (by simp [hbefore, hhigh])

namespace IsPlan

variable {body : Float32} {rowLines : List Nat} {start : Nat} {pages : List (Nat × Nat)}

theorem head?_eq (h : IsPlan body rowLines start pages) :
    pages.head?.map Prod.fst = some start := by
  cases h <;> rfl

theorem getLast?_eq (h : IsPlan body rowLines start pages) :
    pages.getLast?.map Prod.snd = some rowLines.length := by
  induction h with
  | last => rfl
  | @next start stop pages _ _ _ _ _ ih =>
    cases pages with
    | nil => cases ih
    | cons page rest => rwa [List.getLast?_cons_cons]

/-- Each page begins where the one before it ends, and could not have begun later. -/
theorem isChain (h : IsPlan body rowLines start pages) :
    pages.IsChain fun page next => page.2 = next.1 ∧
      ∃ lines, rowLines[next.1]? = some lines ∧
        body < heightOf rowLines page.1 page.2 + rowHeight lines := by
  induction h with
  | last => exact .singleton _
  | @next start stop pages _ hstop _ hforced hpages ih =>
    refine List.isChain_cons.mpr ⟨fun page hpage => ?_, ih⟩
    have hhead := hpages.head?_eq
    rw [Option.mem_def.mp hpage] at hhead
    obtain rfl : page.1 = stop := by simpa using hhead
    exact ⟨rfl, _, List.getElem?_eq_getElem hstop, hforced⟩

/-- A page ends with a row that there is, has a row unless there are none, and is not too high if it
    has several. -/
theorem of_mem (h : IsPlan body rowLines start pages) {page : Nat × Nat} (hpage : page ∈ pages) :
    page.2 ≤ rowLines.length ∧ (rowLines ≠ [] → page.1 < page.2) ∧
      (page.1 + 1 < page.2 → ¬ body < heightOf rowLines page.1 page.2) := by
  induction h with
  | last hstart hfits =>
    obtain rfl := List.mem_singleton.mp hpage
    refine ⟨le_rfl, fun hrows => ?_, hfits⟩
    exact hstart.resolve_right fun hnone => hrows hnone.2
  | next hstart hstop hfits hforced hpages ih =>
    rcases List.mem_cons.mp hpage with rfl | hpage
    · exact ⟨hstop.le, fun _ => hstart, hfits⟩
    · exact ih hpage

/-- Without rows there is one page, which has none. -/
theorem eq_of_nil (h : IsPlan body [] start pages) : pages = [(0, 0)] := by
  cases h with
  | last hstart hfits =>
    obtain ⟨rfl, -⟩ := hstart.resolve_left (by simp)
    rfl
  | next hstart hstop => exact absurd hstop (by simp)

end IsPlan

theorem isPlan_plan (table : Table) (setup : PageSetup) :
    IsPlan (plan table setup).bodyHeight (plan table setup).rowLines 0
      (plan table setup).pages := by
  have hfirst : 0 < (plan table setup).rowLines.length ∨
      0 = 0 ∧ (plan table setup).rowLines = [] := by
    cases (plan table setup).rowLines <;> simp
  have hpages := isPlan_paginate (plan table setup).bodyHeight (le_refl 0) hfirst (by simp)
    (Nat.zero_le _) List.drop_zero
  rwa [heightOf_self] at hpages

/-- The plan of a table has at least one page. The first page begins with the first row, each other
    one where the page before it ends, and the last page ends with the last row. Every page has a
    row, unless there are none, and only rows that there are. A page with more than one row has
    place for them all; and a page ends only where the next row would have made it too high. -/
theorem plan_fills_pages (table : Table) (setup : PageSetup) :
    let layout := plan table setup
    layout.pages ≠ [] ∧
    layout.pages.head?.map Prod.fst = some 0 ∧
    layout.pages.getLast?.map Prod.snd = some table.rows.length ∧
    layout.pages.IsChain (fun page next => page.2 = next.1) ∧
    (table.rows = [] → layout.pages = [(0, 0)]) ∧
    (table.rows ≠ [] → ∀ page ∈ layout.pages, page.1 < page.2) ∧
    (∀ page ∈ layout.pages, ∀ i ∈ rowNumbers page,
      i < table.rows.length ∧ i < layout.rowLines.length) ∧
    (∀ page ∈ layout.pages, page.1 + 1 < page.2 → layout.heightOf page ≤ layout.bodyHeight) ∧
    layout.pages.IsChain fun page next =>
      ∃ lines, layout.rowLines[next.1]? = some lines ∧
        layout.bodyHeight < layout.heightOf page + rowHeight lines := by
  intro layout
  have hplan : IsPlan layout.bodyHeight layout.rowLines 0 layout.pages := isPlan_plan table setup
  have hlength : layout.rowLines.length = table.rows.length := by simp [layout, plan]
  have hnil : layout.rowLines = [] ↔ table.rows = [] := by
    rw [← List.length_eq_zero_iff, hlength, List.length_eq_zero_iff]
  refine ⟨?_, hplan.head?_eq, ?_, hplan.isChain.imp fun _ _ h => h.1, ?_, ?_, ?_, ?_,
    hplan.isChain.imp fun _ _ h => h.2⟩
  · intro hnone
    have hhead := hplan.head?_eq
    rw [hnone] at hhead
    cases hhead
  · rw [hplan.getLast?_eq, hlength]
  · intro hrows
    rw [hnil.mpr hrows] at hplan
    exact hplan.eq_of_nil
  · intro hrows page hpage
    exact (hplan.of_mem hpage).2.1 fun hnone => hrows (hnil.mp hnone)
  · intro page hpage i hi
    have hend := (hplan.of_mem hpage).1
    have hlt : i < page.1 + (page.2 - page.1) := (List.mem_range'_1.mp hi).2
    have hle : page.1 ≤ i := (List.mem_range'_1.mp hi).1
    omega
  · intro page hpage hmany
    exact Decimal.le_of_not_lt (isNumber_bodyHeight table setup)
      (isUnsigned_heightOf _ _ _).isNumber ((hplan.of_mem hpage).2.2 hmany)

/-- A table with a row of 42 lines, which no page has the height for, between two rows of one. -/
def tall : Table where
  columns := ["A"]
  rows := [[.text "x"],
    [.text (String.ofList (List.intersperse '\n' (List.replicate 42 'y')))],
    [.text "z"]]

theorem pages_tall : (plan tall {}).pages = [(0, 1), (1, 2), (2, 3)] := by
  have hrows : (plan tall {}).rowLines = [1, 42, 1] := by decide +kernel
  have hheader : (plan tall {}).headerLines = 1 := by decide +kernel
  have hbody : (plan tall {}).bodyHeight = bodyHeight 210 (plan tall {}).headerLines := rfl
  have hpages : (plan tall {}).pages =
      paginate (plan tall {}).bodyHeight 0 0 0 (plan tall {}).rowLines := rfl
  rw [hpages, hrows, hbody, hheader]
  decide +kernel

/-- The row that is too high is alone on its page, and the pages around it end no earlier for it
    than they must. -/
theorem plan_fills_pages_tall :
    tall.rows ≠ [] ∧ (plan tall {}).pages = [(0, 1), (1, 2), (2, 3)] ∧
    (∀ page ∈ (plan tall {}).pages, page.1 < page.2) ∧
    (plan tall {}).pages.IsChain fun page next =>
      ∃ lines, (plan tall {}).rowLines[next.1]? = some lines ∧
        (plan tall {}).bodyHeight < (plan tall {}).heightOf page + rowHeight lines := by
  have hrows : tall.rows ≠ [] := by decide
  obtain ⟨-, -, -, -, -, hsome, -, -, hforced⟩ := plan_fills_pages tall {}
  exact ⟨hrows, pages_tall, hsome hrows, hforced⟩

end ReportDesk.Export
