import StmmInputBt.Window.GridInvariant

/-!
# A new size of the grid

What happens to the cells when the user changes the number of columns or of rows. The weights stay
where they are. So do the keys when the number of rows changes; when the number of columns changes,
however, the vector of keys stays as it is and every cell below the first row gets another index.

## Main definitions

* `EditGrid.KeepsLayout`: what exists before and after stays as it is.
* `EditGrid.AgreesAfter`: the condition on the vectors before the change.

## Main results

* `EditGrid.keepsLayout_iff`.
-/

namespace StmmInputBt

namespace EditGrid

/-- The assigned key and the displayed name of a cell. -/
def cell (nColumn nRow : ℕ) (g : EditGrid) : Option HardwareKey × Option String :=
  let nIdx := nColumn + nRow * g.totColumns
  (g.editHK[nIdx]?, g.editNames[nIdx]?)

/-- The cells, columns and rows that exist before and after stay as they are. -/
structure KeepsLayout (g t : EditGrid) : Prop where
  cells : ∀ nColumn nRow, nColumn < g.totColumns → nColumn < t.totColumns → nRow < g.totRows →
    nRow < t.totRows → t.cell nColumn nRow = g.cell nColumn nRow
  columnsWeight : ∀ nColumn, nColumn < g.totColumns → nColumn < t.totColumns →
    t.editColumnsWeight[nColumn]? = g.editColumnsWeight[nColumn]?
  rowsWeight : ∀ nRow, nRow < g.totRows → nRow < t.totRows →
    t.editRowsWeight[nRow]? = g.editRowsWeight[nRow]?

/-- The key and the name at an index of the vectors, `HK_NULL` and no name where they end. -/
def stored (nIdx : ℕ) (g : EditGrid) : HardwareKey × String :=
  (g.editHK.getD nIdx hkNull, g.editNames.getD nIdx "")

/-- The vectors hold the same at the index that a cell has with another number of columns as at the
one that it has now. -/
def AgreesAfter (nNewTotColumns : ℕ) (g : EditGrid) : Prop :=
  ∀ nColumn nRow, nColumn < g.totColumns → nColumn < nNewTotColumns → nRow < g.totRows →
    g.stored (nColumn + nRow * nNewTotColumns) = g.stored (nColumn + nRow * g.totColumns)

variable {g : EditGrid} {nColumn nRow nColumns nRows : ℕ}

theorem cell_eq (hg : g.WellFormed) (hcolumn : nColumn < g.totColumns) (hrow : nRow < g.totRows) :
    g.cell nColumn nRow = (g.stored (nColumn + nRow * g.totColumns)).map some some := by
  have hlt := hg.index_lt hcolumn hrow
  have hlt' : nColumn + nRow * g.totColumns < g.editNames.length := hg.names_length ▸ hlt
  simp [cell, stored, hlt, hlt']

theorem cell_resized (hcolumn : nColumn < nColumns) (hrow : nRow < nRows) :
    (g.resized nColumns nRows).cell nColumn nRow =
      (g.stored (nColumn + nRow * nColumns)).map some some := by
  have hlt := index_lt_of_lt hcolumn hrow
  have hle := le_max_left (nColumns * nRows) g.editHK.length
  simp only [cell, resized, getElem?_takeD, if_pos (hlt.trans_le hle), stored,
    List.getD_eq_getElem?_getD]
  rfl

/-- A new size keeps the weights. -/
theorem weights_resized (hg : g.WellFormed) :
    (∀ nColumn, nColumn < g.totColumns → nColumn < nColumns →
      (g.resized nColumns nRows).editColumnsWeight[nColumn]? = g.editColumnsWeight[nColumn]?) ∧
    ∀ nRow, nRow < g.totRows → nRow < nRows →
      (g.resized nColumns nRows).editRowsWeight[nRow]? = g.editRowsWeight[nRow]? := by
  have hkept : ∀ {l : List ℤ} {n i : ℕ}, i < l.length → i < n →
      (l.takeD n editDefaultWeight)[i]? = l[i]? := by
    intro l n i hl hn
    rw [getElem?_takeD, if_pos hn, List.getElem?_eq_getElem hl, Option.getD_some]
  exact ⟨fun nColumn hold hnew => hkept (by rwa [hg.columnsWeight_length]) hnew,
    fun nRow hold hnew => hkept (by rwa [hg.rowsWeight_length]) hnew⟩

theorem keepsLayout_resized_iff (hg : g.WellFormed) :
    g.KeepsLayout (g.resized nColumns nRows) ↔
      ∀ nColumn nRow, nColumn < g.totColumns → nColumn < nColumns → nRow < g.totRows →
        nRow < nRows →
        g.stored (nColumn + nRow * nColumns) = g.stored (nColumn + nRow * g.totColumns) := by
  have hinj : Function.Injective (Prod.map some some : HardwareKey × String → _) :=
    (Option.some_injective _).prodMap (Option.some_injective _)
  constructor
  · intro h nColumn nRow hcolumn hcolumn' hrow hrow'
    have hcell := h.cells nColumn nRow hcolumn hcolumn' hrow hrow'
    rw [cell_resized hcolumn' hrow', cell_eq hg hcolumn hrow] at hcell
    exact hinj hcell
  · intro h
    refine ⟨fun nColumn nRow hcolumn hcolumn' hrow hrow' => ?_, (weights_resized hg).1,
      (weights_resized hg).2⟩
    have hnew : nColumn < nColumns := hcolumn'
    have hnew' : nRow < nRows := hrow'
    rw [cell_resized hnew hnew', cell_eq hg hcolumn hrow, h nColumn nRow hcolumn hnew hrow hnew']

/-- Nothing moves where the number of columns stays the same, nor where there is one row only. -/
theorem agreesAfter_of_eq_or (h : nColumns = g.totColumns ∨ g.totRows = 1) :
    g.AgreesAfter nColumns := by
  intro nColumn nRow _ _ hrow
  rcases h with rfl | h
  · rfl
  · have hfirst : nRow = 0 := by omega
    rw [hfirst, Nat.zero_mul, Nat.zero_mul]

/-- A new number of rows keeps the layout. A new number of columns keeps it exactly if the vectors
already agree. -/
theorem keepsLayout_iff (oConf : GridConfig) (ops : List GridOp) (nValue : ℤ) :
    let g := run oConf ops
    g.KeepsLayout (g.onSpinNrRowsChanged nValue) ∧
      (g.KeepsLayout (g.onSpinNrColumnsChanged nValue) ↔
        g.AgreesAfter (clampValue 1 editMaxGrid nValue).toNat) := by
  have hg := wellFormed_run oConf ops
  refine ⟨?_, ?_⟩
  · rw [onSpinNrRowsChanged_eq hg, keepsLayout_resized_iff hg]
    intros
    rfl
  · rw [onSpinNrColumnsChanged_eq hg, keepsLayout_resized_iff hg]
    exact ⟨fun h nColumn nRow hcolumn hcolumn' hrow => h nColumn nRow hcolumn hcolumn' hrow hrow,
      fun h nColumn nRow hcolumn hcolumn' hrow _ => h nColumn nRow hcolumn hcolumn' hrow⟩

/-- With a fourth column the cell below `A` is `SPACE` and no longer `LEFT`. -/
theorem not_keepsLayout_fourth_column :
    ¬ (run .defaults []).KeepsLayout ((run .defaults []).onSpinNrColumnsChanged 4) := by
  intro h
  have hcell := congrArg Prod.fst (h.cells 0 1 (by decide) (by decide) (by decide) (by decide))
  revert hcell
  decide +kernel

end EditGrid

end StmmInputBt
