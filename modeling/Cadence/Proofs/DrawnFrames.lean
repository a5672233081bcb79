import Cadence.Proofs.BitPlanes
import Cadence.Screen.Terminal

/-!
Drawn frames.  A display that has room on its screen draws the frames of its size if its
pixels fill whole bytes and there are any; the screen then has a block for each pixel, in
the colour of its bit.  A display of another resolution panics at every frame of its size.
-/

namespace Cadence

namespace Sheet

variable {sheet : Sheet} {column row : Nat}

/-- The extent of a sheet, and how many cells it has. -/
def shape (sheet : Sheet) : Nat × Nat × Nat :=
  (sheet.columns, sheet.rows, sheet.cells.size)

@[simp] theorem shape_blank (columns rows : Nat) :
    (blank columns rows).shape = (columns, rows, columns * rows) := by
  simp [shape, blank]

@[simp] theorem shape_set (sheet : Sheet) (column row : Nat) (cell : Cell) :
    (sheet.set column row cell).shape = sheet.shape := by
  unfold set
  split
  · simp [shape]
  · rfl

@[simp] theorem shape_setAll (sheet : Sheet) (places : List (Nat × Nat)) (cell : Cell) :
    (sheet.setAll places cell).shape = sheet.shape := by
  induction places generalizing sheet with
  | nil => rfl
  | cons place rest ih => exact (ih _).trans (shape_set ..)

@[simp] theorem shape_drawBox (sheet : Sheet) (width height : Nat) :
    (sheet.drawBox width height).shape = sheet.shape := by
  simp [drawBox]

@[simp] theorem shape_writeClusters (sheet : Sheet) (column room : Nat)
    (clusters : List (List Char)) :
    (sheet.writeClusters column room clusters).shape = sheet.shape := by
  induction clusters generalizing sheet column room with
  | nil => rfl
  | cons cluster rest ih =>
      rw [writeClusters]
      dsimp only
      split
      · exact ih ..
      · split
        · rfl
        · rw [ih, shape_setAll, shape_set]

/-- A cell of a full sheet changes if it is written, and only then. -/
theorem cell?_set {columns rows column' row' : Nat}
    (hshape : sheet.shape = (columns, rows, columns * rows))
    (hcolumn : column < columns) (hrow : row < rows) (cell : Cell) :
    (sheet.set column' row' cell).cell? column row =
      if (column', row') = (column, row) then some cell else sheet.cell? column row := by
  obtain ⟨rfl, rfl, hsize⟩ : sheet.columns = columns ∧ sheet.rows = rows ∧
      sheet.cells.size = columns * rows := by simpa [shape] using hshape
  let grid : Resolution := ⟨sheet.columns, sheet.rows⟩
  have hcell : row * grid.width + column < grid.pixelCount :=
    Resolution.mul_add_lt_pixelCount hcolumn hrow
  unfold set
  split
  · rename_i hcolumn'
    have hiff : row' * sheet.columns + column' = row * sheet.columns + column ↔
        (column', row') = (column, row) := by
      constructor
      · intro heq
        have hplaces : ((column' : Int), -(row' : Int)) = ((column : Int), -(row : Int)) := by
          calc ((column' : Int), -(row' : Int))
              = grid.coordinate (row' * sheet.columns + column') :=
                (Resolution.coordinate_mul_add hcolumn' row').symm
            _ = grid.coordinate (row * sheet.columns + column) := by rw [heq]
            _ = ((column : Int), -(row : Int)) := Resolution.coordinate_mul_add hcolumn row
        rw [Prod.mk.injEq] at hplaces ⊢
        omega
      · rintro ⟨rfl, rfl⟩
        rfl
    simp only [cell?, Array.getElem?_setIfInBounds, hiff]
    split
    · rename_i hplace
      rw [if_pos (by rw [hiff.mpr hplace, hsize]; exact hcell)]
    · rfl
  · rename_i hcolumn'
    rw [if_neg]
    rintro ⟨rfl, rfl⟩
    exact hcolumn' hcolumn

theorem cell?_setAll {columns rows : Nat}
    (hshape : sheet.shape = (columns, rows, columns * rows))
    (hcolumn : column < columns) (hrow : row < rows) (places : List (Nat × Nat))
    (cell : Cell) :
    (sheet.setAll places cell).cell? column row =
      if (column, row) ∈ places then some cell else sheet.cell? column row := by
  induction places generalizing sheet with
  | nil => rfl
  | cons place rest ih =>
      obtain ⟨column', row'⟩ := place
      rw [show sheet.setAll ((column', row') :: rest) cell =
        (sheet.set column' row' cell).setAll rest cell from rfl,
        ih ((shape_set ..).trans hshape), cell?_set hshape hcolumn hrow]
      by_cases hrest : (column, row) ∈ rest <;> simp [hrest, eq_comm]

end Sheet

/-! ### Canvases -/

namespace Canvas

variable {canvas : Canvas} {picture : Picture}

/-- Among the places of points inside a box, the one of a given column and row. -/
theorem mem_places_iff {points : List Coordinate} {x y : Nat}
    (hpoints : ∀ point ∈ points, ∃ x y : Nat, point = ((x : Int), -(y : Int))) :
    (x + 1, y + 1) ∈ places points ↔ ((x : Int), -(y : Int)) ∈ points := by
  constructor
  · intro hmem
    obtain ⟨point, hpoint, heq⟩ := List.mem_map.mp hmem
    obtain ⟨x', y', rfl⟩ := hpoints point hpoint
    obtain ⟨rfl, rfl⟩ : x' = x ∧ y' = y := by simpa using heq
    exact hpoint
  · exact fun hpoint => List.mem_map.mpr ⟨_, hpoint, by simp⟩

theorem shape_compose (canvas : Canvas) (picture : Picture) :
    (canvas.compose picture).shape =
      (Sheet.blank canvas.sheet.columns canvas.sheet.rows).shape := by
  unfold compose
  dsimp only
  split <;> simp

theorem block?_of_blockCell {column row : Nat} {white : Bool}
    (h : canvas.sheet.cell? column row = some (blockCell white)) :
    canvas.block? column row = some white := by
  simp only [block?, h]
  cases white <;> rfl

/-- A picture that has room on a canvas has a block there for each point. -/
theorem showsPoints_compose (hexact : picture.IsExact)
    (hcolumns : picture.columns ≤ canvas.sheet.columns)
    (hrows : picture.rows ≤ canvas.sheet.rows) :
    painter.ShowsPoints picture (canvas.present (canvas.compose picture)) := by
  intro hwide htall x y hx hy
  have hplaces {points : List Coordinate} (hpoints : points ⊆ picture.black ++ picture.white) :
      (x + 1, y + 1) ∈ places points ↔ ((x : Int), -(y : Int)) ∈ points := by
    refine mem_places_iff fun point hpoint => ?_
    obtain ⟨x', y', -, -, hplace⟩ := hexact.inside point (hpoints hpoint)
    exact ⟨x', y', hplace⟩
  have hwhite := hplaces (List.subset_append_right _ _)
  have hblack := hplaces (List.subset_append_left _ _)
  have hcolumn : x + 1 < canvas.sheet.columns := by
    have := hexact.columns
    omega
  have hrow : y + 1 < canvas.sheet.rows := by
    have := hexact.rows
    omega
  have hextent : ¬(picture.extent.1 = 0 ∨ picture.extent.2 = 0) := by omega
  have hshape {boxed : Sheet}
      (h : boxed.shape = (Sheet.blank canvas.sheet.columns canvas.sheet.rows).shape) :
      boxed.shape = (canvas.sheet.columns, canvas.sheet.rows,
        canvas.sheet.columns * canvas.sheet.rows) := h.trans (Sheet.shape_blank ..)
  obtain ⟨beneath, hcell⟩ : ∃ beneath, (canvas.compose picture).cell? (x + 1) (y + 1) =
      if ((x : Int), -(y : Int)) ∈ picture.white then some (blockCell true)
      else if ((x : Int), -(y : Int)) ∈ picture.black then some (blockCell false)
      else beneath := by
    rw [compose, if_neg hextent, Sheet.cell?_setAll (hshape (by simp)) hcolumn hrow,
      Sheet.cell?_setAll (hshape (by simp)) hcolumn hrow]
    simp only [hwhite, hblack]
    exact ⟨_, rfl⟩
  constructor
  · intro hpoint
    exact block?_of_blockCell (hcell.trans (if_pos hpoint))
  · intro hpoint hother
    exact block?_of_blockCell (hcell.trans ((if_neg hother).trans (if_pos hpoint)))

theorem reliable : painter.Reliable where
  paints picture canvas hexact hcolumns hrows := by
    have hshape := shape_compose canvas picture
    exact ⟨_, rfl, congrArg (·.1) hshape, congrArg (·.2.1) hshape,
      showsPoints_compose hexact hcolumns hrows⟩

end Canvas

/-! ### Displays -/

namespace Resolution

/-- There are pixels, and they fill whole bytes. -/
structure IsWhole (resolution : Resolution) : Prop where
  width : 0 < resolution.width
  height : 0 < resolution.height
  bytes : 8 ∣ resolution.pixelCount

theorem bounds_of_pos {resolution : Resolution} (hwidth : 0 < resolution.width)
    (hheight : 0 < resolution.height) :
    resolution.bounds = .ok (resolution.width - 1, resolution.height - 1) :=
  if_neg (not_or.mpr ⟨Nat.ne_of_gt hwidth, Nat.ne_of_gt hheight⟩)

theorem boxSide_of_lt {pixels : Nat} (h : pixels + 2 < UInt16.size) :
    boxSide pixels = .ok (pixels + 2) := by
  have hword : pixels % UInt16.size = pixels := Nat.mod_eq_of_lt (by omega)
  simp only [boxSide, hword, Nat.add_comm 2 pixels]
  exact if_pos h

end Resolution

namespace TerminalDisplay

open Resolution

variable {Screen : Type} {painter : Painter Screen} {display : TerminalDisplay Screen}
  {data : Array UInt8}

/-- A display has room on its screen, whose sides are short words. -/
structure Fits (painter : Painter Screen) (display : TerminalDisplay Screen) : Prop where
  columns : display.resolution.width + 2 ≤ painter.columns display.screen
  rows : display.resolution.height + 2 ≤ painter.rows display.screen
  words : painter.columns display.screen < UInt16.size ∧
    painter.rows display.screen < UInt16.size

/-- A display that has drawn a frame, against the same one before. -/
structure Shows (painter : Painter Screen) (display : TerminalDisplay Screen)
    (data : Array UInt8) (drawn : TerminalDisplay Screen) : Prop where
  resolution : drawn.resolution = display.resolution
  status : drawn.status = display.status
  columns : painter.columns drawn.screen = painter.columns display.screen
  rows : painter.rows drawn.screen = painter.rows display.screen
  /-- A picture of a single row or column has no extent, and none of its pixels show. -/
  pixels : 1 < display.resolution.width → 1 < display.resolution.height →
    ∀ x y : Nat, x < display.resolution.width → y < display.resolution.height →
      ∃ lit, (frameBits data)[y * display.resolution.width + x]? = some lit ∧
        painter.block? drawn.screen (x + 1) (y + 1) = some lit

/-- What is handed to the painter for a frame. -/
def exactPicture (display : TerminalDisplay Screen) (data : Array UInt8) : Picture where
  title := display.title
  columns := display.resolution.width + 2
  rows := display.resolution.height + 2
  extent := (display.resolution.width - 1, display.resolution.height - 1)
  black := display.resolution.plane data false
  white := display.resolution.plane data true

/-- The box around a picture that has room can be measured. -/
theorem Fits.boxSides (hfits : display.Fits painter) :
    boxSide display.resolution.width = .ok (display.resolution.width + 2) ∧
      boxSide display.resolution.height = .ok (display.resolution.height + 2) :=
  ⟨boxSide_of_lt (Nat.lt_of_le_of_lt hfits.columns hfits.words.1),
    boxSide_of_lt (Nat.lt_of_le_of_lt hfits.rows hfits.words.2)⟩

theorem pictureOf_eq (hfits : display.Fits painter) (hwidth : 0 < display.resolution.width)
    (hheight : 0 < display.resolution.height)
    (hbytes : display.resolution.pixelCount ≤ 8 * data.size) :
    display.pictureOf data = .ok (display.exactPicture data) := by
  obtain ⟨hcolumns, hrows⟩ := hfits.boxSides
  rw [pictureOf, bitplane_eq false hbytes, bitplane_eq true hbytes, hcolumns, hrows,
    bounds_of_pos hwidth hheight]
  rfl

theorem isExact_exactPicture (hwidth : 0 < display.resolution.width)
    (hheight : 0 < display.resolution.height) : (display.exactPicture data).IsExact where
  columns := by simp only [exactPicture]; omega
  rows := by simp only [exactPicture]; omega
  inside point hpoint := by
    have hplane {lit : Bool} (h : point ∈ display.resolution.plane data lit) :
        ∃ x y : Nat, x ≤ display.resolution.width - 1 ∧ y ≤ display.resolution.height - 1 ∧
          point = ((x : Int), -(y : Int)) := by
      obtain ⟨x, y, hx, hy, hplace⟩ := exists_of_mem_plane hwidth h
      exact ⟨x, y, by omega, by omega, hplace⟩
    rcases List.mem_append.mp hpoint with hblack | hwhite
    · exact hplane hblack
    · exact hplane hwhite

/-- Where the points of a frame are shown, each pixel is, in the colour of its bit. -/
theorem block?_of_showsPoints {screen : Screen} {x y : Nat}
    (hshows : painter.ShowsPoints (display.exactPicture data) screen)
    (hbytes : display.resolution.pixelCount ≤ 8 * data.size)
    (hwide : 1 < display.resolution.width) (htall : 1 < display.resolution.height)
    (hx : x < display.resolution.width) (hy : y < display.resolution.height) :
    ∃ lit, (frameBits data)[y * display.resolution.width + x]? = some lit ∧
      painter.block? screen (x + 1) (y + 1) = some lit := by
  have hpixel : (y * display.resolution.width + x) / 8 < data.size := by
    have hlt := mul_add_lt_pixelCount hx hy
    omega
  have hbit : (frameBits data)[y * display.resolution.width + x]? =
      some (bitOf data[(y * display.resolution.width + x) / 8]
        (y * display.resolution.width + x)) := by
    rw [getElem?_frameBits, Array.getElem?_eq_getElem hpixel, Option.map_some]
  generalize bitOf _ _ = lit at hbit
  obtain ⟨hwhite, hblack⟩ := hshows (Nat.sub_pos_of_lt hwide) (Nat.sub_pos_of_lt htall) x y
    (Nat.le_sub_one_of_lt hx) (Nat.le_sub_one_of_lt hy)
  have hmem (colour : Bool) :
      ((x : Int), -(y : Int)) ∈ display.resolution.plane data colour ↔ lit = colour := by
    rw [mem_plane_iff hx hy, hbit, Option.some_inj]
  refine ⟨lit, hbit, ?_⟩
  cases lit with
  | false => exact hblack ((hmem false).mpr rfl) fun hlit => Bool.noConfusion ((hmem true).mp hlit)
  | true => exact hwhite ((hmem true).mpr rfl)

/-- A display whose pixels fill whole bytes draws every frame of its size. -/
theorem drawWith_of_isWhole (hreliable : painter.Reliable) (hfits : display.Fits painter)
    (hwhole : display.resolution.IsWhole)
    (hsize : data.size = display.resolution.byteCount) :
    ∃ drawn, display.drawWith painter data = .ok (.ok drawn) ∧
      display.Shows painter data drawn := by
  have hbytes : display.resolution.pixelCount ≤ 8 * data.size := by
    rw [hsize, byteCount]
    exact Nat.le_of_eq (Nat.mul_div_cancel' hwhole.bytes).symm
  obtain ⟨painted, hpainted, hcolumns, hrows, hshows⟩ := hreliable.paints
    (display.exactPicture data) display.screen
    (isExact_exactPicture hwhole.width hwhole.height) hfits.columns hfits.rows
  refine ⟨{ display with screen := painted }, ?_, rfl, rfl, hcolumns, hrows,
    fun hwide htall x y hx hy => block?_of_showsPoints hshows hbytes hwide htall hx hy⟩
  rw [drawWith, if_neg (not_not.mpr hsize),
    pictureOf_eq hfits hwhole.width hwhole.height hbytes]
  simp only [bind, Except.bind, hpainted]
  rfl

/-- The last pixel is looked at first; where it has no byte, that is an index error. -/
theorem drawWith_of_not_dvd (painter : Painter Screen)
    (hparts : ¬8 ∣ display.resolution.pixelCount)
    (hsize : data.size = display.resolution.byteCount) :
    display.drawWith painter data = .error (.indexOutOfBounds data.size data.size) := by
  have hrest : display.resolution.pixelCount % 8 ≠ 0 :=
    fun h => hparts (Nat.dvd_of_mod_eq_zero h)
  obtain ⟨pixel, hpixel⟩ : ∃ pixel, display.resolution.pixelCount = pixel + 1 :=
    Nat.exists_eq_succ_of_ne_zero (by omega)
  have hcount : data.size = (pixel + 1) / 8 := by rw [hsize, byteCount, hpixel]
  have hindex : pixel / 8 = data.size := by omega
  have hblack : display.resolution.bitplane data false =
      .error (.indexOutOfBounds data.size data.size) := by
    rw [bitplane, hpixel, bitplaneUpTo_of_lt false (by omega), hindex]
  rw [drawWith, if_neg (not_not.mpr hsize), pictureOf, hblack]
  rfl

/-- A display without pixels has no bounds. -/
theorem drawWith_of_eq_zero (hfits : display.Fits painter)
    (hflat : display.resolution.width = 0 ∨ display.resolution.height = 0)
    (hsize : data.size = display.resolution.byteCount) :
    display.drawWith painter data = .error .subtractionBelowZero := by
  have hnone : display.resolution.pixelCount = 0 := Nat.mul_eq_zero.mpr hflat
  have hbytes : display.resolution.pixelCount ≤ 8 * data.size := by omega
  obtain ⟨hcolumns, hrows⟩ := hfits.boxSides
  rw [drawWith, if_neg (not_not.mpr hsize), pictureOf, bitplane_eq false hbytes,
    bitplane_eq true hbytes, hcolumns, hrows, bounds, if_pos hflat]
  rfl

/-- How drawing some bytes ends. -/
structure Draws (painter : Painter Screen) (display : TerminalDisplay Screen)
    (data : Array UInt8) : Prop where
  /-- Bytes of another size are refused. -/
  refused : data.size ≠ display.resolution.byteCount →
    display.drawWith painter data =
      .ok (.error (.displaySize display.resolution.byteCount data.size))
  drawn : data.size = display.resolution.byteCount → display.Fits painter →
    display.resolution.IsWhole →
    ∃ drawn, display.drawWith painter data = .ok (.ok drawn) ∧
      display.Shows painter data drawn
  /-- The last part of a byte is not asked for, yet its pixels are looked at. -/
  cut : data.size = display.resolution.byteCount → ¬8 ∣ display.resolution.pixelCount →
    display.drawWith painter data = .error (.indexOutOfBounds data.size data.size)
  flat : data.size = display.resolution.byteCount → display.Fits painter →
    display.resolution.width = 0 ∨ display.resolution.height = 0 →
    display.drawWith painter data = .error .subtractionBelowZero

end TerminalDisplay

namespace Terminal

open TerminalDisplay

/-- Whatever paints the pictures of a display, if it can be relied on, and whatever bytes
the display is given: bytes of another size than its own are refused, and those of its
size are drawn, each pixel in the colour of its bit, if and only if the display has pixels
and they fill whole bytes.  Drawing panics otherwise, so these are the displays on which
it is total, where there is room for them. -/
theorem drawsFrames {Screen : Type} {painter : Painter Screen} (hreliable : painter.Reliable)
    (display : TerminalDisplay Screen) :
    (∀ data, display.Draws painter data) ∧
      (display.Fits painter →
        ((∀ data, ∃ answer, display.drawWith painter data = .ok answer) ↔
          display.resolution.IsWhole)) := by
  have hdraws (data : Array UInt8) : display.Draws painter data :=
    ⟨fun hother => if_pos hother,
      fun hsize hfits hwhole => drawWith_of_isWhole hreliable hfits hwhole hsize,
      fun hsize hparts => drawWith_of_not_dvd painter hparts hsize,
      fun hsize hfits hflat => drawWith_of_eq_zero hfits hflat hsize⟩
  refine ⟨hdraws, fun hfits => ⟨fun htotal => ?_, fun hwhole data => ?_⟩⟩
  · -- A frame of the display's size tells what is wrong with its resolution.
    let frame : Array UInt8 := Array.replicate display.resolution.byteCount 0
    have hsize : frame.size = display.resolution.byteCount := Array.size_replicate
    obtain ⟨answer, hanswer⟩ := htotal frame
    have hpos : ¬(display.resolution.width = 0 ∨ display.resolution.height = 0) := by
      intro hflat
      rw [(hdraws frame).flat hsize hfits hflat] at hanswer
      cases hanswer
    refine ⟨by omega, by omega, ?_⟩
    by_contra hparts
    rw [(hdraws frame).cut hsize hparts] at hanswer
    cases hanswer
  · by_cases hsize : data.size = display.resolution.byteCount
    · obtain ⟨drawn, hdrawn, -⟩ := (hdraws data).drawn hsize hfits hwhole
      exact ⟨_, hdrawn⟩
    · exact ⟨_, (hdraws data).refused hsize⟩

/-- A display of nine pixels that fills its terminal asks for one byte, and panics when it
is given one. -/
theorem drawsFrames_cutting :
    (⟨9, 1⟩ : Resolution).byteCount = 1 ∧ Canvas.painter.Reliable ∧
      (blank ⟨9, 1⟩ 11 3).Fits Canvas.painter ∧
      (blank ⟨9, 1⟩ 11 3).draw #[0xff] = .error (.indexOutOfBounds 1 1) ∧
      ¬ ∀ data, ∃ answer, (blank ⟨9, 1⟩ 11 3).draw data = .ok answer := by
  have hfits : (blank ⟨9, 1⟩ 11 3).Fits Canvas.painter :=
    ⟨by decide, by decide, by decide, by decide⟩
  have hdraws := drawsFrames Canvas.reliable (blank ⟨9, 1⟩ 11 3)
  refine ⟨rfl, Canvas.reliable, hfits, (hdraws.1 #[0xff]).cut rfl (by decide), fun htotal => ?_⟩
  exact absurd ((hdraws.2 hfits).mp htotal).bytes (by decide)

end Terminal

end Cadence
