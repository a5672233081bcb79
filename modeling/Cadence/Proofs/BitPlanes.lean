import Mathlib.Data.List.Nodup
import Mathlib.Data.List.Perm.Basic
import Cadence.Screen.Bitplane

/-!
Bit planes.  The two planes of a frame list its pixels from the last to the first, each
pixel in the plane of its bit, so that the plane of the set bits alone holds the frame.
-/

namespace Cadence

/-- What stands at a place of a row of runs that all have one length. -/
theorem getElem?_flatMap_of_length {α β : Type} {run : α → List β} {length : Nat}
    (hlength : ∀ item, (run item).length = length) (hpos : 0 < length)
    (items : List α) (index : Nat) :
    (items.flatMap run)[index]? =
      items[index / length]?.bind fun item => (run item)[index % length]? := by
  induction items generalizing index with
  | nil => simp
  | cons item rest ih =>
      rw [List.flatMap_cons, List.getElem?_append, hlength]
      split
      · rename_i hlt
        rw [Nat.div_eq_of_lt hlt, Nat.mod_eq_of_lt hlt]
        rfl
      · rename_i hnot
        have hle : length ≤ index := Nat.le_of_not_lt hnot
        rw [ih, Nat.div_eq_sub_div hpos hle, Nat.mod_eq_sub_mod hle]
        rfl

/-- The bits of a byte, the most significant one first. -/
def byteBits (byte : UInt8) : List Bool := (List.range 8).map byte.toBitVec.getMsbD

/-- The bits of a frame, byte after byte. -/
def frameBits (data : Array UInt8) : List Bool := data.toList.flatMap byteBits

@[simp] theorem length_byteBits (byte : UInt8) : (byteBits byte).length = 8 := by
  rw [byteBits, List.length_map, List.length_range]

/-- The byte of given bits, the first one the most significant. -/
def byteOf (bits : Nat → Bool) : UInt8 :=
  ⟨(BitVec.ofBoolListBE ((List.range 8).map bits)).cast (by simp)⟩

theorem getMsbD_byteOf (bits : Nat → Bool) {place : Nat} (hplace : place < 8) :
    (byteOf bits).toBitVec.getMsbD place = bits place := by
  simp [byteOf, hplace]

namespace Resolution

theorem bitOf_eq (byte : UInt8) (pixel : Nat) :
    bitOf byte pixel = byte.toBitVec.getMsbD (pixel % 8) := by
  have hplace : pixel % 8 < 8 := Nat.mod_lt _ (by decide)
  rw [bitOf, ← UInt8.toNat_toBitVec, BitVec.testBit_toNat, BitVec.getMsbD_eq_getLsbD,
    decide_eq_true hplace, Bool.true_and]

/-- Bit `pixel % 8` of byte `pixel / 8` is the bit of a pixel. -/
theorem getElem?_frameBits (data : Array UInt8) (pixel : Nat) :
    (frameBits data)[pixel]? = data[pixel / 8]?.map (bitOf · pixel) := by
  have hplace : pixel % 8 < 8 := Nat.mod_lt _ (by decide)
  rw [frameBits, getElem?_flatMap_of_length length_byteBits (by decide),
    Array.getElem?_toList]
  cases data[pixel / 8]? with
  | none => rfl
  | some byte =>
      rw [Option.bind_some, Option.map_some, bitOf_eq, byteBits, List.getElem?_map,
        List.getElem?_range hplace, Option.map_some]

variable {resolution : Resolution} {data : Array UInt8}

/-! ### Places -/

/-- The pixel at a place. -/
def pixelAt (resolution : Resolution) (place : Coordinate) : Nat :=
  (-place.2).toNat * resolution.width + place.1.toNat

/-- No two pixels lie at one place. -/
@[simp] theorem pixelAt_coordinate (resolution : Resolution) (pixel : Nat) :
    resolution.pixelAt (resolution.coordinate pixel) = pixel := by
  rw [pixelAt, coordinate, Int.neg_neg, Int.toNat_natCast, ← Int.natCast_emod,
    Int.toNat_natCast]
  exact Nat.div_add_mod' pixel resolution.width

theorem coordinate_injective (resolution : Resolution) :
    Function.Injective resolution.coordinate :=
  Function.LeftInverse.injective resolution.pixelAt_coordinate

theorem coordinate_mul_add {x : Nat} (hx : x < resolution.width) (y : Nat) :
    resolution.coordinate (y * resolution.width + x) = ((x : Int), -(y : Int)) := by
  have hpos : 0 < resolution.width := Nat.zero_lt_of_lt hx
  rw [coordinate, ← Int.natCast_emod, Nat.add_comm, Nat.add_mul_mod_self_right,
    Nat.mod_eq_of_lt hx, Nat.add_mul_div_right _ _ hpos, Nat.div_eq_of_lt hx, Nat.zero_add]

theorem mul_add_lt_pixelCount {x y : Nat} (hx : x < resolution.width)
    (hy : y < resolution.height) :
    y * resolution.width + x < resolution.pixelCount := by
  calc y * resolution.width + x
      < (y + 1) * resolution.width := by rw [Nat.succ_mul]; omega
    _ ≤ resolution.height * resolution.width := Nat.mul_le_mul_right _ hy
    _ = resolution.pixelCount := Nat.mul_comm _ _

/-- Every pixel has its column and its row. -/
theorem exists_coordinate (hwidth : 0 < resolution.width) {pixel : Nat}
    (hpixel : pixel < resolution.pixelCount) :
    ∃ x y : Nat, x < resolution.width ∧ y < resolution.height ∧
      resolution.coordinate pixel = ((x : Int), -(y : Int)) :=
  ⟨pixel % resolution.width, pixel / resolution.width, Nat.mod_lt _ hwidth,
    Nat.div_lt_of_lt_mul hpixel, rfl⟩

/-! ### Planes -/

/-- The pixels below `count` whose bit is `plane`, the last one first. -/
def planePixels (data : Array UInt8) (plane : Bool) (count : Nat) : List Nat :=
  (List.range count).reverse.filter fun pixel => (frameBits data)[pixel]? == some plane

@[simp] theorem mem_planePixels {plane : Bool} {count pixel : Nat} :
    pixel ∈ planePixels data plane count ↔
      pixel < count ∧ (frameBits data)[pixel]? = some plane := by
  simp [planePixels]

theorem descending_planePixels (data : Array UInt8) (plane : Bool) (count : Nat) :
    (planePixels data plane count).Pairwise (· > ·) :=
  (List.pairwise_reverse.mpr List.pairwise_lt_range).filter _

/-- As long as there are bytes for them, the pixels of a plane are listed. -/
theorem bitplaneUpTo_eq (plane : Bool) {count : Nat} (hcount : count ≤ 8 * data.size) :
    resolution.bitplaneUpTo data plane count =
      .ok ((planePixels data plane count).map resolution.coordinate) := by
  induction count with
  | zero => rfl
  | succ pixel ih =>
      have hbyte : pixel / 8 < data.size := Nat.div_lt_of_lt_mul hcount
      have hbit : (frameBits data)[pixel]? = some (bitOf data[pixel / 8] pixel) := by
        rw [getElem?_frameBits, Array.getElem?_eq_getElem hbyte, Option.map_some]
      rw [bitplaneUpTo, Array.getElem?_eq_getElem hbyte, ih (Nat.le_of_succ_le hcount)]
      simp only [planePixels, List.range_succ, List.reverse_append, List.reverse_singleton,
        List.singleton_append, List.filter_cons, hbit, Except.map]
      by_cases hplane : bitOf data[pixel / 8] pixel = plane <;> simp [hplane]

/-- A pixel without a byte is the first one to be looked at. -/
theorem bitplaneUpTo_of_lt (plane : Bool) {pixel : Nat} (hlt : 8 * data.size ≤ pixel) :
    resolution.bitplaneUpTo data plane (pixel + 1) =
      .error (.indexOutOfBounds data.size (pixel / 8)) := by
  have hnone : data[pixel / 8]? = none := Array.getElem?_eq_none (by omega)
  rw [bitplaneUpTo, hnone]

/-- Each pixel with a byte is in one of the two planes. -/
theorem planePixels_perm {count : Nat} (hcount : count ≤ 8 * data.size) :
    (planePixels data false count ++ planePixels data true count).Perm
      (List.range count).reverse := by
  have hother : planePixels data true count = (List.range count).reverse.filter
      fun pixel => !((frameBits data)[pixel]? == some false) := by
    apply List.filter_congr
    intro pixel hpixel
    have hbyte : pixel / 8 < data.size := by
      have hlt := List.mem_range.mp (List.mem_reverse.mp hpixel)
      omega
    rw [getElem?_frameBits, Array.getElem?_eq_getElem hbyte, Option.map_some]
    cases bitOf data[pixel / 8] pixel <;> rfl
  rw [hother]
  exact List.filter_append_perm _ _

/-- The frame whose set bits are those of the pixels at given places. -/
def restore (resolution : Resolution) (places : List Coordinate) : Array UInt8 :=
  Array.ofFn fun byte : Fin resolution.byteCount =>
    byteOf fun bit => decide (resolution.coordinate (8 * byte + bit) ∈ places)

/-- The places of the pixels with a given bit. -/
def plane (resolution : Resolution) (data : Array UInt8) (bit : Bool) : List Coordinate :=
  (planePixels data bit resolution.pixelCount).map resolution.coordinate

/-- A frame with enough bytes has both planes. -/
theorem bitplane_eq (bit : Bool) (hbytes : resolution.pixelCount ≤ 8 * data.size) :
    resolution.bitplane data bit = .ok (resolution.plane data bit) :=
  bitplaneUpTo_eq bit hbytes

section Plane

variable {bit : Bool}

theorem coordinate_mem_plane {pixel : Nat} :
    resolution.coordinate pixel ∈ resolution.plane data bit ↔
      pixel < resolution.pixelCount ∧ (frameBits data)[pixel]? = some bit := by
  rw [plane, List.mem_map_of_injective resolution.coordinate_injective, mem_planePixels]

/-- A place is in the plane of the bit that its pixel has. -/
theorem mem_plane_iff {x y : Nat} (hx : x < resolution.width) (hy : y < resolution.height) :
    ((x : Int), -(y : Int)) ∈ resolution.plane data bit ↔
      (frameBits data)[y * resolution.width + x]? = some bit := by
  rw [← coordinate_mul_add hx y, coordinate_mem_plane,
    and_iff_right (mul_add_lt_pixelCount hx hy)]

/-- Every place of a plane is one of the frame. -/
theorem exists_of_mem_plane (hwidth : 0 < resolution.width) {place : Coordinate}
    (hplace : place ∈ resolution.plane data bit) :
    ∃ x y : Nat, x < resolution.width ∧ y < resolution.height ∧
      place = ((x : Int), -(y : Int)) := by
  obtain ⟨pixel, hpixel, rfl⟩ := List.mem_map.mp hplace
  exact exists_coordinate hwidth (mem_planePixels.mp hpixel).1

theorem descending_plane (resolution : Resolution) (data : Array UInt8) (bit : Bool) :
    ((resolution.plane data bit).map resolution.pixelAt).Pairwise (· > ·) := by
  have hpixels : resolution.pixelAt ∘ resolution.coordinate = id :=
    funext resolution.pixelAt_coordinate
  rw [plane, List.map_map, hpixels, List.map_id]
  exact descending_planePixels data bit _

theorem nodup_plane (resolution : Resolution) (data : Array UInt8) (bit : Bool) :
    (resolution.plane data bit).Nodup := by
  have hpixels : (planePixels data bit resolution.pixelCount).Nodup :=
    (descending_planePixels data bit _).imp Nat.ne_of_gt
  exact hpixels.map resolution.coordinate_injective

end Plane

/-- Together the planes have each place of the frame once. -/
theorem count_planes {x y : Nat} (hx : x < resolution.width) (hy : y < resolution.height)
    (hbytes : resolution.pixelCount ≤ 8 * data.size) :
    (resolution.plane data false ++ resolution.plane data true).count
      ((x : Int), -(y : Int)) = 1 := by
  have hperm := (planePixels_perm hbytes).map resolution.coordinate
  rw [List.map_append] at hperm
  rw [plane, plane, hperm.count_eq, ← coordinate_mul_add hx y]
  apply List.count_eq_one_of_mem
  · exact (List.nodup_reverse.mpr List.nodup_range).map resolution.coordinate_injective
  · rw [List.mem_map_of_injective resolution.coordinate_injective, List.mem_reverse,
      List.mem_range]
    exact mul_add_lt_pixelCount hx hy

/-- A frame whose bits are all pixels is restored from its set ones. -/
theorem restore_plane (hsize : data.size = resolution.byteCount) :
    resolution.restore (resolution.plane data true) = data := by
  apply Array.ext
  · rw [restore, Array.size_ofFn, hsize]
  · intro byte hleft hright
    simp only [restore, Array.getElem_ofFn]
    apply UInt8.toBitVec_inj.mp
    apply BitVec.eq_of_getMsbD_eq
    intro bit hbit
    have hpixel : 8 * byte + bit < resolution.pixelCount := by
      rw [hsize, byteCount] at hright
      omega
    have hdiv : (8 * byte + bit) / 8 = byte := by omega
    have hmod : (8 * byte + bit) % 8 = bit := by omega
    have hvalue : (frameBits data)[8 * byte + bit]? =
        some (data[byte].toBitVec.getMsbD bit) := by
      rw [getElem?_frameBits, hdiv, Array.getElem?_eq_getElem hright, Option.map_some,
        bitOf_eq, hmod]
    rw [getMsbD_byteOf _ hbit]
    simp [coordinate_mem_plane, hpixel, hvalue]

/-- What the two planes of a frame tell of it. -/
structure Decodes (resolution : Resolution) (data : Array UInt8)
    (black white : List Coordinate) : Prop where
  zeros : resolution.bitplane data false = .ok black
  ones : resolution.bitplane data true = .ok white
  /-- Each plane goes from the last pixel to the first. -/
  descending : ∀ places ∈ [black, white],
    (places.map resolution.pixelAt).Pairwise (· > ·)
  inside : ∀ place ∈ black ++ white, ∃ x y : Nat,
    x < resolution.width ∧ y < resolution.height ∧ place = ((x : Int), -(y : Int))
  once : ∀ x y : Nat, x < resolution.width → y < resolution.height →
    (black ++ white).count ((x : Int), -(y : Int)) = 1
  lit : ∀ x y : Nat, x < resolution.width → y < resolution.height →
    (((x : Int), -(y : Int)) ∈ white ↔
      (frameBits data)[y * resolution.width + x]? = some true)
  restored : resolution.restore white = data

/-- A frame whose bits are all pixels has two planes that hold each pixel once, and it can
be read back from the plane of its set bits; so no two frames share that plane. -/
theorem decodesFrames (hwidth : 0 < resolution.width)
    (hwhole : 8 ∣ resolution.width * resolution.height)
    (hsize : data.size = resolution.width * resolution.height / 8) :
    (∃ black white, resolution.Decodes data black white) ∧
      ∀ other : Array UInt8, other.size = data.size →
        resolution.bitplane other true = resolution.bitplane data true → other = data := by
  have hcount : resolution.pixelCount = 8 * data.size := by
    rw [hsize, Nat.mul_div_cancel' hwhole]
    rfl
  have hbytes : resolution.pixelCount ≤ 8 * data.size := Nat.le_of_eq hcount
  refine ⟨⟨_, _, ⟨bitplane_eq false hbytes, bitplane_eq true hbytes, ?_, ?_, ?_, ?_,
    restore_plane hsize⟩⟩, fun other hother hplane => ?_⟩
  · intro places hplaces
    rcases List.mem_pair.mp hplaces with rfl | rfl <;> exact descending_plane ..
  · intro place hplace
    rcases List.mem_append.mp hplace with hblack | hwhite
    · exact exists_of_mem_plane hwidth hblack
    · exact exists_of_mem_plane hwidth hwhite
  · exact fun x y hx hy => count_planes hx hy hbytes
  · exact fun x y hx hy => mem_plane_iff hx hy
  · have hothers : resolution.pixelCount ≤ 8 * other.size := by rw [hother]; exact hbytes
    rw [bitplane_eq true hbytes, bitplane_eq true hothers] at hplane
    calc other
        = resolution.restore (resolution.plane other true) :=
          (restore_plane (hother.trans hsize)).symm
      _ = resolution.restore (resolution.plane data true) := by rw [Except.ok.inj hplane]
      _ = data := restore_plane hsize

/-- Rows of three pixels, which bytes straddle. -/
theorem decodesFrames_straddling :
    (⟨3, 8⟩ : Resolution).bitplane #[0b10010001, 0, 0b00000011] true =
        .ok [(2, -7), (1, -7), (1, -2), (0, -1), (0, 0)] ∧
      ∃ black white,
        (⟨3, 8⟩ : Resolution).Decodes #[0b10010001, 0, 0b00000011] black white :=
  ⟨rfl, (decodesFrames (by decide) (by decide) rfl).1⟩

end Resolution

end Cadence
