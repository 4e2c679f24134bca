import Mathlib.Algebra.Group.Nat.Defs
import Mathlib.Data.List.Nodup
import TapScript.Gateway.Device

/-! # Pictures of the screen

The simulated device shows a background with single pixels painted over it. Asked for one pixel, it
looks the place up; asked for a picture, it lays out the background row by row and puts each painted
pixel into its row. Both tell the same of every place on the screen, in whichever order the painted
pixels are gone through.

* `Device.HasDistinctPixels` says that no place is painted twice; by
  `Device.HasDistinctPixels.painted` it is so however the screen was painted.
* `Device.getElem?_foldl_stamp` says what a picture holds at the index of a place, and
  `Device.picture_perm` that the order does not matter.
* `Device.picture_agrees_with_pixels` is about the answers of the device. A picture that no memory
  can hold is the exception. -/

namespace TapScript

namespace Device

variable {d : Device} {p q : Point}

/-! ## Painting -/

/-- No place is painted twice. -/
def HasDistinctPixels (d : Device) : Prop := (d.pixels.map Prod.fst).Nodup

/-- The device with some pixels painted one after the other. -/
def painted (d : Device) (paints : List (Point × Color)) : Device :=
  paints.foldl (fun d e => d.paint e.1 e.2) d

/-- What is painted over is forgotten. -/
theorem HasDistinctPixels.paint (hd : d.HasDistinctPixels) (p : Point) (c : Color) :
    (d.paint p c).HasDistinctPixels := by
  have hrest : ((d.pixels.filter fun e => e.1 != p).map Prod.fst).Nodup :=
    List.Nodup.sublist (List.filter_sublist.map Prod.fst) hd
  refine List.nodup_cons.2 ⟨fun hmem => ?_, hrest⟩
  obtain ⟨e, he, hep⟩ := List.mem_map.1 hmem
  have hne := (List.mem_filter.1 he).2
  simp [hep] at hne

/-- However a screen is painted, no place is painted twice. -/
theorem HasDistinctPixels.painted (hd : d.HasDistinctPixels) (paints : List (Point × Color)) :
    (d.painted paints).HasDistinctPixels := by
  induction paints generalizing d with
  | nil => exact hd
  | cons e paints ih => exact ih (hd.paint e.1 e.2)

/-- The order of the painted pixels does not matter for what is looked up. -/
theorem lookup_perm {es es' : List (Point × Color)} (hes : (es.map Prod.fst).Nodup)
    (h : es.Perm es') (p : Point) : es.lookup p = es'.lookup p := by
  induction h with
  | nil => rfl
  | cons e _ ih =>
    rw [List.map_cons, List.nodup_cons] at hes
    rw [List.lookup_cons, List.lookup_cons, ih hes.2]
  | swap e e' es =>
    have hne : e'.1 ≠ e.1 := fun h => (List.nodup_cons.1 hes).1 (List.mem_cons.2 (.inl h))
    rw [List.lookup_cons, List.lookup_cons, List.lookup_cons, List.lookup_cons]
    by_cases h : p = e.1
    · rw [h, beq_self_eq_true, beq_false_of_ne (Ne.symm hne)]
    · rw [beq_false_of_ne h]
  | trans h _ ih ih' => exact (ih hes).trans (ih' ((h.map Prod.fst).nodup_iff.1 hes))

/-! ## Places on the screen -/

/-- The place lies on the screen. -/
def Shows (d : Device) (p : Point) : Prop := 0 ≤ p.x ∧ p.x < d.width ∧ 0 ≤ p.y ∧ p.y < d.height

instance (d : Device) (p : Point) : Decidable (d.Shows p) := inferInstanceAs (Decidable (_ ∧ _))

/-- Where a picture holds the pixel of a place. -/
def index (d : Device) (p : Point) : Nat := p.y.toNat * d.width + p.x.toNat

/-- The index of a place on the screen is one of the picture. -/
theorem index_lt (hp : d.Shows p) : d.index p < d.width * d.height := by
  obtain ⟨hx₀, hx, hy₀, hy⟩ := hp
  have hrow : (p.y.toNat + 1) * d.width ≤ d.height * d.width := Nat.mul_le_mul_right _ (by omega)
  rw [Nat.add_mul, Nat.one_mul] at hrow
  rw [index, Nat.mul_comm d.width]
  omega

/-- Different places on the screen have different indices: the row is the quotient, the column the
rest. -/
theorem eq_of_index_eq (hp : d.Shows p) (hq : d.Shows q) (h : d.index p = d.index q) : p = q := by
  obtain ⟨hpx, hpw, hpy, -⟩ := hp
  obtain ⟨hqx, hqw, hqy, -⟩ := hq
  have hrow : ∀ y x : Nat, x < d.width → (y * d.width + x) / d.width = y ∧
      (y * d.width + x) % d.width = x := by
    intro y x hx
    rw [Nat.mul_comm, Nat.mul_add_div (by omega), Nat.div_eq_of_lt hx, Nat.mul_add_mod,
      Nat.mod_eq_of_lt hx]
    exact ⟨rfl, rfl⟩
  have hp := hrow p.y.toNat p.x.toNat (by omega)
  have hq := hrow q.y.toNat q.x.toNat (by omega)
  rw [show p.y.toNat * d.width + p.x.toNat = q.y.toNat * d.width + q.x.toNat from h,
    hq.1, hq.2] at hp
  have hx : p.x = q.x := by omega
  have hy : p.y = q.y := by omega
  cases p
  cases q
  exact congrArg₂ Point.mk hx hy

/-! ## Stamping -/

/-- A stamp does not change the size of a picture. -/
@[simp] theorem size_stamp (d : Device) (picture : Array Color) (e : Point × Color) :
    (d.stamp picture e).size = picture.size := by
  rw [stamp]
  split <;> simp

/-- Nor do several stamps. -/
theorem size_foldl_stamp (d : Device) (es : List (Point × Color)) (picture : Array Color) :
    (es.foldl d.stamp picture).size = picture.size := by
  induction es generalizing picture with
  | nil => rfl
  | cons e es ih => rw [List.foldl_cons, ih, size_stamp]

/-- A painted pixel is put at the index of its place. -/
theorem getElem?_stamp_self (hp : d.Shows p) {picture : Array Color}
    (hsize : picture.size = d.width * d.height) (c : Color) :
    (d.stamp picture (p, c))[d.index p]? = some c := by
  have hstamp : d.stamp picture (p, c) = picture.setIfInBounds (d.index p) c := if_pos hp
  rw [hstamp]
  exact Array.getElem?_setIfInBounds_self_of_lt (hsize ▸ index_lt hp)

/-- All other places stay as they are. -/
theorem getElem?_stamp_of_ne (hp : d.Shows p) {e : Point × Color} (hne : e.1 ≠ p)
    (picture : Array Color) : (d.stamp picture e)[d.index p]? = picture[d.index p]? := by
  rw [stamp]
  split
  · rename_i he
    exact Array.getElem?_setIfInBounds_ne fun h => hne (eq_of_index_eq he hp h)
  · rfl

/-- Behind all painted pixels, a place has the color with which it is painted, or else the one it
had before. The induction goes through the painted pixels; the one of the place itself is not
painted over by a later one. -/
theorem getElem?_foldl_stamp (hp : d.Shows p) {es : List (Point × Color)}
    (hes : (es.map Prod.fst).Nodup) {picture : Array Color}
    (hsize : picture.size = d.width * d.height) :
    (es.foldl d.stamp picture)[d.index p]? = (es.lookup p).or picture[d.index p]? := by
  induction es generalizing picture with
  | nil => rfl
  | cons e es ih =>
    obtain ⟨q, c⟩ := e
    rw [List.map_cons, List.nodup_cons] at hes
    rw [List.foldl_cons, ih hes.2 ((size_stamp d picture (q, c)).trans hsize), List.lookup_cons]
    by_cases hqp : q = p
    · subst hqp
      have hnone : es.lookup q = none := by
        rw [List.lookup_eq_none_iff]
        intro e he
        exact bne_iff_ne.2 fun h => hes.1 (List.mem_map.2 ⟨e, he, h.symm⟩)
      rw [hnone, getElem?_stamp_self hp hsize, beq_self_eq_true]
      rfl
    · rw [getElem?_stamp_of_ne hp hqp, beq_false_of_ne (Ne.symm hqp)]

/-! ## Pictures -/

/-- The picture that the device takes of its screen. -/
def picture (d : Device) : Screenshot :=
  ⟨d.width, d.height, d.pixels.foldl d.stamp (Array.replicate (d.width * d.height) d.background)⟩

/-- A picture has a pixel for each place on the screen. -/
theorem size_picture (d : Device) : d.picture.pixels.size = d.width * d.height :=
  (size_foldl_stamp d _ _).trans Array.size_replicate

/-- At the index of a place, the picture has its color. -/
theorem getElem?_picture (hd : d.HasDistinctPixels) (hp : d.Shows p) :
    d.picture.pixels[d.index p]? = some (d.colorAt p) := by
  have hblank : (Array.replicate (d.width * d.height) d.background)[d.index p]? =
      some d.background := by
    rw [Array.getElem?_replicate, if_pos (index_lt hp)]
  rw [picture, getElem?_foldl_stamp hp hd Array.size_replicate, hblank, colorAt]
  cases d.pixels.lookup p <;> rfl

/-- The picture tells the color of the places on the screen, and of no others. -/
theorem pixel?_picture (hd : d.HasDistinctPixels) (p : Point) :
    d.picture.pixel? p = if d.Shows p then some (d.colorAt p) else none := by
  by_cases hp : d.Shows p
  · rw [if_pos hp, ← getElem?_picture hd hp]
    exact if_pos hp
  · rw [if_neg hp]
    exact if_neg hp

/-- Every index of a picture belongs to a place on the screen. -/
theorem exists_index_eq {i : Nat} (hi : i < d.width * d.height) :
    ∃ p, d.Shows p ∧ d.index p = i := by
  have hwidth : 0 < d.width := Nat.pos_of_ne_zero fun h => by simp [h] at hi
  have hcolumn : i % d.width < d.width := Nat.mod_lt _ hwidth
  have hrow : i / d.width < d.height := Nat.div_lt_of_lt_mul hi
  refine ⟨⟨(i % d.width : Nat), (i / d.width : Nat)⟩,
    ⟨Int.natCast_nonneg _, Int.ofNat_lt.2 hcolumn, Int.natCast_nonneg _, Int.ofNat_lt.2 hrow⟩, ?_⟩
  rw [index, Int.toNat_natCast, Int.toNat_natCast, Nat.mul_comm, Nat.div_add_mod]

/-- The order of the painted pixels does not matter for the picture. -/
theorem picture_perm (hd : d.HasDistinctPixels) {order : List (Point × Color)}
    (h : d.pixels.Perm order) : ({ d with pixels := order } : Device).picture = d.picture := by
  let d' : Device := { d with pixels := order }
  have hd' : d'.HasDistinctPixels := (h.map Prod.fst).nodup_iff.1 hd
  have hpixels : d'.picture.pixels = d.picture.pixels := by
    refine Array.ext_getElem? fun i => ?_
    by_cases hi : i < d.width * d.height
    · obtain ⟨p, hp, rfl⟩ := exists_index_eq hi
      have hcolor : d'.colorAt p = d.colorAt p := by rw [colorAt, colorAt, lookup_perm hd h]
      exact (getElem?_picture hd' hp).trans (hcolor ▸ (getElem?_picture hd hp).symm)
    · rw [Array.getElem?_eq_none (by rw [size_picture]; exact Nat.le_of_not_lt hi),
        Array.getElem?_eq_none (by rw [size_picture]; exact Nat.le_of_not_lt hi)]
  exact congrArg (Screenshot.mk d.width d.height) hpixels

/-- What is said of a picture that is too large, by the bytes of its pixels alone. -/
def oversizeMessage (size : Nat) : String :=
  if 2 ^ 63 ≤ size then "capacity overflow"
  else "called `Result::unwrap()` on an `Err` value: LayoutError"

/-- Nothing but the size keeps a device that is ready from taking its picture. -/
theorem answer_screenshot_of_le (hready : d.ready = true)
    (hfits : 4 * (d.width * d.height) + 24 ≤ 2 ^ 63) (stopped : Bool) :
    gateway.answer .screenshot stopped d = .reply (.ok d.picture) d := by
  have hsmall : d.tooLarge? = none := by
    have hpixels : ¬0x8000000000000000 ≤ d.pictureSize := by
      rw [pictureSize]
      omega
    have hbuffer : ¬0x8000000000000000 < d.pictureSize + 24 := Nat.not_lt.2 hfits
    rw [tooLarge?, if_neg hpixels, if_neg hbuffer]
  have hcapture : d.capture = .ok (.ok d.picture) := by
    simp only [capture, screenshot, hready, hsmall, if_true, picture]
  exact congrArg (Turn.mk · .none d) hcapture

/-- A device that is ready crashes at a picture that is too large. -/
theorem answer_screenshot_of_lt (hready : d.ready = true)
    (hlarge : 2 ^ 63 < 4 * (d.width * d.height) + 24) (stopped : Bool) :
    gateway.answer .screenshot stopped d =
      ⟨.error ⟨some (oversizeMessage (4 * (d.width * d.height)))⟩, .none, d⟩ := by
  have htoo : d.tooLarge? = some (oversizeMessage (4 * (d.width * d.height))) := by
    have hbuffer : 0x8000000000000000 < d.pictureSize + 24 := hlarge
    rw [tooLarge?, if_pos hbuffer]
    exact (apply_ite some _ _ _).symm
  have hcapture : d.capture = .error ⟨some (oversizeMessage (4 * (d.width * d.height)))⟩ := by
    simp only [capture, hready, htoo, if_true]
  exact congrArg (Turn.mk · .none d) hcapture

/-- **A picture shows the pixels.** Asked for a picture and for single pixels, a device that is not
ready refuses both. One that is ready gives a picture with as many pixels as the screen has places,
and at every place on the screen the picture shows the color that the pixel there is said to have;
outside the screen it shows nothing. In which order the painted pixels are gone through does not
matter. Only a picture whose pixels, four bytes each, leave less than twenty-four of `2 ^ 63` bytes
cannot be taken. -/
theorem picture_agrees_with_pixels {d : Device} (hd : d.HasDistinctPixels) (stopped : Bool) :
    (d.ready = false → gateway.answer .screenshot stopped d = .reply (.error .notReady) d ∧
      ∀ p, gateway.answer (.pixel p) stopped d = .reply (.error .notReady) d) ∧
    (d.ready = true → 2 ^ 63 < 4 * (d.width * d.height) + 24 →
      gateway.answer .screenshot stopped d =
        ⟨.error ⟨some (oversizeMessage (4 * (d.width * d.height)))⟩, .none, d⟩) ∧
    (d.ready = true → 4 * (d.width * d.height) + 24 ≤ 2 ^ 63 → ∃ image : Screenshot,
      (∀ order, d.pixels.Perm order →
        (gateway.answer .screenshot stopped { d with pixels := order }).outcome =
          .ok (.ok image)) ∧
      image.width = d.width ∧ image.height = d.height ∧
      image.pixels.size = d.width * d.height ∧
      ∀ p, ∃ c, gateway.answer (.pixel p) stopped d = .reply (.ok c) d ∧
        image.pixel? p = if d.Shows p then some c else none) := by
  have hpixel : ∀ p, gateway.answer (.pixel p) stopped d = .reply (d.pixel p) d := fun _ => rfl
  refine ⟨fun hready => ⟨?_, fun p => ?_⟩,
    fun hready hlarge => answer_screenshot_of_lt hready hlarge stopped, fun hready hfits =>
    ⟨d.picture, fun order horder => ?_, rfl, rfl, size_picture d, fun p =>
      ⟨d.colorAt p, ?_, pixel?_picture hd p⟩⟩⟩
  · have hcapture : d.capture = .ok (.error .notReady) := by
      simp only [capture, screenshot, hready, Bool.false_eq_true, if_false]
    exact congrArg (Turn.mk · .none d) hcapture
  · rw [hpixel, pixel, hready, if_neg Bool.false_ne_true]
  · have hanswer :=
      answer_screenshot_of_le (d := { d with pixels := order }) hready hfits stopped
    rw [hanswer, picture_perm hd horder]
    rfl
  · rw [hpixel, pixel, hready, if_pos rfl]

/-- A small screen with a pixel painted twice and another one painted outside it. -/
theorem picture_agrees_with_pixels_painted : ∃ d : Device, d.width = 3 ∧ d.height = 2 ∧
    d.HasDistinctPixels ∧ d.ready = true ∧ 4 * (d.width * d.height) + 24 ≤ 2 ^ 63 ∧
    ∃ image : Screenshot,
      (gateway.answer .screenshot false d).outcome = .ok (.ok image) ∧ image.pixels.size = 6 ∧
      image.pixel? ⟨1, 1⟩ = some ⟨6⟩ ∧ image.pixel? ⟨3, 0⟩ = none := by
  let blank : Device := { width := 3, height := 2 }
  let d := blank.painted [(⟨1, 1⟩, ⟨5⟩), (⟨3, 0⟩, ⟨7⟩), (⟨1, 1⟩, ⟨6⟩)]
  have hblank : blank.HasDistinctPixels := List.nodup_nil
  have hd : d.HasDistinctPixels := hblank.painted _
  obtain ⟨image, himage, -, -, hsize, hpixels⟩ :=
    (picture_agrees_with_pixels hd false).2.2 rfl (by decide)
  refine ⟨d, rfl, rfl, hd, rfl, by decide, image, himage d.pixels (.refl _), hsize, ?_, ?_⟩
  · obtain ⟨c, hc, hpixel⟩ := hpixels ⟨1, 1⟩
    cases hc
    exact hpixel
  · obtain ⟨c, -, hpixel⟩ := hpixels ⟨3, 0⟩
    exact hpixel

/-- A screen of `2 ^ 32 - 1` times `2 ^ 32 - 1` places is ready, and there is no picture of it. -/
theorem no_picture_of_largest_screen : ∃ d : Device, d.width = 2 ^ 32 - 1 ∧ d.height = 2 ^ 32 - 1 ∧
    d.HasDistinctPixels ∧ d.ready = true ∧
    ∀ image : Screenshot, (gateway.answer .screenshot false d).outcome ≠ .ok (.ok image) := by
  refine ⟨{ width := 2 ^ 32 - 1, height := 2 ^ 32 - 1 }, rfl, rfl, List.nodup_nil, rfl,
    fun image h => ?_⟩
  rw [answer_screenshot_of_lt rfl (by decide) false] at h
  cases h

end Device

end TapScript
