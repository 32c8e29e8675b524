import FactoryTest.Lib.Sweep
import Mathlib.Algebra.Group.Int.Defs
import Mathlib.Algebra.Group.Nat.Defs

/-!
# The preview of the camera

`NativePreview` of `src/platform/camera_service.cpp` makes a frame of 226 by 170 pixels of each
frame of 640 by 480 that the camera brings in three planes: `prepare_configuration` and
`copy_framebuffer`.

**Accesses.** A read past the end of the mapped buffer and a write past the end of the preview have
no value here. What the loops read and write is kept beside the frame (`Access`), so that it can be
said where each of them went.

**Theorem (`copy_framebuffer_spec`).** If the rows of the camera are as long as they are wide, no
access of any frame leaves its plane or the preview, and a frame that is converted writes every
pixel of the preview once.
-/

namespace FactoryTest.Camera

/-! ## The code -/

/-- The conversion to `std::size_t`, which has 64 bits. -/
def size_t (value : ℤ) : ℕ := (value % 2 ^ 64).toNat

def K_CAPTURE_WIDTH : UInt32 := 640
def K_CAPTURE_HEIGHT : UInt32 := 480
def K_PREVIEW_WIDTH : ℕ := 226
def K_PREVIEW_HEIGHT : ℕ := 170

def rgb565 (r g b : UInt8) : UInt16 :=
  ((r.toUInt16 &&& 0xF8) <<< 8) ||| ((g.toUInt16 &&& 0xFC) <<< 3) ||| (b.toUInt16 >>> 3)

def clamp_channel (value : ℤ) : UInt8 := UInt8.ofNat (max 0 (min value 255)).toNat

/-- The color of a pixel, as the loop of `copy_framebuffer` computes it. -/
def color (y_value u_value v_value : UInt8) : UInt16 :=
  let c : ℤ := max 0 (y_value.toNat - 16)
  let d : ℤ := u_value.toNat - 128
  let e : ℤ := v_value.toNat - 128
  let r := clamp_channel ((298 * c + 409 * e + 128) >>> (8 : ℕ))
  let g := clamp_channel ((298 * c - 100 * d - 208 * e + 128) >>> (8 : ℕ))
  let b := clamp_channel ((298 * c + 516 * d + 128) >>> (8 : ℕ))
  rgb565 r g b

/-- `CameraConfiguration::Status`. -/
inductive Status
  | Valid
  | Adjusted
  | Invalid
  deriving DecidableEq

variable {PixelFormat : Type} [DecidableEq PixelFormat]

/-- `StreamConfiguration`, without what only the log has of it. -/
structure StreamConfiguration (PixelFormat : Type) where
  pixelFormat : PixelFormat
  width : UInt32
  height : UInt32
  stride : UInt32
  bufferCount : UInt32

/-- What libcamera answers: a configuration with a stream or none, the configuration that it makes
of the one it is asked for, and the result of `configure`. -/
structure Libcamera (PixelFormat : Type) where
  generateConfiguration : Option (StreamConfiguration PixelFormat)
  validate : StreamConfiguration PixelFormat → Status × StreamConfiguration PixelFormat
  configure : StreamConfiguration PixelFormat → ℤ

/-- `NativePreview`, as far as the conversion uses it. -/
structure NativePreview (PixelFormat : Type) where
  latest_frame_ : List UInt16
  conversion_frame_ : List UInt16
  source_format_ : PixelFormat
  source_width_ : ℤ
  source_height_ : ℤ
  source_stride_ : ℤ
  frame_ready_ : Bool
  unsupported_format_logged_ : Bool

/-- The configuration that `prepare_configuration` asks for. -/
def requested_configuration (YUV420 : PixelFormat) (requested_buffer_count : UInt32)
    (cfg : StreamConfiguration PixelFormat) : StreamConfiguration PixelFormat where
  pixelFormat := YUV420
  width := K_CAPTURE_WIDTH
  height := K_CAPTURE_HEIGHT
  stride := 0
  bufferCount := if 0 < requested_buffer_count then requested_buffer_count else cfg.bufferCount

/-- `prepare_configuration`: the message, or the validated number of buffers and the state. -/
def prepare_configuration (YUV420 : PixelFormat) (camera : Libcamera PixelFormat)
    (requested_buffer_count : UInt32) (state : NativePreview PixelFormat) :
    Except String (UInt32 × NativePreview PixelFormat) :=
  match camera.generateConfiguration with
  | none => .error "Failed to create libcamera viewfinder configuration."
  | some cfg =>
    let (validation, cfg) :=
      camera.validate (requested_configuration YUV420 requested_buffer_count cfg)
    if validation = .Invalid then
      .error "Libcamera rejected the viewfinder configuration."
    else if ¬ (cfg.width = K_CAPTURE_WIDTH ∧ cfg.height = K_CAPTURE_HEIGHT) ∨
        cfg.pixelFormat ≠ YUV420 then
      .error "Libcamera cannot provide the required 640x480 YUV420 stream."
    else if camera.configure cfg < 0 then
      .error "Failed to configure libcamera viewfinder stream."
    else
      .ok (cfg.bufferCount, { state with
        source_width_ := cfg.width.toInt32.toInt
        source_height_ := cfg.height.toInt32.toInt
        source_stride_ := cfg.stride.toInt32.toInt
        source_format_ := cfg.pixelFormat })

namespace NativePreview

/-- The frames that `start` makes once the stream is configured. -/
def assign_frames (state : NativePreview PixelFormat) : NativePreview PixelFormat :=
  { state with
    latest_frame_ := List.replicate (K_PREVIEW_WIDTH * K_PREVIEW_HEIGHT) 0
    conversion_frame_ := List.replicate (K_PREVIEW_WIDTH * K_PREVIEW_HEIGHT) 0 }

def y_plane_size (state : NativePreview PixelFormat) : ℕ :=
  size_t (size_t state.source_stride_ * size_t state.source_height_)

def uv_stride (state : NativePreview PixelFormat) : ℕ := size_t state.source_stride_ / 2

def uv_plane_size (state : NativePreview PixelFormat) : ℕ :=
  size_t (state.uv_stride * size_t (state.source_height_.tdiv 2))

end NativePreview

/-- What the conversion of a pixel reads and writes: the row of the camera, the bytes counted from
the beginning of the mapped buffer, and the pixel of the preview. -/
structure Access where
  row : ℕ
  y_index : ℕ
  u_index : ℕ
  v_index : ℕ
  preview_index : ℕ

/-- The body of the loops: the frame and the accesses after a pixel. -/
def convert_pixel (state : NativePreview PixelFormat) (src : List UInt8) (y : ℕ)
    (done : List UInt16 × List Access) (x : ℕ) : Option (List UInt16 × List Access) := do
  -- the camera is mounted upside down
  let sy := state.source_height_ - 1 - (y * state.source_height_).tdiv K_PREVIEW_HEIGHT
  let sx := state.source_width_ - 1 - (x * state.source_width_).tdiv K_PREVIEW_WIDTH
  let y_index := size_t (size_t sy * size_t state.source_stride_ + sx)
  let uv_index := size_t (size_t (sy.tdiv 2) * state.uv_stride + sx.tdiv 2)
  let u_index := state.y_plane_size + uv_index
  let v_index := state.y_plane_size + state.uv_plane_size + uv_index
  let y_value ← src[y_index]?
  let u_value ← src[u_index]?
  let v_value ← src[v_index]?
  let preview_index := size_t (size_t y * K_PREVIEW_WIDTH + x)
  let frame ← store done.1 preview_index (color y_value u_value v_value)
  some (frame, done.2 ++ [⟨size_t sy, y_index, u_index, v_index, preview_index⟩])

/-- The loop over the pixels of a row. -/
def convert_row (state : NativePreview PixelFormat) (src : List UInt8)
    (done : List UInt16 × List Access) (y : ℕ) : Option (List UInt16 × List Access) :=
  (List.range K_PREVIEW_WIDTH).foldlM (convert_pixel state src y) done

/-- The loop over the rows. -/
def convert_frame (state : NativePreview PixelFormat) (src : List UInt8) (frame : List UInt16) :
    Option (List UInt16 × List Access) :=
  (List.range K_PREVIEW_HEIGHT).foldlM (convert_row state src) (frame, [])

/-- A frame that the camera brings: its buffer, if it is mapped, and how `sync_buffer` answers
before and after the loops. -/
structure Frame where
  mapped : Option (List UInt8)
  sync_started : Bool
  sync_ended : Bool

/-- `copy_framebuffer`: the state after it and the accesses. -/
def copy_framebuffer (YUV420 : PixelFormat) (state : NativePreview PixelFormat) (frame : Frame) :
    Option (NativePreview PixelFormat × List Access) :=
  match frame.mapped with
  | none => some (state, [])
  | some src =>
    if state.source_width_ ≤ 0 ∨ state.source_height_ ≤ 0 ∨ state.source_stride_ ≤ 0 then
      some (state, [])
    else if state.source_format_ ≠ YUV420 ∨
        src.length < size_t (state.y_plane_size + size_t (state.uv_plane_size * 2)) then
      some ({ state with unsupported_format_logged_ := true }, [])
    else if !frame.sync_started then some (state, [])
    else do
      let (conversion_frame, accesses) ← convert_frame state src state.conversion_frame_
      if frame.sync_ended then
        some ({ state with
          latest_frame_ := conversion_frame
          conversion_frame_ := state.latest_frame_
          frame_ready_ := true }, accesses)
      else some ({ state with conversion_frame_ := conversion_frame }, accesses)

/-! ## Places -/

/-- The row of the camera that a row of the preview shows. -/
def sourceRow (y : ℕ) : ℕ := 479 - y * 480 / 170

/-- The column of the camera that a column of the preview shows. -/
def sourceColumn (x : ℕ) : ℕ := 639 - x * 640 / 226

/-- The accesses for a pixel of the preview. -/
def access (stride pixel : ℕ) : Access :=
  let row := sourceRow (pixel / 226)
  let column := sourceColumn (pixel % 226)
  let uv_index := row / 2 * (stride / 2) + column / 2
  { row := row
    y_index := row * stride + column
    u_index := stride * 480 + uv_index
    v_index := stride * 480 + stride / 2 * 240 + uv_index
    preview_index := pixel }

/-- No access leaves the row, the plane, the mapped buffer or the preview. -/
structure Access.InBounds (stride length : ℕ) (access : Access) : Prop where
  row : access.row < 480
  y_row : access.row * stride ≤ access.y_index ∧ access.y_index < access.row * stride + 640
  y_plane : access.y_index < stride * 480
  u_plane : stride * 480 ≤ access.u_index ∧ access.u_index < stride * 480 + stride / 2 * 240
  v_plane : stride * 480 + stride / 2 * 240 ≤ access.v_index ∧
    access.v_index < stride * 480 + stride / 2 * 240 * 2
  mapped : access.y_index < length ∧ access.u_index < length ∧ access.v_index < length
  preview : access.preview_index < 226 * 170

theorem access_inBounds {stride length pixel : ℕ} (hstride : 640 ≤ stride)
    (hlength : stride * 480 + stride / 2 * 240 * 2 ≤ length) (hpixel : pixel < 226 * 170) :
    (access stride pixel).InBounds stride length := by
  have hrow : sourceRow (pixel / 226) < 480 := by
    unfold sourceRow
    omega
  have hcolumn : sourceColumn (pixel % 226) < 640 := by
    unfold sourceColumn
    omega
  generalize hr : sourceRow (pixel / 226) = row at hrow
  generalize hc : sourceColumn (pixel % 226) = column at hcolumn
  have hy : row * stride + column < (row + 1) * stride := by
    rw [Nat.succ_mul]
    omega
  have hy_plane : (row + 1) * stride ≤ stride * 480 := by
    rw [Nat.mul_comm stride]
    exact Nat.mul_le_mul_right _ hrow
  -- half of a row has room for half of the pixels, also if the stride is odd
  have huv : row / 2 * (stride / 2) + column / 2 < (row / 2 + 1) * (stride / 2) := by
    rw [Nat.succ_mul]
    omega
  have huv_plane : (row / 2 + 1) * (stride / 2) ≤ stride / 2 * 240 := by
    rw [Nat.mul_comm (stride / 2)]
    exact Nat.mul_le_mul_right _ (by omega)
  unfold access
  rw [hr, hc]
  constructor <;> dsimp only <;> omega

/-! ## The loops -/

theorem size_t_natCast {value : ℕ} (h : value < 2 ^ 64) : size_t value = value := by
  unfold size_t
  omega

/-- An index that does not overflow. -/
theorem size_t_index {row width column : ℕ} (hrow : row < 2 ^ 64)
    (h : row * width + column < 2 ^ 64) :
    size_t (size_t row * width + column) = row * width + column := by
  rw [size_t_natCast hrow]
  exact_mod_cast size_t_natCast h

/-- An `int` of an `unsigned int`, if it is positive. -/
theorem toInt_toInt32 {value : UInt32} (h : 0 < value.toInt32.toInt) :
    value.toInt32.toInt = value.toNat ∧ value.toNat < 2 ^ 31 := by
  have hlt := value.toNat_lt
  have hcond : value.toInt32.toInt = if 2 * value.toNat < 2 ^ 32 then (value.toNat : ℤ)
      else value.toNat - ((2 ^ 32 : ℕ) : ℤ) := BitVec.toInt_eq_toNat_cond value.toBitVec
  split_ifs at hcond <;> omega

section

omit [DecidableEq PixelFormat]

variable {state : NativePreview PixelFormat} {stride : ℕ}

/-- The sizes of the planes do not overflow. -/
theorem plane_sizes (hheight : state.source_height_ = 480) (hstride : state.source_stride_ = stride)
    (hint : stride < 2 ^ 31) :
    state.y_plane_size = stride * 480 ∧ state.uv_stride = stride / 2 ∧
      state.uv_plane_size = stride / 2 * 240 := by
  have hstride_t : size_t (stride : ℤ) = stride := size_t_natCast (by omega)
  have hheight_t : size_t 480 = 480 := by decide
  have hhalf_t : size_t ((480 : ℤ).tdiv 2) = 240 := by decide
  unfold NativePreview.y_plane_size NativePreview.uv_plane_size NativePreview.uv_stride
  rw [hheight, hstride, hstride_t, hheight_t, hhalf_t]
  refine ⟨?_, rfl, ?_⟩
  · exact_mod_cast size_t_natCast (show stride * 480 < 2 ^ 64 by omega)
  · exact_mod_cast size_t_natCast (show stride / 2 * 240 < 2 ^ 64 by omega)

theorem sourceRow_eq {y : ℕ} (hy : y < 170) :
    (480 : ℤ) - 1 - (y * 480 : ℤ).tdiv K_PREVIEW_HEIGHT = sourceRow y := by
  have hcast : (y * 480 : ℤ) = (y * 480 : ℕ) := by omega
  have hdiv : (y * 480 : ℤ).tdiv K_PREVIEW_HEIGHT = (y * 480 / 170 : ℕ) := by
    rw [hcast, K_PREVIEW_HEIGHT, ← Int.ofNat_tdiv]
  rw [hdiv, sourceRow]
  omega

theorem sourceColumn_eq {x : ℕ} (hx : x < 226) :
    (640 : ℤ) - 1 - (x * 640 : ℤ).tdiv K_PREVIEW_WIDTH = sourceColumn x := by
  have hcast : (x * 640 : ℤ) = (x * 640 : ℕ) := by omega
  have hdiv : (x * 640 : ℤ).tdiv K_PREVIEW_WIDTH = (x * 640 / 226 : ℕ) := by
    rw [hcast, K_PREVIEW_WIDTH, ← Int.ofNat_tdiv]
  rw [hdiv, sourceColumn]
  omega

/-- The color of a pixel of the preview. -/
def preview (stride : ℕ) (src : List UInt8) (pixel : ℕ) : UInt16 :=
  let place := access stride pixel
  color (src.getD place.y_index 0) (src.getD place.u_index 0) (src.getD place.v_index 0)

/-- The frame and the accesses after so many pixels. -/
def converted (stride : ℕ) (src : List UInt8) (frame : List UInt16) (pixels : ℕ) :
    List UInt16 × List Access :=
  ((List.range pixels).map (preview stride src) ++ frame.drop pixels,
    (List.range pixels).map (access stride))

theorem getElem?_getD {src : List UInt8} {index : ℕ} (h : index < src.length) :
    src[index]? = some (src.getD index 0) := by
  rw [List.getD_eq_getElem?_getD, List.getElem?_eq_getElem h]
  rfl

theorem store_converted {src : List UInt8} {frame : List UInt16} {pixel : ℕ}
    (hpixel : pixel < frame.length) :
    store (converted stride src frame pixel).1 pixel (preview stride src pixel) =
      some (converted stride src frame (pixel + 1)).1 := by
  have hlength : pixel = ((List.range pixel).map (preview stride src)).length := by
    rw [List.length_map, List.length_range]
  have hstore := store_append ((List.range pixel).map (preview stride src)) frame[pixel]
    (preview stride src pixel) (frame.drop (pixel + 1))
  rw [← hlength, ← List.drop_eq_getElem_cons hpixel] at hstore
  unfold converted
  dsimp only
  rw [hstore, List.range_succ, List.map_append, List.append_assoc]
  rfl

/-- A pixel, once the pixels before it are converted. -/
theorem convert_pixel_eq {src : List UInt8} {frame : List UInt16} {y x : ℕ}
    (hwidth : state.source_width_ = 640) (hheight : state.source_height_ = 480)
    (hstride : state.source_stride_ = stride) (hrow : 640 ≤ stride) (hint : stride < 2 ^ 31)
    (hlength : stride * 480 + stride / 2 * 240 * 2 ≤ src.length)
    (hframe : frame.length = 226 * 170) (hy : y < 170) (hx : x < 226) :
    convert_pixel state src y (converted stride src frame (y * 226 + x)) x =
      some (converted stride src frame (y * 226 + x + 1)) := by
  obtain ⟨hy_plane, huv_stride, huv_plane⟩ := plane_sizes hheight hstride hint
  have hpixel_lt : y * 226 + x < 226 * 170 := by omega
  obtain ⟨hrow_lt, -, hy_index, ⟨-, hu_index⟩, -, ⟨hy_mapped, hu_mapped, hv_mapped⟩, -⟩ :=
    access_inBounds hrow hlength hpixel_lt
  have hplace : access stride (y * 226 + x) =
      { row := sourceRow y
        y_index := sourceRow y * stride + sourceColumn x
        u_index := stride * 480 + (sourceRow y / 2 * (stride / 2) + sourceColumn x / 2)
        v_index := stride * 480 + stride / 2 * 240 +
          (sourceRow y / 2 * (stride / 2) + sourceColumn x / 2)
        preview_index := y * 226 + x } := by
    have hpixel : (y * 226 + x) / 226 = y ∧ (y * 226 + x) % 226 = x := by omega
    rw [access, hpixel.1, hpixel.2]
  have hstore : store (converted stride src frame (y * 226 + x)).1 (y * 226 + x)
      (preview stride src (y * 226 + x)) = some (converted stride src frame (y * 226 + x + 1)).1 :=
    store_converted (hpixel_lt.trans_eq hframe.symm)
  unfold preview at hstore
  rw [hplace] at hstore
  rw [hplace] at hrow_lt hy_index hu_index hy_mapped hu_mapped hv_mapped
  dsimp only at hrow_lt hy_index hu_index hy_mapped hu_mapped hv_mapped
  have hhalf_row : (sourceRow y : ℤ).tdiv 2 = (sourceRow y / 2 : ℕ) := rfl
  have hhalf_column : (sourceColumn x : ℤ).tdiv 2 = (sourceColumn x / 2 : ℕ) := rfl
  have hstride_t : size_t (stride : ℤ) = stride := size_t_natCast (by omega)
  unfold convert_pixel
  dsimp only
  rw [hheight, hwidth, hstride, hy_plane, huv_stride, huv_plane, sourceRow_eq hy,
    sourceColumn_eq hx, hhalf_row, hhalf_column, hstride_t,
    size_t_index (by omega) (by omega), size_t_index (by omega) (by omega),
    size_t_index (by omega) (by unfold K_PREVIEW_WIDTH; omega), size_t_natCast (by omega),
    getElem?_getD hy_mapped, getElem?_getD hu_mapped, getElem?_getD hv_mapped]
  simp only [Option.bind_eq_bind, Option.bind_some]
  rw [show y * K_PREVIEW_WIDTH + x = y * 226 + x from rfl, hstore, Option.bind_some, ← hplace]
  simp [converted, List.range_succ]

theorem convert_frame_eq {src : List UInt8} {frame : List UInt16}
    (hwidth : state.source_width_ = 640) (hheight : state.source_height_ = 480)
    (hstride : state.source_stride_ = stride) (hrow : 640 ≤ stride) (hint : stride < 2 ^ 31)
    (hlength : stride * 480 + stride / 2 * 240 * 2 ≤ src.length)
    (hframe : frame.length = 226 * 170) :
    convert_frame state src frame = some (converted stride src frame (226 * 170)) := by
  have hrows : ∀ y < 170, convert_row state src (converted stride src frame (y * 226)) y =
      some (converted stride src frame ((y + 1) * 226)) := by
    intro y hy
    have hpixels := foldlM_range_eq (fun x => converted stride src frame (y * 226 + x))
      (fun x hx => convert_pixel_eq hwidth hheight hstride hrow hint hlength hframe hy hx)
    rw [Nat.succ_mul]
    exact hpixels
  have hloop := foldlM_range_eq (fun y => converted stride src frame (y * 226)) hrows
  have hstart : converted stride src frame (0 * 226) = (frame, []) := by
    simp [converted]
  rw [hstart] at hloop
  exact hloop

end

/-- The state is configured for rows of so many bytes, and both frames have the size of the
preview. -/
structure NativePreview.Ready (YUV420 : PixelFormat) (stride : UInt32)
    (state : NativePreview PixelFormat) : Prop where
  source_format : state.source_format_ = YUV420
  source_width : state.source_width_ = 640
  source_height : state.source_height_ = 480
  source_stride : state.source_stride_ = stride.toInt32.toInt
  latest_frame : state.latest_frame_.length = 226 * 170
  conversion_frame : state.conversion_frame_.length = 226 * 170

section

variable {YUV420 : PixelFormat} {stride : UInt32} {state : NativePreview PixelFormat}

/-- The frame is converted: there is a buffer, its planes are mapped, and it can be read. -/
def Frame.Converted (stride : UInt32) (frame : Frame) : Prop :=
  ∃ src, frame.mapped = some src ∧ 0 < stride.toInt32.toInt ∧
    stride.toNat * 480 + stride.toNat / 2 * 240 * 2 ≤ src.length ∧ frame.sync_started = true

/-- What the accesses of a frame are: none, or those of a conversion. -/
structure Frame.Accessed (stride : UInt32) (frame : Frame) (accesses : List Access) : Prop where
  /-- Each access is in its plane and in the preview. -/
  inBounds : ∀ access ∈ accesses, ∃ src, frame.mapped = some src ∧
    access.InBounds stride.toNat src.length
  /-- Each pixel is written once, and in their order. -/
  once : frame.Converted stride → accesses.map (·.preview_index) = List.range (226 * 170)
  none : ¬ frame.Converted stride → accesses = []

theorem Frame.accessed_nil {frame : Frame} (h : ¬ frame.Converted stride) :
    frame.Accessed stride [] :=
  ⟨fun _ hmem => absurd hmem List.not_mem_nil, fun hconverted => absurd hconverted h, fun _ => rfl⟩

omit [DecidableEq PixelFormat] in
/-- The size that the code compares with the length of the buffer. -/
theorem layout_size {stride : ℕ} (hheight : state.source_height_ = 480)
    (hstride : state.source_stride_ = stride) (hint : stride < 2 ^ 31) :
    size_t (state.y_plane_size + size_t (state.uv_plane_size * 2)) =
      stride * 480 + stride / 2 * 240 * 2 := by
  obtain ⟨hy_plane, -, huv_plane⟩ := plane_sizes hheight hstride hint
  have huv : size_t ((stride / 2 * 240 : ℕ) * 2) = stride / 2 * 240 * 2 := by
    exact_mod_cast size_t_natCast (show stride / 2 * 240 * 2 < 2 ^ 64 by omega)
  rw [hy_plane, huv_plane, huv]
  exact_mod_cast size_t_natCast (show stride * 480 + stride / 2 * 240 * 2 < 2 ^ 64 by omega)

theorem mem_accesses {stride pixels : ℕ} {src : List UInt8} {frame : List UInt16}
    {place : Access} (h : place ∈ (converted stride src frame pixels).2) :
    ∃ pixel < pixels, access stride pixel = place := by
  obtain ⟨pixel, hpixel, hplace⟩ := List.mem_map.1 h
  exact ⟨pixel, List.mem_range.1 hpixel, hplace⟩

theorem map_preview_index (stride pixels : ℕ) (src : List UInt8) (frame : List UInt16) :
    (converted stride src frame pixels).2.map (·.preview_index) = List.range pixels := by
  unfold converted
  rw [List.map_map]
  exact List.map_id _

/-- A frame is converted or it is left, and the state is ready for the next one. -/
theorem copy_framebuffer_eq (hready : state.Ready YUV420 stride) (hrow : 640 ≤ stride)
    (frame : Frame) :
    ∃ state' accesses, copy_framebuffer YUV420 state frame = some (state', accesses) ∧
      state'.Ready YUV420 stride ∧ frame.Accessed stride accesses := by
  obtain ⟨hformat, hwidth, hheight, hstride, hlatest, hconversion⟩ := hready
  have hready : state.Ready YUV420 stride :=
    ⟨hformat, hwidth, hheight, hstride, hlatest, hconversion⟩
  unfold copy_framebuffer
  cases hmapped : frame.mapped with
  | none =>
    refine ⟨state, [], rfl, hready, Frame.accessed_nil ?_⟩
    rintro ⟨src, hsrc, -⟩
    exact nomatch hmapped.symm.trans hsrc
  | some src =>
    dsimp only
    by_cases hpos : 0 < stride.toInt32.toInt
    swap
    · -- the stride is not one of an int
      rw [if_pos (by omega)]
      exact ⟨state, [], rfl, hready, Frame.accessed_nil fun ⟨_, _, h, _⟩ => hpos h⟩
    obtain ⟨hint, hlt⟩ := toInt_toInt32 hpos
    have hstride' : state.source_stride_ = stride.toNat := hstride.trans hint
    rw [if_neg (by omega), hformat, layout_size hheight hstride' hlt]
    by_cases hlength : stride.toNat * 480 + stride.toNat / 2 * 240 * 2 ≤ src.length
    swap
    · -- the planes are not mapped
      rw [if_pos (.inr (Nat.lt_of_not_le hlength))]
      refine ⟨_, [], rfl, ⟨rfl, hwidth, hheight, hstride, hlatest, hconversion⟩,
        Frame.accessed_nil ?_⟩
      rintro ⟨src', hsrc', -, hlength', -⟩
      rw [hmapped, Option.some.injEq] at hsrc'
      exact hlength (hsrc' ▸ hlength')
    rw [if_neg (by rintro (h | h); exacts [h rfl, by omega])]
    by_cases hsync : frame.sync_started = true
    swap
    · rw [if_pos (by simpa using hsync)]
      exact ⟨state, [], rfl, hready, Frame.accessed_nil fun ⟨_, _, _, _, h⟩ => hsync h⟩
    have hrow' : 640 ≤ stride.toNat := hrow
    rw [if_neg (by simp [hsync]),
      convert_frame_eq hwidth hheight hstride' hrow' hlt hlength hconversion]
    have haccessed : frame.Accessed stride (converted stride.toNat src
        state.conversion_frame_ (226 * 170)).2 := by
      refine ⟨fun place hplace => ⟨src, hmapped, ?_⟩, fun _ => ?_, fun h => ?_⟩
      · obtain ⟨pixel, hpixel, rfl⟩ := mem_accesses hplace
        exact access_inBounds hrow' hlength hpixel
      · exact map_preview_index _ _ _ _
      · exact absurd ⟨src, hmapped, hpos, hlength, hsync⟩ h
    have hsize : (converted stride.toNat src state.conversion_frame_ (226 * 170)).1.length =
        226 * 170 := by
      unfold converted
      rw [List.length_append, List.length_map, List.length_range, List.length_drop, hconversion]
    cases frame.sync_ended with
    | false =>
      exact ⟨_, _, rfl, ⟨rfl, hwidth, hheight, hstride, hlatest, hsize⟩, haccessed⟩
    | true =>
      exact ⟨_, _, rfl, ⟨rfl, hwidth, hheight, hstride, hsize, hlatest⟩, haccessed⟩

/-- What the frames of a stream leave. -/
def copy_framebuffers (YUV420 : PixelFormat) (state : NativePreview PixelFormat)
    (frames : List Frame) : Option (NativePreview PixelFormat) :=
  frames.foldlM (fun state frame => (copy_framebuffer YUV420 state frame).map Prod.fst) state

theorem copy_framebuffers_eq (hready : state.Ready YUV420 stride) (hrow : 640 ≤ stride)
    (frames : List Frame) :
    ∃ state', copy_framebuffers YUV420 state frames = some state' ∧
      state'.Ready YUV420 stride := by
  induction frames generalizing state with
  | nil => exact ⟨state, rfl, hready⟩
  | cons frame frames ih =>
    obtain ⟨next, accesses, hcopy, hnext, -⟩ := copy_framebuffer_eq hready hrow frame
    obtain ⟨state', hframes, hready'⟩ := ih hnext
    refine ⟨state', ?_, hready'⟩
    unfold copy_framebuffers at hframes ⊢
    rw [List.foldlM_cons, hcopy]
    exact hframes

/-- A stream that is configured has the geometry that the conversion is made for, and the stride
that libcamera answers. -/
theorem ready_of_prepare_configuration {camera : Libcamera PixelFormat}
    {requested_buffer_count validated_buffer_count : UInt32} {prepared : NativePreview PixelFormat}
    {cfg : StreamConfiguration PixelFormat} (hcfg : camera.generateConfiguration = some cfg)
    (h : prepare_configuration YUV420 camera requested_buffer_count state =
      .ok (validated_buffer_count, prepared)) :
    prepared.assign_frames.Ready YUV420
      (camera.validate (requested_configuration YUV420 requested_buffer_count cfg)).2.stride := by
  unfold prepare_configuration at h
  rw [hcfg] at h
  dsimp only at h
  split_ifs at h with hinvalid hgeometry hconfigure
  rw [not_or, not_not, ne_eq, not_not] at hgeometry
  obtain ⟨⟨hwidth, hheight⟩, hformat⟩ := hgeometry
  cases h
  have hsize : (List.replicate (K_PREVIEW_WIDTH * K_PREVIEW_HEIGHT) (0 : UInt16)).length =
      226 * 170 := List.length_replicate
  refine ⟨hformat, (congrArg (·.toInt32.toInt) hwidth).trans (by decide),
    (congrArg (·.toInt32.toInt) hheight).trans (by decide), rfl, hsize, hsize⟩

/-- Whatever libcamera answers and whatever frames it brings: if its rows have at least 640 bytes,
no access of a frame leaves its plane, the mapped buffer or the preview, and a frame that is
converted writes each pixel of the preview once. -/
theorem copy_framebuffer_spec {camera : Libcamera PixelFormat}
    {requested_buffer_count validated_buffer_count : UInt32} {prepared : NativePreview PixelFormat}
    {cfg : StreamConfiguration PixelFormat} (hcfg : camera.generateConfiguration = some cfg)
    (hstride : (camera.validate
      (requested_configuration YUV420 requested_buffer_count cfg)).2.stride = stride)
    (hrow : 640 ≤ stride)
    (hprepare : prepare_configuration YUV420 camera requested_buffer_count state =
      .ok (validated_buffer_count, prepared))
    (frames : List Frame) (frame : Frame) :
    ∃ now next accesses, copy_framebuffers YUV420 prepared.assign_frames frames = some now ∧
      copy_framebuffer YUV420 now frame = some (next, accesses) ∧
      frame.Accessed stride accesses := by
  have hready := ready_of_prepare_configuration hcfg hprepare
  rw [hstride] at hready
  obtain ⟨now, hframes, hnow⟩ := copy_framebuffers_eq hready hrow frames
  obtain ⟨next, accesses, hcopy, -, haccessed⟩ := copy_framebuffer_eq hnow hrow frame
  exact ⟨now, next, accesses, hframes, hcopy, haccessed⟩

/-- Rows of 641 bytes, in a buffer with no byte to spare. -/
theorem copy_framebuffer_odd_stride :
    let camera : Libcamera Bool :=
      { generateConfiguration := some ⟨false, 800, 600, 800, 4⟩
        validate := fun cfg => (.Adjusted, { cfg with stride := 641 })
        configure := fun _ => 0 }
    let state : NativePreview Bool := ⟨[], [], false, 0, 0, 0, false, false⟩
    let frame : Frame := ⟨some (List.replicate (641 * 480 + 320 * 240 * 2) 128), true, true⟩
    ∃ prepared, prepare_configuration true camera 3 state = .ok (3, prepared) ∧
      ∃ now next accesses,
        copy_framebuffers true prepared.assign_frames [frame] = some now ∧
        copy_framebuffer true now frame = some (next, accesses) ∧
        accesses.map (·.preview_index) = List.range (226 * 170) := by
  intro camera state frame
  refine ⟨_, rfl, ?_⟩
  obtain ⟨now, next, accesses, hframes, hcopy, haccessed⟩ :=
    @copy_framebuffer_spec Bool _ true 641 state camera 3 3 _ _ rfl rfl (by decide) rfl [frame]
      frame
  refine ⟨now, next, accesses, hframes, hcopy, haccessed.once ⟨_, rfl, by decide, ?_, rfl⟩⟩
  rw [List.length_replicate]
  decide

end

end FactoryTest.Camera
