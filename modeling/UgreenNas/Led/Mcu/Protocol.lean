import UgreenNas.Led.Profiles
import Mathlib.Logic.Function.Basic

/-! # Frames of the LED microcontroller (`led/led_protocol.c`)

    A status frame carries the nine registers of an LED, a command frame new
    values for some of them; both end with the sum of their bytes.  The
    three framings of a command differ in whether the LED comes along and in
    the order of the two bytes of the sum.
-/

namespace UgreenNas.Led.Mcu

/-! ## Frames -/

def checksum (data : List UInt8) : Nat := (data.map UInt8.toNat).sum

/-- A word, high byte first. -/
def word (high low : UInt8) : Nat := high.toNat * 256 + low.toNat

/-- `ugreenctl_led_decode` -/
def decode (frame : List UInt8) : Except Errno Value :=
  match frame with
  | [mode, brightness, red, green, blue, cycle_high, cycle_low, on_high, on_low, sum_high, sum_low] =>
    let sum := checksum [mode, brightness, red, green, blue, cycle_high, cycle_low, on_high, on_low]
    let cycle := word cycle_high cycle_low
    let on := word on_high on_low
    if sum ≠ word sum_high sum_low ∨ mode > 3 then .error .EBADMSG
    else if on > cycle then .error .EBADMSG
    else .ok {
      mode := mode.toUInt32, brightness := brightness.toUInt32,
      red := red.toUInt32, green := green.toUInt32, blue := blue.toUInt32,
      on_ms := UInt32.ofNat on, off_ms := UInt32.ofNat (cycle - on) }
  | _ => .error .EINVAL

/-- The four parameters of a command. -/
structure Parameters where
  p0 : UInt8 := 0
  p1 : UInt8 := 0
  p2 : UInt8 := 0
  p3 : UInt8 := 0
  deriving DecidableEq, Repr

def Parameters.bytes (p : Parameters) : List UInt8 := [p.p0, p.p1, p.p2, p.p3]

/-- What the sum of a command frame is taken of: all but the LED. -/
def command_bytes (command : UInt8) (p : Parameters) : List UInt8 :=
  [0xa0, 1, 0, 0, command] ++ p.bytes

/-- `ugreenctl_led_encode` -/
def encode (id : Nat) (command : UInt8) (p : Parameters) : Except Errno (List UInt8) :=
  if id > 9 ∨ command < 1 ∨ command > 5 then .error .EINVAL
  else
    let sum := checksum (command_bytes command p)
    .ok ([UInt8.ofNat id] ++ command_bytes command p ++
      [UInt8.ofNat (sum / 256), UInt8.ofNat sum])

/-- `ugreenctl_led_encode_smbus` -/
def encode_smbus (command : UInt8) (p : Parameters) (little_endian_checksum : Bool) :
    Except Errno (List UInt8) := do
  let legacy ← encode 0 command p
  let frame := legacy.tail ++ [0]
  if little_endian_checksum then
    .ok ((frame.set 9 (legacy.getD 11 0)).set 10 (legacy.getD 10 0))
  else
    .ok frame

/-! ## The microcontroller -/

/-- The registers of an LED, as they stand in its status frame. -/
structure Registers where
  mode : UInt8
  brightness : UInt8
  red : UInt8
  green : UInt8
  blue : UInt8
  cycle_high : UInt8
  cycle_low : UInt8
  on_high : UInt8
  on_low : UInt8
  deriving DecidableEq, Repr

def Registers.bytes (r : Registers) : List UInt8 :=
  [r.mode, r.brightness, r.red, r.green, r.blue, r.cycle_high, r.cycle_low, r.on_high, r.on_low]

/-- The status frame. -/
def Registers.status (r : Registers) : List UInt8 :=
  r.bytes ++ [UInt8.ofNat (checksum r.bytes / 256), UInt8.ofNat (checksum r.bytes)]

/-- The registers a command stores its parameters in. -/
def Registers.store (r : Registers) (command : UInt8) (p : Parameters) : Registers :=
  match command with
  | 1 => { r with brightness := p.p0 }
  | 2 => { r with red := p.p0, green := p.p1, blue := p.p2 }
  | 3 => { r with mode := p.p0 }
  | 4 => { r with mode := 2, cycle_high := p.p0, cycle_low := p.p1, on_high := p.p2, on_low := p.p3 }
  | 5 => { r with mode := 3, cycle_high := p.p0, cycle_low := p.p1, on_high := p.p2, on_low := p.p3 }
  | _ => r

inductive Framing where
  | legacy_i2c_block
  | smbus_block_be
  | smbus_block_le
  deriving DecidableEq, Repr

/-- The framing of a profile's protocol. -/
def Framing.protocol : Framing → String
  | .legacy_i2c_block => "legacy-i2c-block"
  | .smbus_block_be => "smbus-block-be"
  | .smbus_block_le => "smbus-block-le"

/-- How a block is sent: as it is, or with its length first. -/
inductive Transfer where
  | i2c_block
  | smbus_block
  deriving DecidableEq, Repr

/-- The command in the bytes written to register `id`, if they fit. -/
def Framing.parse (framing : Framing) (transfer : Transfer) (id : Nat) (data : List UInt8) :
    Option (UInt8 × Parameters) :=
  match framing, transfer, data with
  | .legacy_i2c_block, .i2c_block,
    [led, 0xa0, 1, 0, 0, command, p0, p1, p2, p3, high, low] =>
    if led.toNat = id ∧ word high low = checksum (command_bytes command ⟨p0, p1, p2, p3⟩) then
      some (command, ⟨p0, p1, p2, p3⟩)
    else none
  | .smbus_block_be, .smbus_block, [0xa0, 1, 0, 0, command, p0, p1, p2, p3, high, low] =>
    if word high low = checksum (command_bytes command ⟨p0, p1, p2, p3⟩) then
      some (command, ⟨p0, p1, p2, p3⟩)
    else none
  | .smbus_block_le, .smbus_block, [0xa0, 1, 0, 0, command, p0, p1, p2, p3, low, high] =>
    if word high low = checksum (command_bytes command ⟨p0, p1, p2, p3⟩) then
      some (command, ⟨p0, p1, p2, p3⟩)
    else none
  | _, _, _ => none

/-- What the microcontroller remembers: its LEDs, and whether the last
    command fitted. -/
structure Chip where
  leds : Nat → Registers
  acknowledged : Bool

/-- A block written to register `id`. -/
def Chip.write (m : Chip) (framing : Framing) (transfer : Transfer) (id : Nat) (data : List UInt8) :
    Chip :=
  match framing.parse transfer id data with
  | some (command, p) =>
    { leds := Function.update m.leds id ((m.leds id).store command p), acknowledged := true }
  | none => { m with acknowledged := false }

/-! ## Words and sums -/

theorem word_ofNat {n : Nat} (h : n < 65536) :
    word (UInt8.ofNat (n / 256)) (UInt8.ofNat n) = n := by
  simp only [word, UInt8.toNat_ofNat']
  omega

theorem word_lt (high low : UInt8) : word high low < 65536 := by
  have hhigh := high.toNat_lt
  have hlow := low.toNat_lt
  unfold word
  omega

theorem word_inj {high low high' low' : UInt8} (h : word high low = word high' low') :
    high = high' ∧ low = low' := by
  have hlow := low.toNat_lt
  have hlow' := low'.toNat_lt
  unfold word at h
  exact ⟨UInt8.toNat_inj.mp (by omega), UInt8.toNat_inj.mp (by omega)⟩

theorem checksum_lt (data : List UInt8) (h : data.length ≤ 9) : checksum data < 65536 := by
  have hsum : checksum data ≤ data.length * 255 := by
    clear h
    induction data with
    | nil => exact Nat.zero_le _
    | cons byte rest ih =>
      have hbyte := byte.toNat_lt
      simp only [checksum, List.map_cons, List.sum_cons, List.length_cons] at ih ⊢
      omega
  omega

/-! ## Status frames -/

namespace Registers

def cycle (r : Registers) : Nat := word r.cycle_high r.cycle_low

def on (r : Registers) : Nat := word r.on_high r.on_low

/-- The status can be decoded. -/
def Readable (r : Registers) : Prop := r.mode ≤ 3 ∧ r.on ≤ r.cycle

instance (r : Registers) : Decidable r.Readable := inferInstanceAs (Decidable (_ ∧ _))

/-- What a decoded status says. -/
def value (r : Registers) : Value where
  mode := r.mode.toUInt32
  brightness := r.brightness.toUInt32
  red := r.red.toUInt32
  green := r.green.toUInt32
  blue := r.blue.toUInt32
  on_ms := UInt32.ofNat r.on
  off_ms := UInt32.ofNat (r.cycle - r.on)

/-- Decoding undoes encoding, where that is possible. -/
theorem decode_status (r : Registers) :
    decode r.status = if r.Readable then .ok r.value else .error .EBADMSG := by
  have hsum := word_ofNat (checksum_lt r.bytes (by simp [bytes]))
  show (if checksum r.bytes ≠ word (UInt8.ofNat (checksum r.bytes / 256))
      (UInt8.ofNat (checksum r.bytes)) ∨ r.mode > 3 then _ else
    if r.on > r.cycle then _ else _) = _
  rw [hsum]
  by_cases hmode : r.mode ≤ 3
  · by_cases hon : r.on ≤ r.cycle
    · rw [if_neg (by simp [hmode]), if_neg (by omega), if_pos ⟨hmode, hon⟩]
      rfl
    · rw [if_neg (by simp [hmode]), if_pos (by omega), if_neg fun h => hon h.2]
  · rw [if_pos (.inr (UInt8.not_le.mp hmode)), if_neg fun h => hmode h.1]

theorem on_ms_toNat (r : Registers) : r.value.on_ms.toNat = r.on := by
  have hlt : r.on < 65536 := word_lt r.on_high r.on_low
  exact UInt32.toNat_ofNat_of_lt' (Nat.lt_of_lt_of_le hlt (by decide))

theorem off_ms_toNat (r : Registers) : r.value.off_ms.toNat = r.cycle - r.on := by
  have hlt : r.cycle < 65536 := word_lt r.cycle_high r.cycle_low
  have hoff : r.cycle - r.on < 65536 := by omega
  exact UInt32.toNat_ofNat_of_lt' (Nat.lt_of_lt_of_le hoff (by decide))

/-- The fields say all about the registers of a readable LED. -/
theorem value_inj {r r' : Registers} (h : r.Readable) (h' : r'.Readable)
    (heq : r.value = r'.value) : r = r' := by
  have hon : r.on = r'.on := by
    rw [← on_ms_toNat, ← on_ms_toNat, heq]
  have hoff : r.cycle - r.on = r'.cycle - r'.on := by
    rw [← off_ms_toNat, ← off_ms_toNat, heq]
  have hcycle : r.cycle = r'.cycle := by
    have hle := h.2
    have hle' := h'.2
    omega
  obtain ⟨hch, hcl⟩ := word_inj hcycle
  obtain ⟨hoh, hol⟩ := word_inj hon
  have hmode := UInt8.toUInt32_inj.mp (congrArg Value.mode heq)
  have hbrightness := UInt8.toUInt32_inj.mp (congrArg Value.brightness heq)
  have hred := UInt8.toUInt32_inj.mp (congrArg Value.red heq)
  have hgreen := UInt8.toUInt32_inj.mp (congrArg Value.green heq)
  have hblue := UInt8.toUInt32_inj.mp (congrArg Value.blue heq)
  cases r
  cases r'
  simp_all

end Registers

/-! ## Command frames -/

/-- The bytes on the bus for a command. -/
def Framing.bytes (framing : Framing) (id : Nat) (command : UInt8) (p : Parameters) :
    Transfer × List UInt8 :=
  let sum := checksum (command_bytes command p)
  match framing with
  | .legacy_i2c_block => (.i2c_block, [UInt8.ofNat id] ++ command_bytes command p ++
      [UInt8.ofNat (sum / 256), UInt8.ofNat sum])
  | .smbus_block_be =>
    (.smbus_block, command_bytes command p ++ [UInt8.ofNat (sum / 256), UInt8.ofNat sum])
  | .smbus_block_le =>
    (.smbus_block, command_bytes command p ++ [UInt8.ofNat sum, UInt8.ofNat (sum / 256)])

/-- A microcontroller of the same framing takes them. -/
theorem Framing.parse_bytes (framing : Framing) {id : Nat} (hid : id ≤ 9) (command : UInt8)
    (p : Parameters) : framing.parse (framing.bytes id command p).1 id
      (framing.bytes id command p).2 = some (command, p) := by
  have hsum := word_ofNat (checksum_lt (command_bytes command p) (by
    simp [command_bytes, Parameters.bytes]))
  have hled : (UInt8.ofNat id).toNat = id := by
    simp only [UInt8.toNat_ofNat']
    omega
  cases framing with
  | legacy_i2c_block => exact if_pos ⟨hled, hsum⟩
  | smbus_block_be => exact if_pos hsum
  | smbus_block_le => exact if_pos hsum

end UgreenNas.Led.Mcu
