import UgreenNas.Led.Basic
import Mathlib.Data.Fintype.Basic

/-! # The frames of the LED service (`led/led_service.c`)

    Requests are sixteen words; responses are sixteen words, the id of the
    holder's profile and a report.  Words are given in host order here; the
    bytes they cross the socket as are the subject of `Wire`.
-/

namespace UgreenNas.Led.Service

/-! ## Words -/

def MAGIC : UInt32 := 0x55474c44
def VERSION : UInt32 := 1
def INFO : UInt32 := 1
def READ : UInt32 := 2
def APPLY : UInt32 := 3
def BEGIN_IDENTIFY : UInt32 := 4
def END_IDENTIFY : UInt32 := 5

/-- The acknowledgement of `--force` and `--apply` in word 13. -/
def ACKNOWLEDGED : UInt32 := 3

/-- Words are addressed by literals. -/
instance sixteen_words : NeZero 16 := ⟨by decide⟩

abbrev Words : Type := Fin 16 → UInt32

/-- `struct request` -/
structure Request where
  word : Words
  deriving DecidableEq

/-- `struct response` -/
structure Response where
  word : Words
  profile : String
  error : Report
  deriving DecidableEq

/-! ## Values in words -/

/-- `encode_value`: words 5 to 14. -/
def encode_value (word : Words) (value : Value) : Words := fun i =>
  match i with
  | 5 => value.mode
  | 6 => value.brightness
  | 7 => value.red
  | 8 => value.green
  | 9 => value.blue
  | 10 => value.on_ms
  | 11 => value.off_ms
  | 12 => value.color
  | 13 => value.unknown_fields
  | 14 => value.cached_fields
  | i => word i

def decode_value (word : Words) : Value where
  mode := word 5
  brightness := word 6
  red := word 7
  green := word 8
  blue := word 9
  on_ms := word 10
  off_ms := word 11
  color := word 12
  unknown_fields := word 13
  cached_fields := word 14

/-- All ten fields survive. -/
theorem decode_encode_value (word : Words) (value : Value) :
    decode_value (encode_value word value) = value := rfl

/-! ## Requests -/

namespace Request

def opcode (request : Request) : UInt32 := request.word 2

def id (request : Request) : Nat := (request.word 3).toNat

/-- The checks every frame has to pass before its opcode is looked at. -/
def HeaderOk (request : Request) : Prop :=
  request.word 0 = MAGIC ∧ request.word 1 = VERSION ∧ request.word 14 = 0 ∧
    request.word 15 = 0 ∧ request.id ≤ 255

instance (request : Request) : Decidable request.HeaderOk := by
  unfold HeaderOk
  infer_instance

/-- The words from `first` on are zero, but for `skipped`. -/
def ZeroFrom (request : Request) (first : Nat) (skipped : Option (Fin 16)) : Prop :=
  ∀ i : Fin 16, first ≤ i.val → some i ≠ skipped → request.word i = 0

instance (request : Request) (first : Nat) (skipped : Option (Fin 16)) :
    Decidable (request.ZeroFrom first skipped) := by
  unfold ZeroFrom
  infer_instance

/-- The patch of an APPLY frame. -/
def patch (request : Request) : Patch :=
  ⟨request.word 4, { decode_value request.word with unknown_fields := 0, cached_fields := 0 }⟩

end Request

/-! ## The client's requests -/

/-- `request->word[0]=htonl(MAGIC); request->word[1]=htonl(VERSION);` -/
def stamp (request : Request) : Request where
  word := fun i =>
    match i with
    | 0 => MAGIC
    | 1 => VERSION
    | i => request.word i

/-- The request of `connect_fd`. -/
def info_request : Request where
  word := fun i => if i = 2 then INFO else 0

/-- The request of `ugreenctl_led_service_read`. -/
def read_request (id : UInt8) : Request where
  word := fun i =>
    match i with
    | 2 => READ
    | 3 => id.toUInt32
    | _ => 0

/-- The request of `ugreenctl_led_service_apply`. -/
def apply_request (id : UInt8) (patch : Patch) : Request where
  word := fun i =>
    match i with
    | 2 => APPLY
    | 3 => id.toUInt32
    | 4 => patch.fields
    | 13 => ACKNOWLEDGED
    | 14 => 0
    | 15 => 0
    | i => encode_value (fun _ => 0) patch.value i

/-- The request of `identify_boundary`. -/
def identify_request (opcode : UInt32) (id : UInt8) : Request where
  word := fun i =>
    match i with
    | 2 => opcode
    | 3 => id.toUInt32
    | 13 => ACKNOWLEDGED
    | _ => 0

/-! ## Responses -/

/-- `(uint32_t)(int32_t)result` -/
def result_word {α : Type} : Except Failure α → UInt32
  | .ok _ => 0
  | .error e => UInt32.ofNat (2 ^ 32 - e.errno.code)

/-- The response to a request with the given result, and whether the
    hardware is confirmed after it. -/
def respond (profile : Profile) (result : Except Failure Value) (confirmed : Bool) : Response :=
  let header : Words := fun i =>
    match i with
    | 0 => MAGIC
    | 1 => VERSION
    | 2 => result_word result
    | 3 => if confirmed then 1 else 0
    | _ => 0
  match result with
  | .ok value => ⟨encode_value header value, profile.id, .silent⟩
  | .error e => ⟨header, profile.id, e.report.otherwise (.refused e.errno)⟩

theorem result_word_error {α : Type} (e : Failure) :
    (result_word (.error e : Except Failure α)).toNat = 2 ^ 32 - e.errno.code := by
  have hpos := e.errno.pos
  have hle := e.errno.le
  simp only [result_word, UInt32.toNat_ofNat']
  omega

/-- The result of a request can be read off its response. -/
theorem respond_result (profile : Profile) (result : Except Failure Value) (confirmed : Bool) :
    (respond profile result confirmed).word 2 = result_word result := by
  cases result <;> rfl

theorem result_word_inj {α : Type} {e e' : Failure}
    (h : result_word (.error e : Except Failure α) = result_word (.error e' : Except Failure α)) :
    e.errno = e'.errno := by
  have hnat := congrArg UInt32.toNat h
  rw [result_word_error, result_word_error] at hnat
  have hle := e.errno.le
  have hle' := e'.errno.le
  have hcode : e.errno.code = e'.errno.code := by omega
  cases he : e.errno with
  | mk code pos le =>
    cases he' : e'.errno with
    | mk code' pos' le' =>
      simp only [he, he'] at hcode
      subst hcode
      rfl

theorem result_word_ne_zero {α : Type} (e : Failure) :
    result_word (.error e : Except Failure α) ≠ 0 := by
  intro h
  have hnat := congrArg UInt32.toNat h
  rw [result_word_error] at hnat
  have hle := e.errno.le
  simp at hnat
  omega

end UgreenNas.Led.Service
