import UgreenNas.Core.Identity
import UgreenNas.Network.Wol
import UgreenNas.Power.RtcWake

/-! # What machines can be woken (`models/wake_profiles.c`)

    Two tables that do not depend on each other: one says which RTC wakes a
    machine, the other how its network interfaces are found.
-/

namespace UgreenNas.Wake

open Core (CString literal MachineIdentity identity_has_compatible)
open DiskMap (Text)
open Power (RtcProfile)

/-- What a profile is told by; `dt` are `dt_model` and `dt_compatible`. -/
structure ModelKey where
  id : String
  product : String
  dt : Option (String × String) := none
  deriving DecidableEq

/-- `struct ugreenctl_rtc_profile` -/
structure RtcEntry where
  key : ModelKey
  profile : RtcProfile

/-- `struct ugreenctl_wol_profile` -/
structure WolEntry where
  key : ModelKey
  ethernet_of_path : Option Text := none
  ethernet_compatible : Option Text := none
  automatic_pci_count : Nat

def RTC (id product : String) : RtcEntry where
  key := { id, product }
  profile := { product, rtc_name := "rtc_cmos".toList, resolution_seconds := 1 }

def WOL (id product : String) (n : Nat) : WolEntry where
  key := { id, product }
  automatic_pci_count := n

def dh2300 : ModelKey where
  id := "dh2300"
  product := "DH2300"
  dt := some ("UGREEN RK3576 DH2300 Board", "rockchip,rk3576")

def dh4300plus : ModelKey where
  id := "dh4300plus"
  product := "DH4300 Plus"
  dt := some ("UGREEN RK3588C DH4300Plus Board", "rockchip,rk3588")

def rtc_profiles : List RtcEntry := [
  RTC "dh2600" "DH2600",
  RTC "dx4600" "DX4600", RTC "dx4600plus" "DX4600+", RTC "dx4600pro" "DX4600 Pro",
  RTC "dx4700" "DX4700", RTC "dx4700plus" "DX4700+",
  RTC "dxp2800" "DXP2800", RTC "dxp2800gt" "DXP2800 GT",
  RTC "dxp4800" "DXP4800", RTC "dxp4800s" "DXP4800S",
  RTC "dxp4800plus" "DXP4800 Plus", RTC "dxp4800pro" "DXP4800 Pro",
  RTC "dxp4800gt" "DXP4800 GT", RTC "dxp480tplus" "DXP480T Plus",
  RTC "dxp6800" "DXP6800", RTC "dxp6800plus" "DXP6800 Plus",
  RTC "dxp6800pro" "DXP6800 Pro", RTC "dxp6800ultra" "DXP6800 Ultra",
  RTC "dxp8800" "DXP8800", RTC "dxp8800plus" "DXP8800 Plus",
  RTC "dxp8800pro" "DXP8800 Pro", RTC "dxp8800ultra" "DXP8800 Ultra",
  RTC "idx6011pro" "iDX6011 Pro",
  ⟨dh2300, {
    product := "DH2300"
    rtc_name := "hym8563".toList
    rtc_of_path := some "/i2c@2ac50000/hym8563@51".toList
    resolution_seconds := 60 }⟩,
  ⟨dh4300plus, {
    product := "DH4300 Plus"
    rtc_name := "hym8563".toList
    rtc_of_path := some "/i2c@fec80000/hym8563@51".toList
    resolution_seconds := 60 }⟩]

/-- A count of 0 says that the interface has to be named. -/
def wol_profiles : List WolEntry := [
  WOL "dh2600" "DH2600" 0,
  WOL "dx4600" "DX4600" 2, WOL "dx4600plus" "DX4600+" 2, WOL "dx4600pro" "DX4600 Pro" 2,
  WOL "dx4700" "DX4700" 0, WOL "dx4700plus" "DX4700+" 0,
  WOL "dxp2800" "DXP2800" 0, WOL "dxp2800gt" "DXP2800 GT" 0,
  WOL "dxp4800" "DXP4800" 2, WOL "dxp4800s" "DXP4800S" 2,
  WOL "dxp4800plus" "DXP4800 Plus" 2, WOL "dxp4800pro" "DXP4800 Pro" 2,
  WOL "dxp4800gt" "DXP4800 GT" 0, WOL "dxp480tplus" "DXP480T Plus" 1,
  WOL "dxp6800" "DXP6800" 0, WOL "dxp6800plus" "DXP6800 Plus" 2,
  WOL "dxp6800pro" "DXP6800 Pro" 2, WOL "dxp6800ultra" "DXP6800 Ultra" 0,
  WOL "dxp8800" "DXP8800" 0, WOL "dxp8800plus" "DXP8800 Plus" 0,
  WOL "dxp8800pro" "DXP8800 Pro" 0, WOL "dxp8800ultra" "DXP8800 Ultra" 0,
  WOL "idx6011pro" "iDX6011 Pro" 0,
  { key := dh2300
    ethernet_of_path := some "/ethernet@2a220000".toList
    ethernet_compatible := some "rockchip,rk3576-gmac".toList
    automatic_pci_count := 0 },
  { key := dh4300plus, automatic_pci_count := 0 }]

/-- `matches` -/
def ModelKey.fits (key : ModelKey) (identity : MachineIdentity) : Bool :=
  match key.dt with
  | some (dt_model, dt_compatible) =>
    identity.source = literal "devicetree" && identity.product_name = literal dt_model &&
      identity_has_compatible (some identity) (some (literal dt_compatible))
  | none => identity.source = literal "dmi" && identity.product_name = literal key.product

/-- `ugreenctl_rtc_match` -/
def rtc_match (identity : MachineIdentity) : Option RtcEntry :=
  rtc_profiles.find? fun entry => entry.key.fits identity

/-- `ugreenctl_wol_match` -/
def wol_match (identity : MachineIdentity) : Option WolEntry :=
  wol_profiles.find? fun entry => entry.key.fits identity

/-! ## The tables tell machines apart -/

/-- The name that an identity has where a key fits. -/
def ModelKey.name (key : ModelKey) : CString :=
  literal (match key.dt with
    | some (dt_model, _) => dt_model
    | none => key.product)

theorem name_of_fits {key : ModelKey} {identity : MachineIdentity} (h : key.fits identity = true) :
    identity.product_name = key.name := by
  unfold ModelKey.fits at h
  unfold ModelKey.name
  cases hdt : key.dt with
  | some dt =>
    rw [hdt] at h
    simp only [Bool.and_eq_true, decide_eq_true_eq] at h
    exact h.1.2
  | none =>
    rw [hdt] at h
    simp only [Bool.and_eq_true, decide_eq_true_eq] at h
    exact h.2

/-- In a table with distinct names the first entry that fits is the only one. -/
theorem find_of_fits {α : Type} {key : α → ModelKey} {table : List α}
    (hnames : (table.map fun entry => (key entry).name).Nodup) {identity : MachineIdentity} {entry : α}
    (hmem : entry ∈ table) (h : (key entry).fits identity = true) :
    table.find? (fun entry => (key entry).fits identity) = some entry := by
  induction table with
  | nil => cases hmem
  | cons first rest ih =>
    rw [List.map_cons, List.nodup_cons] at hnames
    obtain ⟨hfirst, hrest⟩ := hnames
    rw [List.find?_cons]
    cases hfits : (key first).fits identity with
    | true =>
      -- both fit, so they have one name
      obtain rfl | hmem := List.mem_cons.mp hmem
      · rfl
      · have hname := (name_of_fits hfits).symm.trans (name_of_fits h)
        exact absurd (List.mem_map.mpr ⟨entry, hmem, hname.symm⟩) hfirst
    | false =>
      obtain rfl | hmem := List.mem_cons.mp hmem
      · rw [hfits] at h
        cases h
      · exact ih hrest hmem

theorem rtc_names : (rtc_profiles.map fun entry => entry.key.name).Nodup := by decide +kernel

theorem wol_names : (wol_profiles.map fun entry => entry.key.name).Nodup := by decide +kernel

theorem rtc_match_iff {identity : MachineIdentity} {entry : RtcEntry} :
    rtc_match identity = some entry ↔ entry ∈ rtc_profiles ∧ entry.key.fits identity = true := by
  constructor
  · intro h
    have hfits := List.find?_some (p := fun entry : RtcEntry => entry.key.fits identity) h
    exact ⟨List.mem_of_find?_eq_some h, hfits⟩
  · intro h
    exact find_of_fits rtc_names h.1 h.2

theorem wol_match_iff {identity : MachineIdentity} {entry : WolEntry} :
    wol_match identity = some entry ↔ entry ∈ wol_profiles ∧ entry.key.fits identity = true := by
  constructor
  · intro h
    have hfits := List.find?_some (p := fun entry : WolEntry => entry.key.fits identity) h
    exact ⟨List.mem_of_find?_eq_some h, hfits⟩
  · intro h
    exact find_of_fits wol_names h.1 h.2

end UgreenNas.Wake
