import UgreenNas.Disk.Text

/-! # Official disk connectors (`disk/firmware_profiles.c`)

    The rules by which the vendor's firmware assigns disks to bays, one
    table for each model and revision.
-/

namespace UgreenNas.DiskMap

/-- `struct ugreenctl_disk_firmware_rule`. -/
structure FirmwareRule where
  slot : Text
  kind : Text
  identity : Text
  interface_type : Text
  color_led : Bool
  deriving DecidableEq, Repr

/-- `struct ugreenctl_disk_firmware_layout`. -/
structure FirmwareLayout where
  model : Text
  revision : Text
  rules : List FirmwareRule
  deriving DecidableEq, Repr

def rows_0_0 : List FirmwareRule := [
  ⟨"ata1", "ata_id", "ata2", "sata", false⟩,
  ⟨"ata2", "ata_id", "ata1", "sata", false⟩,
  ⟨"nvme1", "block_name", "nvme0n1", "m2", false⟩,
  ⟨"nvme2", "block_name", "nvme1n1", "m2", false⟩]

def rows_1_0 : List FirmwareRule := [
  ⟨"ata1", "ata_id", "ata1", "sata", true⟩,
  ⟨"ata2", "ata_id", "ata2", "sata", true⟩,
  ⟨"nvme1", "block_name", "nvme0n1", "m2", false⟩,
  ⟨"nvme2", "block_name", "nvme1n1", "m2", false⟩]

def rows_1_1 : List FirmwareRule := [
  ⟨"ata1", "ata_id", "ata1", "sata", true⟩,
  ⟨"ata2", "ata_id", "ata2", "sata", true⟩,
  ⟨"nvme1", "block_name", "nvme0n1", "m2", false⟩,
  ⟨"nvme2", "block_name", "nvme1n1", "m2", false⟩]

def rows_2_0 : List FirmwareRule := [
  ⟨"ata1", "ata_id", "ata1", "sata", true⟩,
  ⟨"ata2", "ata_id", "ata2", "sata", true⟩,
  ⟨"nvme1", "block_name", "nvme0n1", "m2", false⟩,
  ⟨"nvme2", "block_name", "nvme1n1", "m2", false⟩]

def rows_3_0 : List FirmwareRule := [
  ⟨"ata1", "ata_id", "ata1", "sata", true⟩,
  ⟨"ata2", "ata_id", "ata2", "sata", true⟩,
  ⟨"ata3", "ata_id", "ata3", "sata", true⟩,
  ⟨"ata4", "ata_id", "ata4", "sata", true⟩,
  ⟨"nvme1", "block_name", "nvme0n1", "m2", false⟩,
  ⟨"nvme2", "block_name", "nvme1n1", "m2", false⟩]

def rows_4_0 : List FirmwareRule := [
  ⟨"ata1", "syspath", "devices/pci0000:00/0000:00:08.2|ata1", "sata", true⟩,
  ⟨"ata2", "syspath", "devices/pci0000:00/0000:00:08.2|ata2", "sata", true⟩,
  ⟨"ata1", "syspath", "devices/pci0000:00/0000:00:01.1|nvme", "u2", true⟩,
  ⟨"ata2", "syspath", "devices/pci0000:00/0000:00:01.2|nvme", "u2", true⟩,
  ⟨"nvme1", "syspath", "devices/pci0000:00/0000:00:01.6|nvme", "m2", false⟩,
  ⟨"nvme2", "syspath", "devices/pci0000:00/0000:00:01.3|nvme", "m2", false⟩]

def rows_4_1 : List FirmwareRule := [
  ⟨"ata1", "syspath", "devices/pci0000:00/0000:00:08.2|ata2", "sata", true⟩,
  ⟨"ata2", "syspath", "devices/pci0000:00/0000:00:08.2|ata1", "sata", true⟩,
  ⟨"ata1", "syspath", "devices/pci0000:00/0000:00:01.1|nvme", "u2", true⟩,
  ⟨"ata2", "syspath", "devices/pci0000:00/0000:00:01.2|nvme", "u2", true⟩,
  ⟨"nvme1", "syspath", "devices/pci0000:00/0000:00:01.6|nvme", "m2", false⟩,
  ⟨"nvme2", "syspath", "devices/pci0000:00/0000:00:01.3|nvme", "m2", false⟩]

def rows_5_0 : List FirmwareRule := [
  ⟨"ata1", "ata_id", "ata1", "sata", true⟩,
  ⟨"ata2", "ata_id", "ata2", "sata", true⟩,
  ⟨"ata3", "ata_id", "ata3", "sata", true⟩,
  ⟨"ata4", "ata_id", "ata4", "sata", true⟩,
  ⟨"nvme1", "block_name", "nvme0n1", "m2", false⟩,
  ⟨"nvme2", "block_name", "nvme1n1", "m2", false⟩]

def rows_6_0 : List FirmwareRule := [
  ⟨"ata1", "ata_id", "ata1", "sata", true⟩,
  ⟨"ata2", "ata_id", "ata2", "sata", true⟩,
  ⟨"ata3", "ata_id", "ata3", "sata", true⟩,
  ⟨"ata4", "ata_id", "ata4", "sata", true⟩,
  ⟨"nvme1", "block_name", "nvme0n1", "m2", false⟩,
  ⟨"nvme2", "block_name", "nvme1n1", "m2", false⟩]

def rows_7_0 : List FirmwareRule := [
  ⟨"ata1", "ata_id", "ata1", "sata", true⟩,
  ⟨"ata2", "ata_id", "ata2", "sata", true⟩,
  ⟨"ata3", "ata_id", "ata3", "sata", true⟩,
  ⟨"ata4", "ata_id", "ata4", "sata", true⟩,
  ⟨"nvme1", "block_name", "nvme0n1", "m2", false⟩,
  ⟨"nvme2", "block_name", "nvme1n1", "m2", false⟩]

def rows_8_0 : List FirmwareRule := [
  ⟨"ata1", "ata_id", "ata1", "sata", true⟩,
  ⟨"ata2", "ata_id", "ata2", "sata", true⟩,
  ⟨"ata3", "ata_id", "ata3", "sata", true⟩,
  ⟨"ata4", "ata_id", "ata4", "sata", true⟩,
  ⟨"nvme1", "pcie_bridge_id", "8086:4db8", "m2", false⟩,
  ⟨"nvme2", "pcie_bridge_id", "8086:4dbf", "m2", false⟩]

def rows_9_0 : List FirmwareRule := [
  ⟨"ata1", "ata_id", "ata1", "sata", true⟩,
  ⟨"ata2", "ata_id", "ata2", "sata", true⟩,
  ⟨"ata3", "ata_id", "ata3", "sata", true⟩,
  ⟨"ata4", "ata_id", "ata4", "sata", true⟩,
  ⟨"nvme1", "block_name", "nvme0n1", "m2", false⟩,
  ⟨"nvme2", "block_name", "nvme1n1", "m2", false⟩]

def rows_10_0 : List FirmwareRule := [
  ⟨"ata1", "ata_id", "ata1", "sata", true⟩,
  ⟨"ata2", "ata_id", "ata2", "sata", true⟩,
  ⟨"ata3", "ata_id", "ata3", "sata", true⟩,
  ⟨"ata4", "ata_id", "ata4", "sata", true⟩,
  ⟨"nvme1", "block_name", "nvme0n1", "m2", false⟩,
  ⟨"nvme2", "block_name", "nvme1n1", "m2", false⟩]

def rows_11_0 : List FirmwareRule := [
  ⟨"ata1", "ata_id", "ata1", "sata", true⟩,
  ⟨"ata2", "ata_id", "ata2", "sata", true⟩,
  ⟨"ata3", "ata_id", "ata3", "sata", true⟩,
  ⟨"ata4", "ata_id", "ata4", "sata", true⟩,
  ⟨"nvme1", "pcie_bridge_id", "8086:463d", "m2", false⟩,
  ⟨"nvme2", "pcie_bridge_id", "8086:464d", "m2", false⟩]

def rows_12_0 : List FirmwareRule := [
  ⟨"ata1", "ata_id", "ata1", "sata", true⟩,
  ⟨"ata2", "ata_id", "ata2", "sata", true⟩,
  ⟨"ata3", "ata_id", "ata3", "sata", true⟩,
  ⟨"ata4", "ata_id", "ata4", "sata", true⟩,
  ⟨"nvme1", "pcie_bridge_id", "8086:a73d", "m2", false⟩,
  ⟨"nvme2", "pcie_bridge_id", "8086:a74d", "m2", false⟩]

def rows_12_1 : List FirmwareRule := [
  ⟨"ata1", "ata_id", "ata1", "sata", true⟩,
  ⟨"ata2", "ata_id", "ata2", "sata", true⟩,
  ⟨"ata3", "ata_id", "ata3", "sata", true⟩,
  ⟨"ata4", "ata_id", "ata4", "sata", true⟩,
  ⟨"nvme1", "pcie_bridge_id", "8086:a73d", "m2", false⟩,
  ⟨"nvme2", "pcie_bridge_id", "8086:a74d", "m2", false⟩]

def rows_13_0 : List FirmwareRule := [
  ⟨"ata1", "syspath", "devices/pci0000:00/0000:00:01.2|ata1", "sata", true⟩,
  ⟨"ata2", "syspath", "devices/pci0000:00/0000:00:01.2|ata2", "sata", true⟩,
  ⟨"ata3", "syspath", "devices/pci0000:00/0000:00:01.2|ata3", "sata", true⟩,
  ⟨"ata4", "syspath", "devices/pci0000:00/0000:00:01.2|ata4", "sata", true⟩,
  ⟨"ata1", "syspath", "devices/pci0000:00/0000:00:01.1|nvme", "u2", true⟩,
  ⟨"ata2", "syspath", "devices/pci0000:00/0000:00:01.3|nvme", "u2", true⟩,
  ⟨"nvme1", "syspath", "devices/pci0000:00/0000:00:01.6|nvme", "m2", false⟩,
  ⟨"nvme2", "syspath", "devices/pci0000:00/0000:00:01.4|nvme", "m2", false⟩]

def rows_14_0 : List FirmwareRule := [
  ⟨"ata1", "syspath", "devices/pci0000:00/0000:00:06.0|ata1", "sata", true⟩,
  ⟨"ata2", "syspath", "devices/pci0000:00/0000:00:06.0|ata2", "sata", true⟩,
  ⟨"ata3", "syspath", "devices/pci0000:00/0000:00:06.0|ata3", "sata", true⟩,
  ⟨"ata4", "syspath", "devices/pci0000:00/0000:00:06.0|ata4", "sata", true⟩,
  ⟨"nvme1", "syspath", "devices/pci0000:00/0000:00:1c.2|nvme", "m2", false⟩,
  ⟨"nvme2", "syspath", "devices/pci0000:00/0000:00:1c.3|nvme", "m2", false⟩]

def rows_15_0 : List FirmwareRule := [
  ⟨"ata1", "ata_id", "ata3", "sata", true⟩,
  ⟨"ata2", "ata_id", "ata4", "sata", true⟩,
  ⟨"ata3", "ata_id", "ata5", "sata", true⟩,
  ⟨"ata4", "ata_id", "ata6", "sata", true⟩,
  ⟨"ata5", "ata_id", "ata1", "sata", true⟩,
  ⟨"ata6", "ata_id", "ata2", "sata", true⟩,
  ⟨"nvme1", "pcie_bridge_id", "8086:464d", "m2", false⟩,
  ⟨"nvme2", "pcie_bridge_id", "8086:51b8", "m2", false⟩,
  ⟨"nvme3", "pcie_bridge_id", "8086:463d", "pcie", false⟩]

def rows_16_0 : List FirmwareRule := [
  ⟨"ata1", "ata_id", "ata3", "sata", true⟩,
  ⟨"ata2", "ata_id", "ata4", "sata", true⟩,
  ⟨"ata3", "ata_id", "ata5", "sata", true⟩,
  ⟨"ata4", "ata_id", "ata6", "sata", true⟩,
  ⟨"ata5", "ata_id", "ata1", "sata", true⟩,
  ⟨"ata6", "ata_id", "ata2", "sata", true⟩,
  ⟨"nvme1", "pcie_bridge_id", "8086:a74d", "m2", false⟩,
  ⟨"nvme2", "pcie_bridge_id", "8086:51b8", "m2", false⟩,
  ⟨"nvme3", "pcie_bridge_id", "8086:a73d", "pcie", false⟩]

def rows_17_0 : List FirmwareRule := [
  ⟨"ata1", "ata_id", "ata3", "sata", true⟩,
  ⟨"ata2", "ata_id", "ata4", "sata", true⟩,
  ⟨"ata3", "ata_id", "ata5", "sata", true⟩,
  ⟨"ata4", "ata_id", "ata6", "sata", true⟩,
  ⟨"ata5", "ata_id", "ata1", "sata", true⟩,
  ⟨"ata6", "ata_id", "ata2", "sata", true⟩,
  ⟨"nvme1", "pcie_bridge_id", "8086:464d", "m2", false⟩,
  ⟨"nvme2", "pcie_bridge_id", "8086:51b8", "m2", false⟩,
  ⟨"nvme3", "pcie_bridge_id", "8086:463d", "pcie", false⟩]

def rows_18_0 : List FirmwareRule := [
  ⟨"ata1", "ata_id", "ata3", "sata", true⟩,
  ⟨"ata2", "ata_id", "ata4", "sata", true⟩,
  ⟨"ata3", "ata_id", "ata5", "sata", true⟩,
  ⟨"ata4", "ata_id", "ata6", "sata", true⟩,
  ⟨"ata5", "ata_id", "ata1", "sata", true⟩,
  ⟨"ata6", "ata_id", "ata2", "sata", true⟩,
  ⟨"nvme1", "pcie_bridge_id", "8086:464d", "m2", false⟩,
  ⟨"nvme2", "pcie_bridge_id", "8086:51b8", "m2", false⟩,
  ⟨"nvme3", "pcie_bridge_id", "8086:463d", "pcie", false⟩]

def rows_19_0 : List FirmwareRule := [
  ⟨"ata1", "ata_id", "ata3", "sata", true⟩,
  ⟨"ata2", "ata_id", "ata4", "sata", true⟩,
  ⟨"ata3", "ata_id", "ata5", "sata", true⟩,
  ⟨"ata4", "ata_id", "ata6", "sata", true⟩,
  ⟨"ata5", "ata_id", "ata1", "sata", true⟩,
  ⟨"ata6", "ata_id", "ata2", "sata", true⟩,
  ⟨"nvme1", "pcie_bridge_id", "8086:464d", "m2", false⟩,
  ⟨"nvme2", "pcie_bridge_id", "8086:51b8", "m2", false⟩,
  ⟨"nvme3", "pcie_bridge_id", "8086:463d", "pcie", false⟩]

def rows_20_0 : List FirmwareRule := [
  ⟨"ata1", "ata_id", "ata3", "sata", true⟩,
  ⟨"ata2", "ata_id", "ata4", "sata", true⟩,
  ⟨"ata3", "ata_id", "ata5", "sata", true⟩,
  ⟨"ata4", "ata_id", "ata6", "sata", true⟩,
  ⟨"ata5", "ata_id", "ata1", "sata", true⟩,
  ⟨"ata6", "ata_id", "ata2", "sata", true⟩,
  ⟨"nvme1", "pcie_bridge_id", "8086:a74d", "m2", false⟩,
  ⟨"nvme2", "pcie_bridge_id", "8086:51b8", "m2", false⟩,
  ⟨"nvme3", "pcie_bridge_id", "8086:a73d", "pcie", false⟩]

def rows_21_0 : List FirmwareRule := [
  ⟨"ata1", "ata_id", "ata1", "sata", true⟩,
  ⟨"ata2", "ata_id", "ata2", "sata", true⟩,
  ⟨"ata3", "ata_id", "ata3", "sata", true⟩,
  ⟨"ata4", "ata_id", "ata4", "sata", true⟩,
  ⟨"ata5", "ata_id", "ata5", "sata", true⟩,
  ⟨"ata6", "ata_id", "ata6", "sata", true⟩,
  ⟨"ata7", "ata_id", "ata7", "sata", true⟩,
  ⟨"ata8", "ata_id", "ata8", "sata", true⟩,
  ⟨"nvme1", "pcie_bridge_id", "8086:464d", "m2", false⟩,
  ⟨"nvme2", "pcie_bridge_id", "8086:51b8", "m2", false⟩,
  ⟨"nvme3", "pcie_bridge_id", "8086:463d", "pcie", false⟩]

def rows_22_0 : List FirmwareRule := [
  ⟨"ata1", "ata_id", "ata1", "sata", true⟩,
  ⟨"ata2", "ata_id", "ata2", "sata", true⟩,
  ⟨"ata3", "ata_id", "ata3", "sata", true⟩,
  ⟨"ata4", "ata_id", "ata4", "sata", true⟩,
  ⟨"ata5", "ata_id", "ata5", "sata", true⟩,
  ⟨"ata6", "ata_id", "ata6", "sata", true⟩,
  ⟨"ata7", "ata_id", "ata7", "sata", true⟩,
  ⟨"ata8", "ata_id", "ata8", "sata", true⟩,
  ⟨"nvme1", "pcie_bridge_id", "8086:a74d", "m2", false⟩,
  ⟨"nvme2", "pcie_bridge_id", "8086:51b8", "m2", false⟩,
  ⟨"nvme3", "pcie_bridge_id", "8086:a73d", "pcie", false⟩]

def rows_23_0 : List FirmwareRule := [
  ⟨"ata1", "ata_id", "ata1", "sata", true⟩,
  ⟨"ata2", "ata_id", "ata2", "sata", true⟩,
  ⟨"ata3", "ata_id", "ata3", "sata", true⟩,
  ⟨"ata4", "ata_id", "ata4", "sata", true⟩,
  ⟨"ata5", "ata_id", "ata5", "sata", true⟩,
  ⟨"ata6", "ata_id", "ata6", "sata", true⟩,
  ⟨"ata7", "ata_id", "ata7", "sata", true⟩,
  ⟨"ata8", "ata_id", "ata8", "sata", true⟩,
  ⟨"nvme1", "pcie_bridge_id", "8086:464d", "m2", false⟩,
  ⟨"nvme2", "pcie_bridge_id", "8086:51b8", "m2", false⟩,
  ⟨"nvme3", "pcie_bridge_id", "8086:463d", "pcie", false⟩]

def rows_24_0 : List FirmwareRule := [
  ⟨"ata1", "ata_id", "ata1", "sata", true⟩,
  ⟨"ata2", "ata_id", "ata2", "sata", true⟩,
  ⟨"ata3", "ata_id", "ata3", "sata", true⟩,
  ⟨"ata4", "ata_id", "ata4", "sata", true⟩,
  ⟨"ata5", "ata_id", "ata5", "sata", true⟩,
  ⟨"ata6", "ata_id", "ata6", "sata", true⟩,
  ⟨"ata7", "ata_id", "ata7", "sata", true⟩,
  ⟨"ata8", "ata_id", "ata8", "sata", true⟩,
  ⟨"nvme1", "pcie_bridge_id", "8086:464d", "m2", false⟩,
  ⟨"nvme2", "pcie_bridge_id", "8086:51b8", "m2", false⟩,
  ⟨"nvme3", "pcie_bridge_id", "8086:463d", "pcie", false⟩]

def rows_25_0 : List FirmwareRule := [
  ⟨"ata1", "ata_id", "ata1", "sata", true⟩,
  ⟨"ata2", "ata_id", "ata2", "sata", true⟩,
  ⟨"ata3", "ata_id", "ata3", "sata", true⟩,
  ⟨"ata4", "ata_id", "ata4", "sata", true⟩,
  ⟨"ata5", "ata_id", "ata5", "sata", true⟩,
  ⟨"ata6", "ata_id", "ata6", "sata", true⟩,
  ⟨"ata7", "ata_id", "ata7", "sata", true⟩,
  ⟨"ata8", "ata_id", "ata8", "sata", true⟩,
  ⟨"nvme1", "pcie_bridge_id", "8086:a74d", "m2", false⟩,
  ⟨"nvme2", "pcie_bridge_id", "8086:51b8", "m2", false⟩,
  ⟨"nvme3", "pcie_bridge_id", "8086:a73d", "pcie", false⟩]

def rows_26_0 : List FirmwareRule := [
  ⟨"nvme1", "pcie_address", "pci0000:00/0000:00:06.0/0000:01:00.0", "m2", false⟩,
  ⟨"nvme2", "pcie_address", "pci0000:00/0000:00:06.2/0000:02:00.0", "m2", false⟩,
  ⟨"nvme3", "pcie_bridge_id", "8086:51b2", "m2", false⟩,
  ⟨"nvme4", "pcie_bridge_id", "8086:51b8", "m2", false⟩]

def rows_27_0 : List FirmwareRule := [
  ⟨"ata1", "ata_id", "ata3", "sata", true⟩,
  ⟨"ata2", "ata_id", "ata4", "sata", true⟩,
  ⟨"ata3", "ata_id", "ata5", "sata", true⟩,
  ⟨"ata4", "ata_id", "ata6", "sata", true⟩,
  ⟨"ata5", "ata_id", "ata1", "sata", true⟩,
  ⟨"ata6", "ata_id", "ata2", "sata", true⟩,
  ⟨"nvme1", "pcie_bridge_id", "8086:7e4d", "m2", false⟩,
  ⟨"nvme2", "pcie_bridge_id", "8086:7eca", "m2", false⟩,
  ⟨"nvme3", "pcie_bridge_id", "8086:7ecc", "pcie", false⟩]

def rows_28_0 : List FirmwareRule := [
  ⟨"ata1", "ata_id", "ata3", "sata", true⟩,
  ⟨"ata2", "ata_id", "ata4", "sata", true⟩,
  ⟨"ata3", "ata_id", "ata5", "sata", true⟩,
  ⟨"ata4", "ata_id", "ata6", "sata", true⟩,
  ⟨"ata5", "ata_id", "ata1", "sata", true⟩,
  ⟨"ata6", "ata_id", "ata2", "sata", true⟩,
  ⟨"nvme1", "pcie_bridge_id", "8086:7e4d", "m2", false⟩,
  ⟨"nvme2", "pcie_bridge_id", "8086:7eca", "m2", false⟩,
  ⟨"nvme3", "pcie_bridge_id", "8086:7ecc", "pcie", false⟩]

def rows_29_0 : List FirmwareRule := [
  ⟨"ata1", "ata_id", "ata3", "sata", true⟩,
  ⟨"ata2", "ata_id", "ata4", "sata", true⟩,
  ⟨"ata3", "ata_id", "ata1", "sata", true⟩,
  ⟨"ata4", "ata_id", "ata2", "sata", true⟩,
  ⟨"ata5", "ata_id", "ata5", "sata", true⟩,
  ⟨"ata6", "ata_id", "ata6", "sata", true⟩,
  ⟨"nvme1", "pcie_bridge_id", "8086:7eca", "m2", false⟩,
  ⟨"nvme2", "pcie_bridge_id", "8086:7ecb", "m2", false⟩,
  ⟨"nvme3", "pcie_address", "pci0000:00/0000:00:01.0/0000:01:00.0", "pcie", false⟩]

def rows_30_0 : List FirmwareRule := [
  ⟨"ata1", "ata_id", "ata3", "sata", true⟩,
  ⟨"ata2", "ata_id", "ata4", "sata", true⟩,
  ⟨"ata3", "ata_id", "ata1", "sata", true⟩,
  ⟨"ata4", "ata_id", "ata2", "sata", true⟩,
  ⟨"ata5", "ata_id", "ata5", "sata", true⟩,
  ⟨"ata6", "ata_id", "ata6", "sata", true⟩,
  ⟨"nvme1", "pcie_bridge_id", "8086:e361", "m2", false⟩,
  ⟨"nvme2", "pcie_bridge_id", "8086:e366", "m2", false⟩,
  ⟨"nvme3", "pcie_bridge_id", "8086:e365", "pcie", false⟩]

def rows_32_0 : List FirmwareRule := [
  ⟨"ata1", "ata_id", "ata2", "sata", false⟩,
  ⟨"ata2", "ata_id", "ata1", "sata", false⟩]

def rows_32_1 : List FirmwareRule := [
  ⟨"ata1", "ata_id", "ata2", "sata", false⟩,
  ⟨"ata2", "ata_id", "ata1", "sata", false⟩]

def rows_32_2 : List FirmwareRule := [
  ⟨"ata1", "ata_id", "ata2", "sata", false⟩,
  ⟨"ata2", "ata_id", "ata1", "sata", false⟩]

def rows_33_0 : List FirmwareRule := [
  ⟨"ata1", "ata_id", "ata2", "sata", false⟩,
  ⟨"ata2", "ata_id", "ata1", "sata", false⟩,
  ⟨"ata3", "ata_id", "ata4", "sata", false⟩,
  ⟨"ata4", "ata_id", "ata3", "sata", false⟩]

def rows_33_1 : List FirmwareRule := [
  ⟨"ata1", "ata_id", "ata2", "sata", false⟩,
  ⟨"ata2", "ata_id", "ata1", "sata", false⟩,
  ⟨"ata3", "ata_id", "ata4", "sata", false⟩,
  ⟨"ata4", "ata_id", "ata3", "sata", false⟩]

def layouts : List FirmwareLayout := [
  ⟨"DH2600", "rev1", rows_0_0⟩,
  ⟨"DXP2800", "rev1", rows_1_0⟩,
  ⟨"DXP2800", "rev2", rows_1_1⟩,
  ⟨"DXP2800S", "rev1", rows_2_0⟩,
  ⟨"DX4600 Pro", "rev1", rows_3_0⟩,
  ⟨"DXP2800 GT", "rev1", rows_4_0⟩,
  ⟨"DXP2800 GT", "rev2", rows_4_1⟩,
  ⟨"DX4600+", "rev1", rows_5_0⟩,
  ⟨"DX4600", "rev1", rows_6_0⟩,
  ⟨"DX4700", "rev1", rows_7_0⟩,
  ⟨"DX4700+", "rev1", rows_8_0⟩,
  ⟨"DXP4800", "rev1", rows_9_0⟩,
  ⟨"DXP4800S", "rev1", rows_10_0⟩,
  ⟨"DXP4800 Plus", "rev1", rows_11_0⟩,
  ⟨"DXP4800 Pro", "rev1", rows_12_0⟩,
  ⟨"DXP4800 Pro", "rev2", rows_12_1⟩,
  ⟨"DXP4800 GT", "rev1", rows_13_0⟩,
  ⟨"DXP4900", "rev1", rows_14_0⟩,
  ⟨"DXP6800", "rev1", rows_15_0⟩,
  ⟨"DXP6800S", "rev1", rows_16_0⟩,
  ⟨"DXP6800 Plus", "rev1", rows_17_0⟩,
  ⟨"DXP6800 Pro", "rev1", rows_18_0⟩,
  ⟨"FORT 6", "rev1", rows_19_0⟩,
  ⟨"DXP6800 Ultra", "rev1", rows_20_0⟩,
  ⟨"DXP8800", "rev1", rows_21_0⟩,
  ⟨"DXP8800S", "rev1", rows_22_0⟩,
  ⟨"DXP8800 Plus", "rev1", rows_23_0⟩,
  ⟨"DXP8800 Pro", "rev1", rows_24_0⟩,
  ⟨"DXP8800 Ultra", "rev1", rows_25_0⟩,
  ⟨"DXP480T Plus", "rev1", rows_26_0⟩,
  ⟨"iDX6011", "rev1", rows_27_0⟩,
  ⟨"iDX6012", "rev1", rows_28_0⟩,
  ⟨"iDX6011 Pro", "rev1", rows_29_0⟩,
  ⟨"iDX6021", "rev1", rows_30_0⟩,
  ⟨"DH2300", "rev1", rows_32_0⟩,
  ⟨"DH2300", "rev2", rows_32_1⟩,
  ⟨"DH2300", "rev3", rows_32_2⟩,
  ⟨"DH4300 Plus", "rev1", rows_33_0⟩,
  ⟨"DH4300 Plus", "rev2", rows_33_1⟩]

def ugreenctl_disk_firmware_layout (model revision : Text) : Option FirmwareLayout :=
  layouts.find? fun layout => model = layout.model && revision = layout.revision

end UgreenNas.DiskMap
