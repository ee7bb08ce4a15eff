/-!
# SerialLink.Port.Info

What is known about a port that is present on a system.
-/

namespace SerialLink

/-- A device on the universal serial bus. -/
structure UsbDevice where
  vendorId : Nat
  productId : Nat
  manufacturer : Option String
  product : Option String
  serialNumber : Option String
  deriving DecidableEq, Repr

/-- What kind of device a port belongs to. -/
inductive PortKind where
  | usb (device : UsbDevice)
  | bluetooth
  | pci
  | unknown
  deriving DecidableEq, Repr

/-- A port that is present. -/
structure PortInfo where
  name : String
  description : String
  vendorId : Option Nat
  productId : Option Nat
  manufacturer : Option String
  serialNumber : Option String
  deriving DecidableEq, Repr

/-- A number below `2 ^ 16` as four lower-case hexadecimal digits. -/
def hexWord (n : Nat) : String :=
  String.ofList <|
    [n / 4096 % 16, n / 256 % 16, n / 16 % 16, n % 16].map Nat.digitChar

/-- A device is described by its manufacturer and its product, as far as they are known,
and by its numbers if neither is. -/
def UsbDevice.description (d : UsbDevice) : String :=
  match d.manufacturer, d.product with
  | some m, some p => m ++ " " ++ p
  | none, some p => p
  | some m, none => m
  | none, none => "USB device " ++ hexWord d.vendorId ++ ":" ++ hexWord d.productId

namespace PortInfo

/-- A port of which only the name is known; it describes itself by it. -/
def named (name : String) : PortInfo := ⟨name, name, none, none, none, none⟩

/-- What is known of a port from the kind of its device. -/
def ofKind (name : String) : PortKind → PortInfo
  | .usb d =>
    ⟨name, d.description, some d.vendorId, some d.productId, d.manufacturer, d.serialNumber⟩
  | .bluetooth => { named name with description := "Bluetooth serial port" }
  | .pci => { named name with description := "PCI serial port" }
  | .unknown => named name

end PortInfo

end SerialLink
