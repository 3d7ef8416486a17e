import SwitchPlatform.Text.Numeral

/-!
# Transceiver modules

The pages of a module's memory, the kinds of modules by the first byte of the identification page,
and the controls of a port.
-/

namespace SwitchPlatform

/-- The size of a page of a module's memory. -/
def pageSize : Nat := 256

/-- The bus address of the identification page. -/
def identificationAddress : Nat := 0x50

/-- The bus address of the diagnostics page. -/
def diagnosticsAddress : Nat := 0x51

/-- The kinds of modules. -/
inductive ModuleKind
  | sfp
  | qsfp
  | qsfpPlus
  | qsfp28
  | qsfpDd
  | osfp
  | unknown (byte : UInt8)
  deriving DecidableEq

namespace ModuleKind

/-- The kind that an identifier byte stands for. -/
def ofByte (b : UInt8) : ModuleKind :=
  if b = 0x03 then sfp
  else if b = 0x0C then qsfp
  else if b = 0x0D then qsfpPlus
  else if b = 0x11 then qsfp28
  else if b = 0x18 then qsfpDd
  else if b = 0x19 then osfp
  else unknown b

/-- The kind of a module by its identification page; an empty page is unknown. -/
def ofPage (page : List UInt8) : ModuleKind :=
  match page with
  | [] => unknown 0
  | b :: _ => ofByte b

/-- The name of a kind. -/
def name : ModuleKind → String
  | sfp => "SFP/SFP+/SFP28"
  | qsfp => "QSFP"
  | qsfpPlus => "QSFP+"
  | qsfp28 => "QSFP28"
  | qsfpDd => "QSFP-DD"
  | osfp => "OSFP"
  | unknown b => "unknown (" ++ Text.prefixedHex 2 b.toNat ++ ")"

end ModuleKind

/-- The controls of a port. -/
inductive PortControl
  /-- A pulse on the reset line. -/
  | reset
  /-- Whether the module is held in reset. -/
  | resetState
  | rxLos
  | txFault
  | txDisable
  | lpMode
  | powerOverride
  deriving DecidableEq, Repr

namespace PortControl

/-- Every control. -/
def all : List PortControl :=
  [reset, resetState, rxLos, txFault, txDisable, lpMode, powerOverride]

/-- The name of a control. -/
def name : PortControl → String
  | reset => "reset"
  | resetState => "reset-state"
  | rxLos => "rx-los"
  | txFault => "tx-fault"
  | txDisable => "tx-disable"
  | lpMode => "lp-mode"
  | powerOverride => "power-override"

/-- The control with a given name. -/
def ofName? (s : String) : Option PortControl :=
  all.find? (·.name == s)

theorem ofName?_name (c : PortControl) : ofName? c.name = some c := by
  cases c <;> decide

end PortControl

end SwitchPlatform
