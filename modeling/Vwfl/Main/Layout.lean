import Mathlib.Tactic

namespace vwfl.main

def KRNL_PBASE : UInt64 := 0x200000

def HAL_PBASE : UInt64 := 0x2000000

def SYSTEM_BASE : UInt64 := 0x8000000

def LPB_PBASE : UInt64 := 0x4000000

def KPCR_PBASE : UInt64 := LPB_PBASE + 0x10000

def ACPI_PBASE : UInt64 := 0x5000000

def KUSER_PBASE : UInt64 := 0x9000000

def STACK_PBASE : UInt64 := 0x0A000000

def K_VIRT_ANY : UInt64 := 0xFFFFF80000000000

def LPB_VBASE : UInt64 := K_VIRT_ANY + LPB_PBASE

def KPCR_VBASE : UInt64 := LPB_VBASE + 0x10000

def ACPI_VBASE : UInt64 := K_VIRT_ANY + ACPI_PBASE

def STACK_VIRT_BASE : UInt64 := 0xFFFFFE8000000000

def STACK_VBASE : UInt64 := STACK_VIRT_BASE

end vwfl.main
