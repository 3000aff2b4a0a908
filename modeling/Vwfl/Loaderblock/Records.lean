import Vwfl.Rust.ReprC
import Vwfl.Rust.Slice

open ReprC LittleEndian

namespace vwfl.loaderblock


/-- Processor control region. Fields that `setup` leaves zero are given by their
    type only. -/
def KPCR (GdtBase TssBase SelfPcr CurrentPrcb Used_Self IdtBase : UInt64) (MajorVersion MinorVersion : UInt16)
    (StallScaleFactor : UInt32) : List UInt8 :=
  layout 16 [
    .u64 GdtBase, .u64 TssBase,
    .zeros 1 8, -- UserRsp
    .u64 SelfPcr, .u64 CurrentPrcb,
    .zeros 1 8, -- LockArray
    .u64 Used_Self, .u64 IdtBase,
    .zeros 2 8, -- Unused
    .zeros 4 1, -- Irql, SecondLevelCacheAssociativity, ObsoleteNumber, Fill0
    .zeros 3 4, -- Unused0
    .u16 MajorVersion, .u16 MinorVersion, .u32 StallScaleFactor,
    .zeros 3 8, -- Unused1
    .zeros 15 4, -- KernelReserved
    .zeros 1 4, -- SecondLevelCacheSize
    .zeros 16 4, -- HalReserved
    .zeros 2 4, -- Unused2, Padding_Align
    .zeros 2 8, -- KdVersionBlock, Unused3
    .zeros 24 4] -- PcrAlign1

/-- Processor control block, with the special registers of its processor state. -/
def KPRCB (MxCsr : UInt32) (RspBase : UInt64) (MHz : UInt32) (MinorVersion MajorVersion : UInt16)
    (TscFrequency Cr0 Cr3 Cr4 : UInt64) : List UInt8 :=
  layout 64 [
    .u32 MxCsr,
    .zeros 4 1, -- LegacyNumber, ReservedMustBeZero, InterruptRequest, IdleHalt
    .zeros 3 8, -- CurrentThread, NextThread, IdleThread
    .zeros 4 1, -- NestingLevel, ClockOwner, PendingTickFlags, IdleState
    .zeros 1 4, -- Number
    .u64 RspBase,
    .zeros 2 8, -- PrcbLock, PriorityState
    .zeros 2 1, -- CpuType, CpuID
    .zeros 1 2, -- CpuStep
    .u32 MHz,
    .zeros 8 8, -- HalReserved
    .u16 MinorVersion, .u16 MajorVersion,
    .zeros 4 1, -- BuildType, CpuVendor, LegacyCoresPerPhysicalProcessor, LegacyLogicalProcessorsPerCore
    .u64 TscFrequency,
    .zeros 2 4, -- CoresPerPhysicalProcessor, LogicalProcessorsPerCore
    .zeros 4 8, -- PrcbPad04
    .zeros 2 8, -- ParentNode, GroupSetMember
    .zeros 4 1, -- Group, GroupIndex, PrcbPad05
    .zeros 3 4, -- InitialApicId, ScbOffset, ApicMask
    .zeros 1 8, -- AcpiReserved
    .zeros 1 4, -- CFlushSize
    .zeros 2 8, -- PrcbPad11
    .u64 Cr0,
    .zeros 1 8, -- Cr2
    .u64 Cr3, .u64 Cr4,
    .zeros 6 8, -- KernelDr0 to KernelDr7
    .zeros 32 1, -- Gdtr, Idtr
    .zeros 2 2, -- Tr, Ldtr
    .zeros 1 4, -- MxCsr
    .zeros 15 8, -- DebugControl to SpecialPadding0
    .zeros 0x4d0 1, -- ContextFrame
    .zeros 1 8, -- ExtendedSupervisorState
    .zeros 2 4, -- ProcessorSignature, ProcessorFlags
    .zeros 4 8] -- PrcbPad12a, PrcbPad12

def LOADER_PARAMETER_BLOCK (OsMajorVersion Size : UInt32) (KernelStack Prcb Process Thread : UInt64)
    (KernelStackSize RegistryLength : UInt32) (RegistryBase LoadOptions NlsData Extension : UInt64) : List UInt8 :=
  layout 8 [
    .u32 OsMajorVersion,
    .zeros 1 4, -- OsMinorVersion
    .u32 Size,
    .zeros 1 4, -- OsLoaderSecurityVersion
    .zeros 14 8, -- seven list heads, LoadOrderListHead to TpmCoreDriverListHead
    .u64 KernelStack, .u64 Prcb, .u64 Process, .u64 Thread,
    .u32 KernelStackSize, .u32 RegistryLength, .u64 RegistryBase,
    .zeros 5 8, -- ConfigurationRoot to NtHalPathName
    .u64 LoadOptions, .u64 NlsData,
    .zeros 1 8, -- ArcDiskInformation
    .u64 Extension,
    .zeros 16 1, -- u
    .zeros 64 1, -- FirmwareInformation
    .zeros 3 8] -- OsBootstatPathName, ArcOSDataDeviceName, ArcWindowsSysPartName

def MEMORY_ALLOCATION_DESCRIPTOR (MemoryType : UInt32) (BasePage PageCount : UInt64) : List UInt8 :=
  layout 8 [
    .zeros 2 8, -- ListEntry
    .u32 MemoryType, .u64 BasePage, .u64 PageCount]

def LOADER_PARAMETER_EXTENSION (Size Bitfields : UInt32) (HalExtensionFlink HalExtensionBlink : UInt64)
    (MajorRelease MinorRelease : UInt32) : List UInt8 :=
  layout 8 [
    .u32 Size,
    .zeros 0x14 1, -- Profile
    .zeros 1 8, .zeros 1 4, -- EmInfFileImage, EmInfFileSize
    .zeros 3 8, -- TriageDumpBlock, HeadlessLoaderBlock, SMBiosEPSHeader
    .zeros 1 8, .zeros 1 4, -- DrvDBImage, DrvDBSize
    .zeros 1 8, .zeros 1 4, -- DrvDBPatchImage, DrvDBPatchSize
    .zeros 3 8, -- NetworkLoaderBlock, FirmwareDescriptorListHead
    .zeros 1 8, .zeros 1 4, -- AcpiTable, AcpiTableSize
    .u32 Bitfields,
    .zeros 0x60 1, -- LoaderPerformanceData
    .zeros 2 8, -- BootApplicationPersistentData
    .zeros 0x8D0 1, -- Padding1
    .zeros 1 8, -- ProcessorCounterFrequency
    .zeros 0x40 1, -- HypervisorExtension
    .zeros 16 1, -- HardwareConfigurationId
    .u64 HalExtensionFlink, .u64 HalExtensionBlink,
    .zeros 4 8, -- SystemTime to InternalBootFlags
    .zeros 1 8, .zeros 1 4, -- WfsFPData, WfsFPDataSize
    .zeros 0x28 1, -- BugcheckParameters
    .zeros 1 8, .zeros 1 4, -- ApiSetSchema, ApiSetSchemaSize
    .zeros 2 8, -- ApiSetSchemaExtensions
    .zeros 0x390 1, -- PaddingFinal
    .u32 MajorRelease, .u32 MinorRelease]

def LDR_DATA_TABLE_ENTRY (DllBase EntryPoint : UInt64) (SizeOfImage : UInt32) (Length MaximumLength : UInt16)
    (Buffer : UInt64) (Flags : UInt32) (ObsoleteLoadCount : UInt16) : List UInt8 :=
  layout 8 [
    .zeros 6 8, -- InLoadOrderLinks, InMemoryOrderLinks, InInitializationOrderLinks
    .u64 DllBase, .u64 EntryPoint, .u32 SizeOfImage,
    .zeros 1 4, -- Padding_After_Size
    .u16 Length, .u16 MaximumLength, .u64 Buffer, -- FullDllName
    .u16 Length, .u16 MaximumLength, .u64 Buffer, -- BaseDllName
    .u32 Flags, .u16 ObsoleteLoadCount,
    .zeros 1 2, -- TlsIndex
    .zeros 2 8, -- HashLinks
    .zeros 1 4, -- TimeDateStamp
    .zeros 8 8, -- EntryPointActivationContext to SwitchBackContext
    .zeros 48 1, -- BaseAddressIndexNode, MappingInfoIndexNode
    .zeros 2 8, -- OriginalBase, LoadTime
    .zeros 5 4, -- BaseNameHashValue to DependentLoadFlags
    .zeros 4 1] -- SigningLevel, Padding_Final

/-- Pointers to the code page and case tables. -/
def NLS_DATA_BLOCK (AnsiCodePageData OemCodePageData UnicodeCaseTableData AppXDefaultRegion DefaultLocale : UInt64) :
    List UInt8 :=
  layout 8 [.u64 AnsiCodePageData, .u64 OemCodePageData, .u64 UnicodeCaseTableData, .u64 AppXDefaultRegion,
    .u64 DefaultLocale]

/-- The structures have the sizes that the code copies, and the loader extension
    is eight bytes longer. -/
theorem length_KPCR (GdtBase TssBase SelfPcr CurrentPrcb Used_Self IdtBase : UInt64)
    (MajorVersion MinorVersion : UInt16) (StallScaleFactor : UInt32) :
    (KPCR GdtBase TssBase SelfPcr CurrentPrcb Used_Self IdtBase MajorVersion MinorVersion StallScaleFactor).length =
      0x180 := by
  simp [KPCR, length_layout, placeEnd, padding]

theorem length_KPRCB (MxCsr : UInt32) (RspBase : UInt64) (MHz : UInt32) (MinorVersion MajorVersion : UInt16)
    (TscFrequency Cr0 Cr3 Cr4 : UInt64) :
    (KPRCB MxCsr RspBase MHz MinorVersion MajorVersion TscFrequency Cr0 Cr3 Cr4).length = 0x700 := by
  simp [KPRCB, length_layout, placeEnd, padding]

theorem length_LOADER_PARAMETER_BLOCK (OsMajorVersion Size : UInt32) (KernelStack Prcb Process Thread : UInt64)
    (KernelStackSize RegistryLength : UInt32) (RegistryBase LoadOptions NlsData Extension : UInt64) :
    (LOADER_PARAMETER_BLOCK OsMajorVersion Size KernelStack Prcb Process Thread KernelStackSize RegistryLength
      RegistryBase LoadOptions NlsData Extension).length = 0x160 := by
  simp [LOADER_PARAMETER_BLOCK, length_layout, placeEnd, padding]

/-- The tables, the region itself and its control block at their offsets. -/
theorem fields_KPCR (GdtBase TssBase SelfPcr CurrentPrcb Used_Self IdtBase : UInt64)
    (MajorVersion MinorVersion : UInt16) (StallScaleFactor : UInt32) :
    let record := KPCR GdtBase TssBase SelfPcr CurrentPrcb Used_Self IdtBase MajorVersion MinorVersion StallScaleFactor
    (record.drop 0).take 8 = ofUInt64 GdtBase ∧ (record.drop 0x8).take 8 = ofUInt64 TssBase ∧
      (record.drop 0x18).take 8 = ofUInt64 SelfPcr ∧ (record.drop 0x20).take 8 = ofUInt64 CurrentPrcb ∧
      (record.drop 0x30).take 8 = ofUInt64 Used_Self ∧ (record.drop 0x38).take 8 = ofUInt64 IdtBase := by
  refine ⟨?_, ?_, ?_, ?_, ?_, ?_⟩
  · exact take_drop_layout 16 [] (.u64 GdtBase) _ (by simp [placeEnd, padding])
  · exact take_drop_layout 16 [.u64 GdtBase] (.u64 TssBase) _ (by simp [placeEnd, padding])
  · exact take_drop_layout 16 [.u64 GdtBase, .u64 TssBase, .zeros 1 8] (.u64 SelfPcr) _ (by simp [placeEnd, padding])
  · exact take_drop_layout 16 [.u64 GdtBase, .u64 TssBase, .zeros 1 8, .u64 SelfPcr] (.u64 CurrentPrcb) _
      (by simp [placeEnd, padding])
  · exact take_drop_layout 16 [.u64 GdtBase, .u64 TssBase, .zeros 1 8, .u64 SelfPcr, .u64 CurrentPrcb, .zeros 1 8]
      (.u64 Used_Self) _ (by simp [placeEnd, padding])
  · exact take_drop_layout 16 [.u64 GdtBase, .u64 TssBase, .zeros 1 8, .u64 SelfPcr, .u64 CurrentPrcb, .zeros 1 8,
      .u64 Used_Self] (.u64 IdtBase) _ (by simp [placeEnd, padding])

/-- The stack and the copies of the control registers at their offsets. -/
theorem fields_KPRCB (MxCsr : UInt32) (RspBase : UInt64) (MHz : UInt32) (MinorVersion MajorVersion : UInt16)
    (TscFrequency Cr0 Cr3 Cr4 : UInt64) :
    let record := KPRCB MxCsr RspBase MHz MinorVersion MajorVersion TscFrequency Cr0 Cr3 Cr4
    (record.drop 0x28).take 8 = ofUInt64 RspBase ∧ (record.drop 0x100).take 8 = ofUInt64 Cr0 ∧
      (record.drop 0x110).take 8 = ofUInt64 Cr3 ∧ (record.drop 0x118).take 8 = ofUInt64 Cr4 := by
  refine ⟨?_, ?_, ?_, ?_⟩
  · exact take_drop_layout 64 [.u32 MxCsr, .zeros 4 1, .zeros 3 8, .zeros 4 1, .zeros 1 4] (.u64 RspBase) _
      (by simp [placeEnd, padding])
  · exact take_drop_layout 64 [.u32 MxCsr, .zeros 4 1, .zeros 3 8, .zeros 4 1, .zeros 1 4, .u64 RspBase, .zeros 2 8,
      .zeros 2 1, .zeros 1 2, .u32 MHz, .zeros 8 8, .u16 MinorVersion, .u16 MajorVersion, .zeros 4 1,
      .u64 TscFrequency, .zeros 2 4, .zeros 4 8, .zeros 2 8, .zeros 4 1, .zeros 3 4, .zeros 1 8, .zeros 1 4,
      .zeros 2 8] (.u64 Cr0) _ (by simp [placeEnd, padding])
  · exact take_drop_layout 64 [.u32 MxCsr, .zeros 4 1, .zeros 3 8, .zeros 4 1, .zeros 1 4, .u64 RspBase, .zeros 2 8,
      .zeros 2 1, .zeros 1 2, .u32 MHz, .zeros 8 8, .u16 MinorVersion, .u16 MajorVersion, .zeros 4 1,
      .u64 TscFrequency, .zeros 2 4, .zeros 4 8, .zeros 2 8, .zeros 4 1, .zeros 3 4, .zeros 1 8, .zeros 1 4,
      .zeros 2 8, .u64 Cr0, .zeros 1 8] (.u64 Cr3) _ (by simp [placeEnd, padding])
  · exact take_drop_layout 64 [.u32 MxCsr, .zeros 4 1, .zeros 3 8, .zeros 4 1, .zeros 1 4, .u64 RspBase, .zeros 2 8,
      .zeros 2 1, .zeros 1 2, .u32 MHz, .zeros 8 8, .u16 MinorVersion, .u16 MajorVersion, .zeros 4 1,
      .u64 TscFrequency, .zeros 2 4, .zeros 4 8, .zeros 2 8, .zeros 4 1, .zeros 3 4, .zeros 1 8, .zeros 1 4,
      .zeros 2 8, .u64 Cr0, .zeros 1 8, .u64 Cr3] (.u64 Cr4) _ (by simp [placeEnd, padding])

/-- What the loader block names: the stack, the control block, the hive, the
    options, the code pages and the extension. -/
theorem fields_LOADER_PARAMETER_BLOCK (OsMajorVersion Size : UInt32) (KernelStack Prcb Process Thread : UInt64)
    (KernelStackSize RegistryLength : UInt32) (RegistryBase LoadOptions NlsData Extension : UInt64) :
    let record := LOADER_PARAMETER_BLOCK OsMajorVersion Size KernelStack Prcb Process Thread KernelStackSize
      RegistryLength RegistryBase LoadOptions NlsData Extension
    (record.drop 0x80).take 8 = ofUInt64 KernelStack ∧ (record.drop 0x88).take 8 = ofUInt64 Prcb ∧
      (record.drop 0xA8).take 8 = ofUInt64 RegistryBase ∧ (record.drop 0xD8).take 8 = ofUInt64 LoadOptions ∧
      (record.drop 0xE0).take 8 = ofUInt64 NlsData ∧ (record.drop 0xF0).take 8 = ofUInt64 Extension := by
  refine ⟨?_, ?_, ?_, ?_, ?_, ?_⟩
  · exact take_drop_layout 8 [.u32 OsMajorVersion, .zeros 1 4, .u32 Size, .zeros 1 4, .zeros 14 8] (.u64 KernelStack) _
      (by simp [placeEnd, padding])
  · exact take_drop_layout 8 [.u32 OsMajorVersion, .zeros 1 4, .u32 Size, .zeros 1 4, .zeros 14 8, .u64 KernelStack]
      (.u64 Prcb) _ (by simp [placeEnd, padding])
  · exact take_drop_layout 8 [.u32 OsMajorVersion, .zeros 1 4, .u32 Size, .zeros 1 4, .zeros 14 8, .u64 KernelStack,
      .u64 Prcb, .u64 Process, .u64 Thread, .u32 KernelStackSize, .u32 RegistryLength] (.u64 RegistryBase) _
      (by simp [placeEnd, padding])
  · exact take_drop_layout 8 [.u32 OsMajorVersion, .zeros 1 4, .u32 Size, .zeros 1 4, .zeros 14 8, .u64 KernelStack,
      .u64 Prcb, .u64 Process, .u64 Thread, .u32 KernelStackSize, .u32 RegistryLength, .u64 RegistryBase, .zeros 5 8]
      (.u64 LoadOptions) _ (by simp [placeEnd, padding])
  · exact take_drop_layout 8 [.u32 OsMajorVersion, .zeros 1 4, .u32 Size, .zeros 1 4, .zeros 14 8, .u64 KernelStack,
      .u64 Prcb, .u64 Process, .u64 Thread, .u32 KernelStackSize, .u32 RegistryLength, .u64 RegistryBase, .zeros 5 8,
      .u64 LoadOptions] (.u64 NlsData) _ (by simp [placeEnd, padding])
  · exact take_drop_layout 8 [.u32 OsMajorVersion, .zeros 1 4, .u32 Size, .zeros 1 4, .zeros 14 8, .u64 KernelStack,
      .u64 Prcb, .u64 Process, .u64 Thread, .u32 KernelStackSize, .u32 RegistryLength, .u64 RegistryBase, .zeros 5 8,
      .u64 LoadOptions, .u64 NlsData, .zeros 1 8] (.u64 Extension) _ (by simp [placeEnd, padding])

theorem length_MEMORY_ALLOCATION_DESCRIPTOR (MemoryType : UInt32) (BasePage PageCount : UInt64) :
    (MEMORY_ALLOCATION_DESCRIPTOR MemoryType BasePage PageCount).length = 0x28 := by
  simp [MEMORY_ALLOCATION_DESCRIPTOR, length_layout, placeEnd, padding]

/-- Fields of a memory descriptor at their offsets. -/
theorem fields_MEMORY_ALLOCATION_DESCRIPTOR (MemoryType : UInt32) (BasePage PageCount : UInt64) :
    let record := MEMORY_ALLOCATION_DESCRIPTOR MemoryType BasePage PageCount
    (record.drop 0x10).take 4 = ofUInt32 MemoryType ∧ (record.drop 0x18).take 8 = ofUInt64 BasePage ∧
      (record.drop 0x20).take 8 = ofUInt64 PageCount := by
  refine ⟨?_, ?_, ?_⟩
  · exact take_drop_layout 8 [.zeros 2 8] (.u32 MemoryType) [.u64 BasePage, .u64 PageCount]
      (by simp [placeEnd, padding])
  · exact take_drop_layout 8 [.zeros 2 8, .u32 MemoryType] (.u64 BasePage) [.u64 PageCount]
      (by simp [placeEnd, padding])
  · exact take_drop_layout 8 [.zeros 2 8, .u32 MemoryType, .u64 BasePage] (.u64 PageCount) []
      (by simp [placeEnd, padding])

theorem length_LOADER_PARAMETER_EXTENSION (Size Bitfields : UInt32) (HalExtensionFlink HalExtensionBlink : UInt64)
    (MajorRelease MinorRelease : UInt32) :
    (LOADER_PARAMETER_EXTENSION Size Bitfields HalExtensionFlink HalExtensionBlink MajorRelease
      MinorRelease).length = 0xE40 := by
  simp [LOADER_PARAMETER_EXTENSION, length_layout, placeEnd, padding]

/-- HalExtensionModuleList lies eight bytes behind the offset that its comment
    gives, where the identifier in front of it ends. -/
theorem fields_LOADER_PARAMETER_EXTENSION (Size Bitfields : UInt32) (HalExtensionFlink HalExtensionBlink : UInt64)
    (MajorRelease MinorRelease : UInt32) :
    let record := LOADER_PARAMETER_EXTENSION Size Bitfields HalExtensionFlink HalExtensionBlink MajorRelease
      MinorRelease
    (record.drop 0xA10).take 16 = List.replicate 16 0 ∧ (record.drop 0xA20).take 8 = ofUInt64 HalExtensionFlink ∧
      (record.drop 0xA28).take 8 = ofUInt64 HalExtensionBlink := by
  refine ⟨?_, ?_, ?_⟩
  · exact take_drop_layout 8 [.u32 Size, .zeros 0x14 1, .zeros 1 8, .zeros 1 4, .zeros 3 8, .zeros 1 8, .zeros 1 4,
      .zeros 1 8, .zeros 1 4, .zeros 3 8, .zeros 1 8, .zeros 1 4, .u32 Bitfields, .zeros 0x60 1, .zeros 2 8,
      .zeros 0x8D0 1, .zeros 1 8, .zeros 0x40 1] (.zeros 16 1) _ (by simp [placeEnd, padding])
  · exact take_drop_layout 8 [.u32 Size, .zeros 0x14 1, .zeros 1 8, .zeros 1 4, .zeros 3 8, .zeros 1 8, .zeros 1 4,
      .zeros 1 8, .zeros 1 4, .zeros 3 8, .zeros 1 8, .zeros 1 4, .u32 Bitfields, .zeros 0x60 1, .zeros 2 8,
      .zeros 0x8D0 1, .zeros 1 8, .zeros 0x40 1, .zeros 16 1] (.u64 HalExtensionFlink) _ (by simp [placeEnd, padding])
  · exact take_drop_layout 8 [.u32 Size, .zeros 0x14 1, .zeros 1 8, .zeros 1 4, .zeros 3 8, .zeros 1 8, .zeros 1 4,
      .zeros 1 8, .zeros 1 4, .zeros 3 8, .zeros 1 8, .zeros 1 4, .u32 Bitfields, .zeros 0x60 1, .zeros 2 8,
      .zeros 0x8D0 1, .zeros 1 8, .zeros 0x40 1, .zeros 16 1, .u64 HalExtensionFlink] (.u64 HalExtensionBlink) _
      (by simp [placeEnd, padding])

theorem length_LDR_DATA_TABLE_ENTRY (DllBase EntryPoint : UInt64) (SizeOfImage : UInt32)
    (Length MaximumLength : UInt16) (Buffer : UInt64) (Flags : UInt32) (ObsoleteLoadCount : UInt16) :
    (LDR_DATA_TABLE_ENTRY DllBase EntryPoint SizeOfImage Length MaximumLength Buffer Flags
      ObsoleteLoadCount).length = 0x120 := by
  simp [LDR_DATA_TABLE_ENTRY, length_layout, placeEnd, padding]

/-- Base, entry, size and names of a module at their offsets. -/
theorem fields_LDR_DATA_TABLE_ENTRY (DllBase EntryPoint : UInt64) (SizeOfImage : UInt32)
    (Length MaximumLength : UInt16) (Buffer : UInt64) (Flags : UInt32) (ObsoleteLoadCount : UInt16) :
    let record := LDR_DATA_TABLE_ENTRY DllBase EntryPoint SizeOfImage Length MaximumLength Buffer Flags
      ObsoleteLoadCount
    (record.drop 0x30).take 8 = ofUInt64 DllBase ∧ (record.drop 0x38).take 8 = ofUInt64 EntryPoint ∧
      (record.drop 0x40).take 4 = ofUInt32 SizeOfImage ∧ (record.drop 0x50).take 8 = ofUInt64 Buffer ∧
      (record.drop 0x58).take 2 = ofUInt16 Length ∧ (record.drop 0x60).take 8 = ofUInt64 Buffer := by
  refine ⟨?_, ?_, ?_, ?_, ?_, ?_⟩
  · exact take_drop_layout 8 [.zeros 6 8] (.u64 DllBase) _ (by simp [placeEnd, padding])
  · exact take_drop_layout 8 [.zeros 6 8, .u64 DllBase] (.u64 EntryPoint) _ (by simp [placeEnd, padding])
  · exact take_drop_layout 8 [.zeros 6 8, .u64 DllBase, .u64 EntryPoint] (.u32 SizeOfImage) _
      (by simp [placeEnd, padding])
  · exact take_drop_layout 8 [.zeros 6 8, .u64 DllBase, .u64 EntryPoint, .u32 SizeOfImage, .zeros 1 4, .u16 Length,
      .u16 MaximumLength] (.u64 Buffer) _ (by simp [placeEnd, padding])
  · exact take_drop_layout 8 [.zeros 6 8, .u64 DllBase, .u64 EntryPoint, .u32 SizeOfImage, .zeros 1 4, .u16 Length,
      .u16 MaximumLength, .u64 Buffer] (.u16 Length) _ (by simp [placeEnd, padding])
  · exact take_drop_layout 8 [.zeros 6 8, .u64 DllBase, .u64 EntryPoint, .u32 SizeOfImage, .zeros 1 4, .u16 Length,
      .u16 MaximumLength, .u64 Buffer, .u16 Length, .u16 MaximumLength] (.u64 Buffer) _ (by simp [placeEnd, padding])

theorem length_NLS_DATA_BLOCK (ansi oem upcase region locale : UInt64) :
    (NLS_DATA_BLOCK ansi oem upcase region locale).length = 40 := by
  simp [NLS_DATA_BLOCK, length_layout, placeEnd, padding]

theorem fields_NLS_DATA_BLOCK (ansi oem upcase region locale : UInt64) :
    let record := NLS_DATA_BLOCK ansi oem upcase region locale
    (record.drop 0).take 8 = ofUInt64 ansi ∧ (record.drop 0x8).take 8 = ofUInt64 oem ∧
      (record.drop 0x10).take 8 = ofUInt64 upcase := by
  refine ⟨?_, ?_, ?_⟩
  · exact take_drop_layout 8 [] (.u64 ansi) _ (by simp [placeEnd, padding])
  · exact take_drop_layout 8 [.u64 ansi] (.u64 oem) _ (by simp [placeEnd, padding])
  · exact take_drop_layout 8 [.u64 ansi, .u64 oem] (.u64 upcase) _ (by simp [placeEnd, padding])

end vwfl.loaderblock
